import FixFirst.Batch.Queue
import FixFirst.World

/-!
# Batched work

Work on many files is done in batches, whose size follows the memory pressure.  Each batch has
a budget of its own; the result of a batch that overran it, while the run as a whole still had
time, is dropped and its files are left out.

## Main definitions

* `admission` — all files as one batch, except the ones that scarce memory holds back.
* `process` — all files, batch by batch.
* `plan` — the batches that the files would be put into.
-/

namespace FixFirst

/-- Files that are worked on together. -/
structure Batch (τ : Type) where
  /-- The position of the batch in its run. -/
  index : Nat
  files : List String
  priority : Priority
  /-- The budget of the batch in seconds. -/
  timeout : τ
  deriving Repr

/-- What became of batched work. -/
structure BatchReport (ρ : Type) where
  /-- The results that were kept. -/
  results : List ρ
  /-- The files of the batches whose results were kept. -/
  processed : List String
  /-- The files that were left out. -/
  omitted : List String
  /-- The batches that overran their budgets. -/
  timedOut : List Nat
  /-- How often files were put off. -/
  deferrals : Nat
  /-- Whether the work was cut short. -/
  cancelled : Bool
  deriving Repr

/-- A report on no work. -/
def BatchReport.empty {ρ : Type} : BatchReport ρ := ⟨[], [], [], [], 0, false⟩

namespace BatchReport

variable {τ ρ : Type}

/-- The report after files were put off or left out. -/
def shed (report : BatchReport ρ) (round : Cut) : BatchReport ρ :=
  { report with
    omitted := report.omitted ++ round.omitted
    deferrals := report.deferrals + round.deferrals }

/-- The report after a batch came back.  The result of a batch that overran its budget is dropped,
and its files are left out. -/
def enter (report : BatchReport ρ) (batch : Batch τ) (result : ρ) (overran : Bool) : BatchReport ρ :=
  if overran then
    { report with
      timedOut := report.timedOut ++ [batch.index]
      omitted := report.omitted ++ batch.files }
  else
    { report with
      results := report.results ++ [result]
      processed := report.processed ++ batch.files }

/-- The report when work is cut short before the rest of a queue. -/
def cutShort (report : BatchReport ρ) (queue : List Queued) : BatchReport ρ :=
  { report with
    cancelled := true
    omitted := report.omitted ++ queue.map (·.ranked.file) }

end BatchReport

/-- A batch, and the files that are held back. -/
structure Admission (τ : Type) where
  batch : Batch τ
  deferred : List String
  deriving Repr

/-- What a round of batched work goes by. -/
structure Outlook (τ : Type) where
  /-- Whether memory is scarce. -/
  scarce : Bool
  /-- Whether the time is nearly up; asked only while memory is scarce. -/
  imminent : Bool
  /-- How many files make a batch. -/
  size : Nat
  /-- The time that is left, if there is an end to it. -/
  left : Option τ
  deriving Repr

namespace BatchConfig

variable {τ σ ρ : Type} [Quantity τ]

/-- The budget of a batch of `count` files, at most what a token has left. -/
def timeout (config : BatchConfig τ) (count : Int) (left : Option τ) : τ :=
  let own := config.baseTimeout + config.perFileTimeout * Quantity.ofInt count
  match left with
  | some time => Quantity.least own time
  | none => own

/-- Some files as a batch, while so much time is left. -/
def batch (config : BatchConfig τ) (index : Nat) (files : List Ranked) (left : Option τ) : Batch τ :=
  ⟨index, files.map (·.file), .ofFiles files, config.timeout files.length left⟩

/-- Whether a token has nearly used up a budget. -/
def imminent (config : BatchConfig τ) (left : Option τ) (budget : Option (Amount τ)) : Except Fault Bool := do
  match left, budget with
  | some time, some total => return time ≤ config.imminentRatio * (← inRange total.value?)
  | _, _ => return false

/-- How many files make a batch, by the latest pressure. -/
def size (config : BatchConfig τ) : Act τ σ Nat := do
  return match ← World.latest with
    | some sample => (sample.level.batchSize config.targetSize config.minSize).toNat
    | none => config.targetSize

/-- Normalised files with their priorities, as the disk has them. -/
def queue (files : List String) (critical : Option (List String)) : Act τ σ (List Ranked) := do
  Act.ofExcept (order (← get).disk files critical)

/-- Takes all files as one batch; critical pressure holds back the ones that are not critical. -/
def admission (config : BatchConfig τ) (files : List String) (critical : Option (List String)) (token : Nat) :
    Act τ σ (Admission τ) := do
  let ordered ← queue files critical
  let scarce := (← World.pressure) == .critical
  let held := if scarce then ordered.filter fun ranked => ranked.priority == .deferrable else []
  let taken := if scarce then ordered.filter fun ranked => ranked.priority == .critical else ordered
  let left ← World.askClock (·.remaining? token)
  return ⟨⟨0, taken.map (·.file), if held.length < ordered.length then .critical else .deferrable,
    config.timeout taken.length left⟩, held.map (·.file)⟩

/-- What a round goes by: a new sample of the pressure, and the time that is left. -/
def outlook (config : BatchConfig τ) (token : Nat) (budget : Option (Amount τ)) : Act τ σ (Outlook τ) := do
  let scarce := (← World.pressure) == .critical
  let size ← config.size
  let left ← World.askClock (·.remaining? token)
  let imminent ← Act.ofExcept (if scarce then config.imminent left budget else .ok false)
  return ⟨scarce, imminent, size, left⟩

/-- Works through a queue.  Each round looks at the world, cuts off a batch, and hands it over with a
token of its own. -/
def rounds (config : BatchConfig τ) (handler : Batch τ → Nat → Act τ σ ρ) (token : Nat) (budget : Option (Amount τ))
    (queue : List Queued) (index : Nat) (report : BatchReport ρ) : Act τ σ (BatchReport ρ) := do
  if finished : queue = [] then return report
  else if ← World.isCancelled token then
    return report.cutShort queue
  else
    let view ← config.outlook token budget
    let round := cut config.maxDeferrals view.scarce view.imminent view.size queue
    have _lighter : Queued.total config.maxDeferrals round.rest < Queued.total config.maxDeferrals queue :=
      weight_cut_lt _ _ _ _ _ finished
    if round.taken.isEmpty then rounds config handler token budget round.rest index (report.shed round)
    else
      let batch := config.batch index round.taken view.left
      let (result, overran) ← World.budgeted token batch.timeout (handler batch)
      rounds config handler token budget round.rest (index + 1) ((report.shed round).enter batch result overran)
termination_by Queued.total config.maxDeferrals queue

/-- Works on all files in batches, critical ones first. -/
def process (config : BatchConfig τ) (files : List String) (handler : Batch τ → Nat → Act τ σ ρ) (token : Nat)
    (critical : Option (List String)) (budget : Option (Amount τ)) : Act τ σ (BatchReport ρ) := do
  let ordered ← queue files critical
  config.rounds handler token budget (ordered.map (⟨·, 0⟩)) 0 .empty

/-- Consecutive groups of `size` items, at least one in each. -/
def chunks {α : Type} (size : Nat) (items : List α) : List (List α) :=
  match items with
  | [] => []
  | first :: rest => (first :: rest.take (size - 1)) :: chunks size (rest.drop (size - 1))
termination_by items.length
decreasing_by simp only [List.length_drop, List.length_cons]; omega

/-- The batches that files would be put into under the latest pressure; none is held back. -/
def plan (config : BatchConfig τ) (files : List String) (critical : Option (List String)) (token : Nat) :
    Act τ σ (List (Batch τ)) := do
  let ordered ← queue files critical
  let size ← config.size
  let left ← World.askClock (·.remaining? token)
  return (chunks size ordered).zipIdx.map fun (group, index) => config.batch index group left

end BatchConfig

end FixFirst
