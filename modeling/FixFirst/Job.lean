import FixFirst.Engine

/-!
# Jobs of a phase

The calls of a phase are jobs, run one after the other or side by side.  What an engine does
wrong stays with its job.  Once the token of the phase is cancelled no job is started, and the
jobs that do not come back in time are abandoned; a time that the system does not wait is a fault of
the phase.

## Main definitions

* `Job.run` — one job.
* `runSerial` — one job after the other.
* `Schedule`, `runParallel` — jobs side by side, under any order of their coming back.
-/

namespace FixFirst

/-- A call of an engine that is to be made. -/
structure Job (τ σ : Type) where
  engine : Engine τ σ
  pass : Pass
  files : List String

namespace Job

variable {τ σ : Type} [Quantity τ]

/-- What became of a job. -/
def outcome (job : Job τ σ) (verdict : Verdict τ) : Outcome τ := ⟨job.engine.name, job.pass, verdict⟩

/-- The result of a job that was cancelled. -/
def partialResult (job : Job τ σ) (duration : τ) : EngineResult τ :=
  ⟨job.engine.name, job.engine.kind, job.pass, false, [], duration, none, 0, [], [], true⟩

/-- What a reply means for a job that took so long. -/
def verdict? (job : Job τ σ) (duration : τ) : Reply τ → Option (Verdict τ)
  | .result result => some (.result result)
  | .fault fault => some <| match fault with
    | .toolMissing .. => .missing fault.message
    | .cancelled _ => .result (job.partialResult duration)
    | _ => .failure fault.failureText
  | .silence => none

/-- Makes a call.  There is an outcome unless the call does not come back. -/
def run (job : Job τ σ) (token : Nat) : Change τ σ (Option (Outcome τ)) := do
  let started ← World.now
  World.log (.called job.engine.name job.pass job.files)
  let reply ← job.engine.call job.pass job.files token
  match job.verdict? ((← World.now) - started) reply with
  | none => return none
  | some verdict =>
    World.log (.completed (job.outcome verdict))
    return some (job.outcome verdict)

end Job

variable {τ σ : Type} [Quantity τ]

/-- Runs jobs one after the other; after cancellation, none is started. -/
def runSerial (token : Nat) : List (Job τ σ) → Change τ σ (List (Outcome τ))
  | [] => return []
  | job :: rest => do
    match ← World.askClock (·.forest.reason? token) with
    | some reason =>
      World.log (.unstarted job.engine.name reason)
      return job.outcome .abandoned :: (← runSerial token rest)
    | none =>
      let outcome ← job.run token
      return outcome.getD (job.outcome .abandoned) :: (← runSerial token rest)

/-- In what order jobs come back. -/
structure Schedule where
  /-- For each look at the workers, the jobs that came back since the one before. -/
  polls : List (List Nat)
  /-- The jobs that come back in the time of grace after cancellation. -/
  grace : List Nat
  deriving Repr

/-- All jobs come back before the first look, in their order. -/
def Schedule.inOrder (count : Nat) : Schedule := ⟨[List.range count], []⟩

/-- Where a job is. -/
inductive Slot (τ σ : Type) where
  /-- It has not come back. -/
  | waiting (job : Job τ σ)
  /-- It will not come back. -/
  | stuck (job : Job τ σ)
  | back (outcome : Outcome τ)

namespace Slot

/-- Whether a job has come back. -/
def isBack : Slot τ σ → Bool
  | .back _ => true
  | _ => false

/-- Lets a job come back. -/
def proceed (token : Nat) : Slot τ σ → Change τ σ (Slot τ σ)
  | .waiting job => do
    return match ← job.run token with
      | some outcome => .back outcome
      | none => .stuck job
  | slot => return slot

/-- The outcome of a job; one that has not come back is abandoned. -/
def settle : Slot τ σ → Change τ σ (Outcome τ)
  | .back outcome => return outcome
  | .waiting job | .stuck job => do
    World.log (.abandoned job.engine.name)
    return job.outcome .abandoned

end Slot

/-- Lets the jobs at some positions come back, in that order. -/
def comeBack (token : Nat) : List Nat → List (Slot τ σ) → Change τ σ (List (Slot τ σ))
  | [], slots => return slots
  | position :: rest, slots => do
    match slots[position]? with
    | none => comeBack token rest slots
    | some slot => comeBack token rest (slots.set position (← slot.proceed token))

/-- Looks at the workers until all jobs are back or the token is cancelled, which leaves a time
of grace.  After the last look, every job comes back that can. -/
def await (token : Nat) (grace : List Nat) : List (List Nat) → List (Slot τ σ) → Change τ σ (List (Slot τ σ))
  | [], slots => comeBack token (List.range slots.length) slots
  | positions :: rest, slots => do
    let slots ← comeBack token positions slots
    if slots.all Slot.isBack then return slots
    else if ← World.isCancelled token then comeBack token grace slots
    else await token grace rest slots

/-- The outcomes of all jobs, in their order. -/
def settleAll : List (Slot τ σ) → Change τ σ (List (Outcome τ))
  | [] => return []
  | slot :: rest => do
    let outcome ← slot.settle
    return outcome :: (← settleAll rest)

/-- A schedule in which no job comes back in the time of grace, unless that is granted. -/
def Schedule.within (schedule : Schedule) (granted : Bool) : Schedule :=
  if granted then schedule else { schedule with grace := [] }

/-- Runs jobs side by side.  If the time of grace is not granted, there is no waiting for the jobs that
are not back once the token is cancelled. -/
def runParallel (granted : Bool) (schedule : Schedule) (token : Nat) (jobs : List (Job τ σ)) :
    Act τ σ (List (Outcome τ)) := do
  let schedule := schedule.within granted
  let slots ← await token schedule.grace schedule.polls (jobs.map .waiting)
  if !granted && !slots.all Slot.isBack && (← World.isCancelled token) then throw World.refusedWait
  settleAll slots

/-- Runs the jobs of a phase by at most `workers` workers: one outcome per job, in their order. -/
def runJobs (granted : Bool) (schedule : List (Job τ σ) → World τ σ → Schedule) (token workers : Nat) (serial : Bool)
    (jobs : List (Job τ σ)) : Act τ σ (List (Outcome τ)) := do
  if serial || workers ≤ 1 || jobs.length ≤ 1 then runSerial token jobs
  else
    World.log (.pool (min workers jobs.length))
    runParallel granted (schedule jobs (← get)) token jobs

end FixFirst
