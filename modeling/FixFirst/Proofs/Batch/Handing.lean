import FixFirst.Proofs.Batch.Conservation
import FixFirst.Proofs.Beside.Acts

/-!
# Batches as they are handed over

Batched work need not return: a look at the memory can fail, and so can the handler.  What was handed
over until then is known all the same, from a handler that announces each batch before it works on it.
All work is a stretch of rounds with an end to it, and what the rounds saw determines the batches that
were handed over.

## Main definitions

* `announcing` — a handler that announces each batch that it is given.
* `Sight` — what a round sees; `BatchConfig.batch?` — the batch that it hands over.
* `Cuts` — what rounds leave of a queue, whatever the world is like.
* `Stretch`, `Finish`, `Told` — work round by round, how it ends, and the two together.

## Main statements

* `exists_told` — all work is told by its rounds and its end.
* `Told.announced` — what is told was announced.
* `Told.cuts` — what is told of a queue are cuts.
* `process_opens`, `process_told` — the same of a whole run.
-/

namespace FixFirst

open Relation

variable {τ σ ρ : Type}

/-- A handler that announces its batches: it notes each one, whatever becomes of it. -/
def announcing (handler : Batch τ → Nat → Act τ σ ρ) (batch : Batch τ) (own : Nat) : Act τ (List (Batch τ) × σ) ρ :=
  ExceptT.mk fun world =>
    let (outcome, after) := (handler batch own).on { world with outside := world.outside.2 }
    (outcome, after.watched (world.outside.1 ++ [batch]))

theorem on_announcing (handler : Batch τ → Nat → Act τ σ ρ) (batch : Batch τ) (own : Nat) (world : World τ σ)
    (notes : List (Batch τ)) :
    (announcing handler batch own).on (world.watched notes) =
      (((handler batch own).on world).1, ((handler batch own).on world).2.watched (notes ++ [batch])) := rfl

/-! ### What rounds see -/

/-- The files that a round takes off the queue. -/
def Outlook.front (view : Outlook τ) (queue : List Queued) : List Queued := queue.take (max 1 view.size)

/-- The files that a round leaves where they are. -/
def Outlook.back (view : Outlook τ) (queue : List Queued) : List Queued := queue.drop (max 1 view.size)

theorem Outlook.front_append_back (view : Outlook τ) (queue : List Queued) :
    view.front queue ++ view.back queue = queue := List.take_append_drop _ _

/-- What a round sees before it cuts the queue. -/
structure Sight (τ : Type) where
  queue : List Queued
  /-- The index of the next batch. -/
  index : Nat
  /-- What the look at the world came to. -/
  view : Outlook τ

namespace BatchConfig

/-- The files that a round puts off. -/
def putOff (config : BatchConfig τ) (view : Outlook τ) (queue : List Queued) : List Queued :=
  if view.scarce then (view.front queue).filter (Queued.isPutOff config.maxDeferrals view.imminent) else []

/-- While memory is not scarce, a round takes all of the front. -/
theorem cutFor_plenty (config : BatchConfig τ) {view : Outlook τ} (h : view.scarce = false) (queue : List Queued) :
    (config.cutFor view queue).taken = (view.front queue).map (·.ranked) ∧ (config.cutFor view queue).omitted = [] ∧
      config.putOff view queue = [] := by
  simp [cutFor, cut, putOff, Outlook.front, h]

/-- While memory is scarce, a round takes the critical files of the front. -/
theorem cutFor_scarce (config : BatchConfig τ) {view : Outlook τ} (h : view.scarce = true) (queue : List Queued) :
    (config.cutFor view queue).taken = ((view.front queue).filter Queued.isCritical).map (·.ranked) ∧
      (config.cutFor view queue).omitted =
        ((view.front queue).filter (Queued.isLeftOut config.maxDeferrals view.imminent)).map (·.ranked.file) ∧
      config.putOff view queue = (view.front queue).filter (Queued.isPutOff config.maxDeferrals view.imminent) := by
  simp [cutFor, cut, putOff, Outlook.front, h]

/-- What a round puts off goes to the end of the queue. -/
theorem cutFor_rest (config : BatchConfig τ) (view : Outlook τ) (queue : List Queued) :
    (config.cutFor view queue).rest = view.back queue ++ (config.putOff view queue).map Queued.putOff ∧
      (config.cutFor view queue).deferrals = (config.putOff view queue).length := by
  cases h : view.scarce <;> simp [cutFor, cut, putOff, Outlook.front, Outlook.back, h]

variable [Quantity τ]

/-- The batch that a round hands over, if any. -/
def batch? (config : BatchConfig τ) (sight : Sight τ) : Option (Batch τ) :=
  if (config.cutFor sight.view sight.queue).taken = [] then none
  else some (config.batchFor sight.view sight.queue sight.index)

/-- The batches that rounds hand over. -/
def handed (config : BatchConfig τ) (sights : List (Sight τ)) : List (Batch τ) := sights.filterMap config.batch?

@[simp] theorem handed_nil (config : BatchConfig τ) : config.handed [] = [] := rfl

@[simp] theorem handed_append (config : BatchConfig τ) (first second : List (Sight τ)) :
    config.handed (first ++ second) = config.handed first ++ config.handed second := List.filterMap_append

variable {config : BatchConfig τ} {queue : List Queued} {index : Nat} {view : Outlook τ}

theorem handed_idle (h : (config.cutFor view queue).taken = []) : config.handed [⟨queue, index, view⟩] = [] := by
  simp [handed, batch?, h]

theorem handed_batch (h : (config.cutFor view queue).taken ≠ []) :
    config.handed [⟨queue, index, view⟩] = [config.batchFor view queue index] := by
  simp [handed, batch?, h]

/-- What rounds leave of a queue when they saw this, whatever the world was like.  Batches are numbered as they
are handed over. -/
inductive Cuts (config : BatchConfig τ) (start : List Queued) : List (Sight τ) → List Queued → Prop
  | none : Cuts config start [] start
  | round {sights : List (Sight τ)} {queue : List Queued} (before : Cuts config start sights queue)
      (waiting : queue ≠ []) (view : Outlook τ) :
      Cuts config start (sights ++ [⟨queue, (config.handed sights).length, view⟩]) (config.cutFor view queue).rest

/-! ### Rounds and their end -/

/-- Rounds one after the other, and what each of them saw. -/
inductive Stretch (config : BatchConfig τ) (handler : Batch τ → Nat → Act τ σ ρ) (token : Nat)
    (budget : Option (Amount τ)) (first : Progress τ σ ρ) : List (Sight τ) → Progress τ σ ρ → Prop
  | start : Stretch config handler token budget first [] first
  | round {sights : List (Sight τ)} {here next : Progress τ σ ρ} {view : Outlook τ} {seen : World τ σ}
      (before : Stretch config handler token budget first sights here)
      (look : (config.outlook token budget).on here.world = (.ok view, seen))
      (step : Round config handler token budget here next) :
      Stretch config handler token budget first (sights ++ [⟨here.queue, here.index, view⟩]) next

/-- How work ends, with what is seen of it: in a report, in a look at the world that fails, or in a round whose
handler fails. -/
inductive Finish (config : BatchConfig τ) (handler : Batch τ → Nat → Act τ σ ρ) (token : Nat)
    (budget : Option (Amount τ)) (last : Progress τ σ ρ) :
    List (Sight τ) → Except Fault (BatchReport ρ) → World τ σ → Prop
  | ended {report : BatchReport ρ} (reports : Ended token last report) :
      Finish config handler token budget last [] (.ok report) last.world
  | blind {fault : Fault} {seen : World τ σ} (waiting : last.queue ≠ [])
      (going : last.world.clock.forest.isCancelled token = false)
      (look : (config.outlook token budget).on last.world = (.error fault, seen)) :
      Finish config handler token budget last [] (.error fault) seen
  | broken {view : Outlook τ} {seen after : World τ σ} {fault : Fault} (waiting : last.queue ≠ [])
      (going : last.world.clock.forest.isCancelled token = false)
      (look : (config.outlook token budget).on last.world = (.ok view, seen))
      (something : (config.cutFor view last.queue).taken ≠ [])
      (work : (World.budgeted token (config.batchFor view last.queue last.index).timeout
        (handler (config.batchFor view last.queue last.index))).on seen = (.error fault, after)) :
      Finish config handler token budget last [⟨last.queue, last.index, view⟩] (.error fault) after

/-- Work from its start to its end, told by what its rounds saw. -/
inductive Told (config : BatchConfig τ) (handler : Batch τ → Nat → Act τ σ ρ) (token : Nat)
    (budget : Option (Amount τ)) (first : Progress τ σ ρ) (sights : List (Sight τ))
    (outcome : Except Fault (BatchReport ρ)) (after : World τ σ) : Prop
  | of {before final : List (Sight τ)} {last : Progress τ σ ρ} (all : sights = before ++ final)
      (rounds : Stretch config handler token budget first before last)
      (finish : Finish config handler token budget last final outcome after)

section

variable {handler : Batch τ → Nat → Act τ σ ρ} {token : Nat} {budget : Option (Amount τ)}
  {first here next last : Progress τ σ ρ} {sights final : List (Sight τ)} {outcome : Except Fault (BatchReport ρ)}
  {seen after : World τ σ}

/-- What a round does, by what it saw. -/
theorem Round.spec (h : Round config handler token budget here next)
    (look : (config.outlook token budget).on here.world = (.ok view, seen)) :
    here.queue ≠ [] ∧ next.queue = (config.cutFor view here.queue).rest ∧
      ((config.cutFor view here.queue).taken = [] ∧ next.index = here.index ∧
          next.report = here.report.shed (config.cutFor view here.queue) ∧ next.world = seen ∨
        (config.cutFor view here.queue).taken ≠ [] ∧ next.index = here.index + 1 ∧
          ∃ result overran, next.report = (here.report.shed (config.cutFor view here.queue)).enter
              (config.batchFor view here.queue here.index) result overran ∧
            (World.budgeted token (config.batchFor view here.queue here.index).timeout
              (handler (config.batchFor view here.queue here.index))).on seen = (.ok (result, overran), next.world)) := by
  cases h with
  | idle waiting going look' nothing =>
      cases look.symm.trans look'
      exact ⟨waiting, rfl, Or.inl ⟨nothing, rfl, rfl, rfl⟩⟩
  | handed waiting going look' something work =>
      cases look.symm.trans look'
      exact ⟨waiting, rfl, Or.inr ⟨something, rfl, _, _, rfl, work⟩⟩

theorem Stretch.rounds (h : Stretch config handler token budget first sights last) :
    ReflTransGen (Round config handler token budget) first last := by
  induction h with
  | start => exact ReflTransGen.refl
  | round before look step ih => exact ih.tail step

/-- What is seen at the end of the work is seen by a look that succeeds, while files wait. -/
theorem Finish.look_of_mem (h : Finish config handler token budget last final outcome after) {sight : Sight τ}
    (hin : sight ∈ final) : ∃ view seen, sight = ⟨last.queue, last.index, view⟩ ∧ last.queue ≠ [] ∧
      (config.outlook token budget).on last.world = (.ok view, seen) := by
  cases h with
  | ended reports => exact absurd hin List.not_mem_nil
  | blind waiting going look => exact absurd hin List.not_mem_nil
  | broken waiting going look something work => exact ⟨_, _, List.mem_singleton.mp hin, waiting, look⟩

/-- An end is what the work comes to there. -/
theorem Finish.proceeds (h : Finish config handler token budget last final outcome after) :
    config.proceed handler token budget last = (outcome, after) := by
  cases h with
  | ended reports => exact proceed_of_ended reports
  | blind waiting going look =>
      obtain ⟨queue, index, report, world⟩ := last
      rw [proceed_going waiting going, Act.on_bind, look]
  | broken waiting going look something work =>
      obtain ⟨queue, index, report, world⟩ := last
      rw [proceed_going waiting going, Act.on_bind_of_ok look, if_neg (by simpa using something), Act.on_bind, work]

/-- What is told is what the work comes to. -/
theorem Told.proceeds (h : Told config handler token budget first sights outcome after) :
    config.proceed handler token budget first = (outcome, after) := by
  obtain ⟨-, rounds, finish⟩ := h
  rw [proceed_eq_of_rounds rounds.rounds, finish.proceeds]

/-- The work ends, or there is a round. -/
theorem finish_or_round (config : BatchConfig τ) (handler : Batch τ → Nat → Act τ σ ρ) (token : Nat)
    (budget : Option (Amount τ)) (here : Progress τ σ ρ) :
    (∃ final outcome after, Finish config handler token budget here final outcome after) ∨
      ∃ view seen next, here.queue ≠ [] ∧ (config.outlook token budget).on here.world = (.ok view, seen) ∧
        Round config handler token budget here next := by
  obtain ⟨queue, index, report, world⟩ := here
  by_cases waiting : queue = []
  · exact Or.inl ⟨_, _, _, .ended (Or.inl ⟨waiting, rfl⟩)⟩
  cases going : world.clock.forest.isCancelled token with
  | true => exact Or.inl ⟨_, _, _, .ended (Or.inr ⟨waiting, going, rfl⟩)⟩
  | false =>
      rcases look : (config.outlook token budget).on world with ⟨looked, seen⟩
      cases looked with
      | error fault => exact Or.inl ⟨_, _, _, .blind waiting going look⟩
      | ok view =>
          by_cases nothing : (config.cutFor view queue).taken = []
          · exact Or.inr ⟨view, seen, _, waiting, rfl, .idle waiting going look nothing⟩
          · rcases work : (World.budgeted token (config.batchFor view queue index).timeout
              (handler (config.batchFor view queue index))).on seen with ⟨answer, after⟩
            cases answer with
            | error fault => exact Or.inl ⟨_, _, _, .broken waiting going look nothing work⟩
            | ok answer => exact Or.inr ⟨view, seen, _, waiting, rfl, .handed waiting going look nothing work⟩

/-- From wherever rounds lead, the work can be told to its end. -/
theorem Stretch.exists_told (h : Stretch config handler token budget first sights here) :
    ∃ more outcome after, Told config handler token budget first (sights ++ more) outcome after := by
  -- Every round makes the queue lighter.
  induction hn : Queued.total config.maxDeferrals here.queue using Nat.strongRecOn generalizing sights here with
  | _ n ih =>
    rcases finish_or_round config handler token budget here with ⟨final, outcome, after, finish⟩ |
      ⟨view, seen, next, waiting, look, step⟩
    · exact ⟨final, outcome, after, rfl, h, finish⟩
    · have lighter : Queued.total config.maxDeferrals next.queue < n := by
        rw [(step.spec look).2.1, ← hn]
        exact weight_cut_lt _ _ _ _ _ waiting
      obtain ⟨more, outcome, after, htold⟩ := ih _ lighter (h.round look step) rfl
      rw [List.append_assoc] at htold
      exact ⟨_, outcome, after, htold⟩

/-- All work is told by its rounds and its end. -/
theorem exists_told (h : config.proceed handler token budget first = (outcome, after)) :
    ∃ sights, Told config handler token budget first sights outcome after := by
  have hstart : Stretch config handler token budget first [] first := .start
  obtain ⟨sights, outcome', after', htold⟩ := hstart.exists_told
  obtain ⟨rfl, rfl⟩ := Prod.mk.inj (htold.proceeds.symm.trans h)
  exact ⟨sights, htold⟩

/-! ### What is told of a queue -/

/-- Rounds from the first batch on cut the queue, and number their batches. -/
theorem Stretch.cuts (h : Stretch config handler token budget first sights last) (hindex : first.index = 0) :
    Cuts config first.queue sights last.queue ∧ last.index = (config.handed sights).length := by
  induction h with
  | start => exact ⟨.none, hindex⟩
  | @round sights here next view seen before look step ih =>
      obtain ⟨hcuts, hhere⟩ := ih
      obtain ⟨waiting, hqueue, hcases⟩ := step.spec look
      have hround := hcuts.round waiting view
      rw [← hhere, ← hqueue] at hround
      refine ⟨hround, ?_⟩
      rcases hcases with ⟨nothing, hnext, -⟩ | ⟨something, hnext, -⟩
      · rw [handed_append, handed_idle nothing, List.append_nil, hnext, hhere]
      · rw [handed_append, handed_batch something, List.length_append, hnext, hhere]
        rfl

/-- What is told of a queue are cuts. -/
theorem Told.cuts (h : Told config handler token budget first sights outcome after) (hindex : first.index = 0) :
    ∃ rest, Cuts config first.queue sights rest := by
  obtain ⟨rfl, rounds, finish⟩ := h
  obtain ⟨hcuts, hlast⟩ := rounds.cuts hindex
  cases finish with
  | ended reports =>
      rw [List.append_nil]
      exact ⟨_, hcuts⟩
  | blind waiting going look =>
      rw [List.append_nil]
      exact ⟨_, hcuts⟩
  | broken waiting going look something work =>
      rw [hlast]
      exact ⟨_, hcuts.round waiting _⟩

/-! ### Announced batches -/

theorem budgeted_announcing (token : Nat) (batch : Batch τ) (limit : τ) (world : World τ σ) (notes : List (Batch τ)) :
    (World.budgeted token limit (announcing handler batch)).on (world.watched notes) =
      (((World.budgeted token limit (handler batch)).on world).1,
        ((World.budgeted token limit (handler batch)).on world).2.watched (notes ++ [batch])) := by
  have hwork := on_announcing handler batch world.clock.forest.tokens.length
    { world with clock := (world.clock.scopeToken token (some limit)).2 } notes
  rcases hon : (handler batch world.clock.forest.tokens.length).on
    { world with clock := (world.clock.scopeToken token (some limit)).2 } with ⟨outcome, done⟩
  rw [hon] at hwork
  have hnoted : (announcing handler batch (world.watched notes).clock.forest.tokens.length).on
      { world.watched notes with clock := ((world.watched notes).clock.scopeToken token (some limit)).2 } =
        (outcome, done.watched (notes ++ [batch])) := hwork
  rw [World.on_budgeted_eq, World.on_budgeted_eq, hnoted, hon]
  cases outcome <;> rfl

/-- A look at the world does not see the notes. -/
theorem look_watched {result : Except Fault (Outlook τ)} (notes : List (Batch τ)) {world : World τ σ}
    (look : (config.outlook token budget).on world = (result, seen)) :
    (config.outlook token budget).on (world.watched notes) = (result, seen.watched notes) := by
  rw [unwatched_outlook config token budget world notes, look]

/-- A round of an announcing handler is the same round, and announces its batch. -/
theorem Round.announcing (h : Round config handler token budget here next) (notes : List (Batch τ))
    (look : (config.outlook token budget).on here.world = (.ok view, seen)) :
    Round config (FixFirst.announcing handler) token budget (here.watched notes)
      (next.watched (notes ++ config.handed [⟨here.queue, here.index, view⟩])) := by
  have hlook := look_watched notes look
  cases h with
  | idle waiting going look' nothing =>
      cases look.symm.trans look'
      rw [handed_idle nothing, List.append_nil]
      exact .idle waiting going hlook nothing
  | handed waiting going look' something work =>
      cases look.symm.trans look'
      rw [handed_batch something]
      refine .handed waiting going hlook something ?_
      rw [budgeted_announcing, work]

theorem Stretch.announcing (h : Stretch config handler token budget first sights last) :
    Stretch config (FixFirst.announcing handler) token budget (first.watched ([] : List (Batch τ))) sights
      (last.watched (config.handed sights)) := by
  induction h with
  | start => exact .start
  | round before look step ih =>
      rw [handed_append]
      exact ih.round (look_watched _ look) (step.announcing _ look)

theorem Finish.announcing (h : Finish config handler token budget last final outcome after) (notes : List (Batch τ)) :
    Finish config (FixFirst.announcing handler) token budget (last.watched notes) final outcome
      (after.watched (notes ++ config.handed final)) := by
  cases h with
  | @ended report reports =>
      have hreports : Ended token (last.watched notes) report := reports
      rw [handed_nil, List.append_nil]
      exact .ended hreports
  | blind waiting going look =>
      rw [handed_nil, List.append_nil]
      exact .blind waiting going (look_watched notes look)
  | @broken view seen after fault waiting going look something work =>
      have hwork : (World.budgeted token (config.batchFor view last.queue last.index).timeout
          (FixFirst.announcing handler (config.batchFor view last.queue last.index))).on (seen.watched notes) =
            (.error fault, after.watched (notes ++ [config.batchFor view last.queue last.index])) := by
        rw [budgeted_announcing, work]
      rw [handed_batch something]
      exact .broken waiting going (look_watched notes look) something hwork

/-- What is told was announced: the same is told of an announcing handler, with the batches in its notes. -/
theorem Told.announced (h : Told config handler token budget first sights outcome after) :
    config.proceed (announcing handler) token budget (first.watched ([] : List (Batch τ))) =
      (outcome, after.watched (config.handed sights)) := by
  obtain ⟨rfl, rounds, finish⟩ := h
  rw [handed_append]
  exact Told.proceeds ⟨rfl, rounds.announcing, finish.announcing _⟩

/-! ### Whole runs -/

/-- Where the work on files in order starts. -/
def opening (ordered : List Ranked) (world : World τ σ) : Progress τ σ ρ :=
  ⟨ordered.map (Queued.mk · 0), 0, .empty, world⟩

variable {files : List String} {critical : Option (List String)} {world : World τ σ}

/-- Work on files that cannot be put in order does not start. -/
theorem process_error {fault : Fault} (horder : order world.disk files critical = .error fault) :
    (config.process files handler token critical budget).on world = (.error fault, world) := by
  unfold process
  rw [Act.on_bind, on_queue, horder]

/-- Work on files in order starts with all of them in the queue. -/
theorem process_opens {ordered : List Ranked} (horder : order world.disk files critical = .ok ordered) :
    (config.process files handler token critical budget).on world =
      config.proceed handler token budget (opening ordered world) := by
  unfold process
  rw [Act.on_bind_of_ok (queue_ok horder)]
  rfl

/-- A run is told by its rounds and its end, and its batches are announced. -/
theorem process_told {ordered : List Ranked} (horder : order world.disk files critical = .ok ordered)
    (h : (config.process files handler token critical budget).on world = (outcome, after)) :
    ∃ sights, Told config handler token budget (opening ordered world) sights outcome after ∧
      (config.process files (announcing handler) token critical budget).on (world.watched []) =
        (outcome, after.watched (config.handed sights)) := by
  have horder' : order (world.watched ([] : List (Batch τ))).disk files critical = .ok ordered := horder
  rw [process_opens horder] at h
  rw [process_opens horder']
  obtain ⟨sights, htold⟩ := exists_told h
  exact ⟨sights, htold, htold.announced⟩

end

end BatchConfig

end FixFirst
