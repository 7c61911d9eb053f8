import FixFirst.Proofs.Run.Jobs

/-!
# Batches in calm

Both phases work under a token of their own, below the token of the run.  As long as the token of
the run is active and the budget of a batch was not overrun, the batch is worked off, and leaves the
tokens as calm as it found them.

## Main definitions

* `RunsJobs` — work that comes down to running jobs.

## Main statements

* `World.budgeted_calm` — work under a token of its own, in calm.
* `World.budgeted_jobs` — a batch of jobs in calm is worked off.
-/

namespace FixFirst

variable {σ α : Type} {outer p : Nat}

theorem World.Sampled.passed {before after : World Rat σ} (h : before.Sampled after) : before.Passed outer after := by
  obtain ⟨monitor, readings, -, rfl⟩ := h
  exact World.Passed.of_eq rfl rfl

theorem Clockwork.isCancelled_eq_false {τ : Type} {clock : Clockwork τ} {token : Nat} :
    clock.forest.isCancelled token = false ↔ clock.forest.reason? token = none := by
  unfold Forest.isCancelled
  exact Option.isSome_eq_false_iff.trans Option.isNone_iff_eq_none

/-- Work under a token of its own, which begins in calm and leaves the token above active.  Unless it
overran its budget, its own token is active at the end of it, and all is calm again. -/
theorem World.budgeted_calm {budget : Rat} {work : Nat → Act Rat σ α} {world after : World Rat σ} {result : α}
    {overran : Bool} (h : (World.budgeted p budget work).on world = (.ok (result, overran), after))
    (hcalm : world.clock.Calm p none) (houter : outer ≤ p)
    (hwork : ∀ own opened result done, (work own).on opened = (.ok result, done) → opened.Passed outer done)
    (hactive : after.clock.forest.isCancelled p = false) :
    ∃ own opened done, (work own).on opened = (.ok result, done) ∧ opened.journal = world.journal ∧
      after.journal = done.journal ∧ world.disk.Alike after.disk ∧
      (overran = false → done.clock.forest.isCancelled own = false ∧ after.clock.Calm p none) := by
  obtain ⟨own, clock, done, hscope, hdone, rfl, hoverran⟩ := World.budgeted_ok h
  obtain ⟨hown, hbeyond, hopened⟩ := hcalm.scopeToken (some budget)
  rw [hscope] at hown hopened
  simp only at hown hopened
  rw [← hown] at hbeyond hopened
  have hpassed := hwork _ _ _ _ hdone
  have hstill : done.clock.forest.reason? p = none := by
    have hreleased := Clockwork.isCancelled_eq_false.mp hactive
    exact (Clockwork.reason?_detach done.clock.forest own p).symm.trans hreleased
  have hticked := hopened.ticks houter hpassed.clock hstill
  obtain ⟨htime, hended⟩ := hticked.ended hbeyond
  refine ⟨own, _, done, hdone, rfl, rfl, hpassed.disk, fun hin => ?_⟩
  obtain ⟨hnone, hcalm'⟩ := hended (htime.symm.trans (hoverran.symm.trans hin))
  exact ⟨Clockwork.isCancelled_eq_false.mpr hnone, hcalm'⟩

/-- Whether work under a token comes down to jobs that run under it, after remarks and readings. -/
def RunsJobs (schedule : List (Job Rat σ) → World Rat σ → Schedule) (serial : Bool) (jobs : List (Job Rat σ))
    (work : Nat → Act Rat σ (List (Outcome Rat))) : Prop :=
  ∀ own opened outcomes done, (work own).on opened = (.ok outcomes, done) →
    ∃ workers seen asides, (opened.noted asides).Sampled seen ∧ (∀ event ∈ asides, event.Aside) ∧
      Change.on (tendJobs schedule own workers serial jobs) seen = (outcomes, done)

/-- A batch of jobs in calm, which was in time and left the token active, is worked off. -/
theorem World.budgeted_jobs {schedule : List (Job Rat σ) → World Rat σ → Schedule} {serial : Bool}
    {jobs : List (Job Rat σ)} {work : Nat → Act Rat σ (List (Outcome Rat))} (hruns : RunsJobs schedule serial jobs work)
    (hproper : ∀ job ∈ jobs, job.engine.Proper outer) {budget : Rat} {world after : World Rat σ}
    {outcomes : List (Outcome Rat)}
    (h : (World.budgeted p budget work).on world = (.ok (outcomes, false), after)) (hcalm : world.clock.Calm p none)
    (houter : outer ≤ p) (hactive : after.clock.forest.isCancelled p = false) :
    after.clock.Calm p none ∧ world.disk.Alike after.disk ∧
      ∃ events, after.journal = world.journal ++ events ∧ WorkedOff serial jobs outcomes events := by
  have hpassed : ∀ own opened outcomes done, (work own).on opened = (.ok outcomes, done) → opened.Passed outer done := by
    intro own opened outcomes done hwork
    obtain ⟨workers, seen, asides, hsampled, -, hrun⟩ := hruns own opened outcomes done hwork
    have hjobs : seen.Passed outer (Change.on (tendJobs schedule own workers serial jobs) seen).2 :=
      passed_tendJobs hproper seen
    rw [hrun] at hjobs
    exact ((World.Passed.noted opened asides).trans hsampled.passed).trans hjobs
  obtain ⟨own, opened, done, hwork, hopened, hdone, halike, hend⟩ :=
    World.budgeted_calm h hcalm houter hpassed hactive
  obtain ⟨howned, hafter⟩ := hend rfl
  obtain ⟨workers, seen, asides, hsampled, hasides, hrun⟩ := hruns own opened outcomes done hwork
  obtain ⟨events, hjournal, hworked⟩ := tendJobs_workedOff hproper hrun howned
  refine ⟨hafter, halike, asides ++ events, ?_, hworked.aside hasides⟩
  rw [hdone, hjournal, hsampled.journal, World.journal_noted, hopened, List.append_assoc]

end FixFirst
