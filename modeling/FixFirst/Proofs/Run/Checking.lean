import FixFirst.Proofs.Batch.Conservation
import FixFirst.Proofs.Run.Batches
import FixFirst.Proofs.Run.Passage

/-!
# What the check phase leaves

As long as the token of the phases is active and no batch overran its budget, every engine that is
asked about a processed file has covered it by a call that came back.  Whatever is in the queue ends
up processed or omitted.

## Main definitions

* `CheckedWell` — what check batches leave.
* `CalmSince` — the invariant of the rounds.

## Main statements

* `CalmSince.round`, `CalmSince.rounds` — one round keeps the invariant, and so do all.
* `Runner.checkAll_well` — a check phase in calm.
-/

namespace FixFirst

open Relation

variable {σ : Type} {runner : Runner Rat σ} {outer p : Nat} {course : Course Rat}

/-! ### Jobs of a check batch -/

/-- Which files an engine is asked about does not depend on the others in the batch. -/
theorem Runner.mem_filesFor {engine : Engine Rat σ} {files : List String} {file : String} (hfile : file ∈ files)
    (hasked : file ∈ runner.filesFor course engine [file]) : file ∈ runner.filesFor course engine files := by
  unfold Runner.filesFor at hasked ⊢
  split
  · rename_i hprecise
    rw [if_pos hprecise] at hasked
    exact List.mem_filter.mpr ⟨hfile, (List.mem_filter.mp hasked).2⟩
  · exact hfile

/-- An engine that is available, did not fail, and is asked about a file has a job for it. -/
theorem Runner.exists_checkJob {engine : Engine Rat σ} {files : List String} {file : String}
    (hin : engine ∈ runner.engines) (havailable : course.unavailable.holds engine.name = false)
    (hfine : course.failed.holds engine.name = false) (hfile : file ∈ files)
    (hasked : file ∈ runner.filesFor course engine [file]) :
    ∃ job ∈ runner.checkJobs course files, job.engine = engine ∧ job.pass = .check ∧ file ∈ job.files := by
  have hmem := Runner.mem_filesFor hfile hasked
  refine ⟨Job.mk engine .check (runner.filesFor course engine files), ?_, rfl, rfl, hmem⟩
  refine List.mem_filter.mpr ⟨List.mem_map.mpr ⟨engine, ?_, rfl⟩, ?_⟩
  · refine List.mem_filter.mpr ⟨List.mem_filter.mpr ⟨hin, ?_⟩, ?_⟩
    · rw [havailable]
      rfl
    · rw [hfine]
      rfl
  · simpa using List.ne_nil_of_mem hmem

theorem Runner.proper_checkJobs (hproper : ∀ engine ∈ runner.engines, engine.Proper outer) (files : List String) :
    ∀ job ∈ runner.checkJobs course files, job.engine.Proper outer ∧ job.pass = .check := by
  intro job hjob
  obtain ⟨engine, hengine, rfl⟩ := List.mem_map.mp (List.mem_filter.mp hjob).1
  exact ⟨hproper engine (List.mem_filter.mp (List.mem_filter.mp hengine).1).1, rfl⟩

theorem Runner.checkBatch_runsJobs (batch : Batch Rat) :
    RunsJobs runner.granted false (runner.checkJobs course batch.files) (runner.checkBatch course batch) := by
  intro own opened outcomes done h
  obtain ⟨message, workers, seen, hsampled, hjobs⟩ := Runner.checkBatch_ok h
  refine ⟨workers, seen, [.debug message], hsampled, ?_, hjobs⟩
  intro event hin
  rw [List.mem_singleton.mp hin]
  trivial

/-- A job covers its files. -/
theorem WorkedOff.exists_covers {serial : Bool} {jobs : List (Job Rat σ)} {outcomes : List (Outcome Rat)}
    {events : List (Event Rat)} (h : WorkedOff serial jobs outcomes events) {job : Job Rat σ} (hjob : job ∈ jobs)
    {file : String} (hfile : file ∈ job.files) :
    ∃ outcome ∈ outcomes, ∃ before after, Covers events job.engine.name job.pass file outcome before after := by
  obtain ⟨left, right, rfl⟩ := List.append_of_mem hjob
  obtain ⟨earlier, outcome, later, rfl, hleft, -⟩ := h.exists_split
  obtain ⟨first, last, hcovers, -⟩ := h.covers hleft hfile
  exact ⟨outcome, List.mem_append_right _ List.mem_cons_self, first, last, hcovers⟩

/-! ### Batch after batch -/

/-- What check batches leave: a smooth journal of check calls, in which every engine that is asked about a
processed file covers it. -/
structure CheckedWell (runner : Runner Rat σ) (course : Course Rat) (processed : List String)
    (results : List (List (Outcome Rat))) (events : List (Event Rat)) : Prop where
  smooth : Smooth events
  passes : ∀ outcome, .completed outcome ∈ events → outcome.pass = .check
  covers : ∀ engine ∈ runner.engines, course.unavailable.holds engine.name = false →
    course.failed.holds engine.name = false → ∀ file ∈ processed, file ∈ runner.filesFor course engine [file] →
      ∃ outcome ∈ results.flatten, ∃ before after, Covers events engine.name .check file outcome before after

theorem CheckedWell.nil : CheckedWell runner course [] [] [] :=
  ⟨.nil, fun _ hin => (by cases hin), fun _ _ _ _ _ hin => by cases hin⟩

/-- One more batch that was worked off. -/
theorem CheckedWell.batch {processed files : List String} {results : List (List (Outcome Rat))}
    {outcomes : List (Outcome Rat)} {events more : List (Event Rat)}
    (hproper : ∀ engine ∈ runner.engines, engine.Proper outer) (h : CheckedWell runner course processed results events)
    (hworked : WorkedOff false (runner.checkJobs course files) outcomes more) :
    CheckedWell runner course (processed ++ files) (results ++ [outcomes]) (events ++ more) := by
  refine ⟨h.smooth.append hworked.smooth, fun outcome hin => ?_, fun engine hin havailable hfine file hfile hasked => ?_⟩
  · rcases List.mem_append.mp hin with hold | hnew
    · exact h.passes outcome hold
    · obtain ⟨job, hjob⟩ := hworked.mem_outcomes hnew
      obtain ⟨trace, hanswered⟩ := hworked.answered hjob
      exact hanswered.pass.trans (Runner.proper_checkJobs hproper files job (List.of_mem_zip hjob).1).2
  · rw [List.flatten_append, List.flatten_singleton]
    rcases List.mem_append.mp hfile with hold | hnew
    · obtain ⟨outcome, houtcome, before, after, hcovers⟩ := h.covers engine hin havailable hfine file hold hasked
      exact ⟨outcome, List.mem_append_left _ houtcome, _, _, hcovers.extend [] more⟩
    · obtain ⟨job, hjob, rfl, hpass, hmem⟩ := Runner.exists_checkJob hin havailable hfine hnew hasked
      obtain ⟨outcome, houtcome, before, after, hcovers⟩ := hworked.exists_covers hjob hmem
      rw [hpass] at hcovers
      have hextended := hcovers.extend events []
      rw [List.append_nil] at hextended
      exact ⟨outcome, List.mem_append_right _ houtcome, _, _, hextended⟩

/-! ### The invariant of the rounds -/

/-- What is true between rounds, as long as the token is active and no batch was late: all is calm since
`start`, and the batches so far were worked off. -/
def CalmSince (runner : Runner Rat σ) (course : Course Rat) (p : Nat) (start : World Rat σ)
    (progress : Progress Rat σ (List (Outcome Rat))) : Prop :=
  progress.world.clock.forest.isCancelled p = false → progress.report.timedOut = [] →
    progress.world.clock.Calm p none ∧ start.disk.Alike progress.world.disk ∧
      ∃ events, progress.world.journal = start.journal ++ events ∧
        CheckedWell runner course progress.report.processed progress.report.results events

variable {config : BatchConfig Rat} {budget : Option (Amount Rat)} {start : World Rat σ}
  {first next last : Progress Rat σ (List (Outcome Rat))}

/-- One round keeps the invariant. -/
theorem CalmSince.round (hproper : ∀ engine ∈ runner.engines, engine.Proper outer) (houter : outer ≤ p)
    (h : CalmSince runner course p start first)
    (hround : BatchConfig.Round config (runner.checkBatch course) p budget first next) :
    CalmSince runner course p start next := by
  intro hactive hintime
  cases hround with
  | @idle queue index report world seen view waiting going look nothing =>
      have hsampled := World.sampled_outlook look
      obtain ⟨hcalm, halike, events, hjournal, hchecked⟩ := h going hintime
      exact ⟨hsampled.clock ▸ hcalm, hsampled.disk ▸ halike, events, hsampled.journal.trans hjournal, hchecked⟩
  | @handed queue index report world seen after view outcomes overran waiting going look something work =>
      have hsampled := World.sampled_outlook look
      cases overran with
      | true => exact absurd hintime (by simp [BatchReport.enter])
      | false =>
          obtain ⟨hcalm, halike, events, hjournal, hchecked⟩ := h going hintime
          obtain ⟨hcalm', halike', more, hmore, hworked⟩ := World.budgeted_jobs (Runner.checkBatch_runsJobs _)
            (fun job hjob => (Runner.proper_checkJobs hproper _ job hjob).1) work
            (hsampled.clock.symm ▸ hcalm) houter hactive
          refine ⟨hcalm', (hsampled.disk.symm ▸ halike).trans halike', events ++ more, ?_, hchecked.batch hproper hworked⟩
          rw [hmore, hsampled.journal, hjournal, List.append_assoc]

/-- Any number of rounds keep the invariant. -/
theorem CalmSince.rounds (hproper : ∀ engine ∈ runner.engines, engine.Proper outer) (houter : outer ≤ p)
    (h : CalmSince runner course p start first)
    (hrounds : ReflTransGen (BatchConfig.Round config (runner.checkBatch course) p budget) first last) :
    CalmSince runner course p start last := by
  induction hrounds with
  | refl => exact h
  | tail _ step ih => exact ih.round hproper houter step

/-! ### A whole check phase -/

/-- A check phase in calm that was in time and left the token active. -/
theorem Runner.checkAll_well {request : Request Rat} {setup : Setup Rat} {world after : World Rat σ}
    {batches : BatchReport (List (Outcome Rat))}
    (hproper : ∀ engine ∈ runner.engines, engine.Proper outer) (houter : outer ≤ setup.phaseToken)
    (h : (runner.checkAll request setup course).on world = (.ok batches, after))
    (hcalm : world.clock.forest.isCancelled setup.phaseToken = true ∨ world.clock.Calm setup.phaseToken none)
    (hactive : after.clock.forest.isCancelled setup.phaseToken = false) (hintime : batches.timedOut = []) :
    after.clock.Calm setup.phaseToken none ∧ world.disk.Alike after.disk ∧
      (∃ events, after.journal = world.journal ++ events ∧
        CheckedWell runner course batches.processed batches.results events) ∧
      ∀ input, world.disk.normalizeAll setup.files = .ok input →
        ∀ file ∈ input, file ∈ batches.processed ∨ file ∈ batches.omitted := by
  unfold Runner.checkAll at h
  split at h
  · rename_i hnone
    cases h
    rw [hactive] at hcalm
    refine ⟨hcalm.resolve_left Bool.false_ne_true, Disk.Alike.refl _, ⟨[], (List.append_nil _).symm, .nil⟩,
      fun input hinput file hfile => ?_⟩
    rw [List.isEmpty_iff.mp hnone] at hinput
    cases hinput
    cases hfile
  · obtain ⟨ordered, last, -, hrounds, hend, rfl⟩ := BatchConfig.process_ok h
    have hstart : CalmSince runner course setup.phaseToken world
        ⟨ordered.map (Queued.mk · 0), 0, (.empty : BatchReport (List (Outcome Rat))), world⟩ := by
      intro hopen _
      rw [hopen] at hcalm
      exact ⟨hcalm.resolve_left Bool.false_ne_true, Disk.Alike.refl _, [], (List.append_nil _).symm, .nil⟩
    rcases hend with ⟨-, rfl⟩ | ⟨-, hcancelled, -⟩
    · obtain ⟨hcalm', halike, hchecked⟩ := (hstart.rounds hproper houter hrounds) hactive hintime
      refine ⟨hcalm', halike, hchecked, fun input hinput file hfile => ?_⟩
      obtain ⟨known, calls, index, hknown, -, haccounted⟩ := process_watched h
      cases hknown.symm.trans hinput
      have hcount := haccounted.conserved file
      have hpos : 0 < input.count file := List.count_pos_iff.mpr hfile
      simp only [List.map_nil, List.count_nil] at hcount
      rcases Nat.eq_zero_or_pos (last.report.processed.count file) with hzero | hsome
      · exact Or.inr (List.count_pos_iff.mp (by omega))
      · exact Or.inl (List.count_pos_iff.mp hsome)
    · rw [hactive] at hcancelled
      cases hcancelled

/-- A check phase that leaves the token active found it so. -/
theorem Runner.active_of_checkAll {request : Request Rat} {setup : Setup Rat} {world after : World Rat σ}
    {batches : BatchReport (List (Outcome Rat))}
    (h : (runner.checkAll request setup course).on world = (.ok batches, after))
    (hactive : after.clock.forest.isCancelled setup.phaseToken = false) :
    world.clock.forest.isCancelled setup.phaseToken = false := by
  unfold Runner.checkAll at h
  split at h
  · cases h
    exact hactive
  · obtain ⟨ordered, last, -, hrounds, -, rfl⟩ := BatchConfig.process_ok h
    rcases ReflTransGen.cases_head hrounds with rfl | ⟨next, hround, -⟩
    · exact hactive
    · cases hround with
      | idle waiting going look nothing => exact going
      | handed waiting going look something work => exact going

end FixFirst
