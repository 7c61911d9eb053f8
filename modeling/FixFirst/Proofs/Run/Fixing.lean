import FixFirst.Proofs.Batch.Conservation
import FixFirst.Proofs.Run.Batches

/-!
# What the fix phase leaves

As long as the token of the phases is active and the fix phase was in time, every engine that
reports its fixes precisely has covered each file by a call that came back, unless the file was
held back or is to be looked at again by that engine.

## Main definitions

* `FixStage` — the ways in which a fix phase goes.
* `FixedWell` — what the fix phase leaves.

## Main statements

* `BatchConfig.admission_ok` — a file is admitted or held back.
* `Runner.fixPhase_ok` — a fix phase goes one of these ways.
* `Runner.fixFirst_well` — a fix phase in calm.
-/

namespace FixFirst

variable {τ σ : Type}

/-- Every file is admitted or held back, and no other file is. -/
theorem BatchConfig.admission_ok [Quantity τ] {config : BatchConfig τ} {files : List String}
    {critical : Option (List String)} {token : Nat} {world after : World τ σ} {admission : Admission τ}
    (h : (config.admission files critical token).on world = (.ok admission, after)) :
    world.Sampled after ∧ ∃ input, world.disk.normalizeAll files = .ok input ∧
      ∀ file, file ∈ input ↔ file ∈ admission.batch.files ∨ file ∈ admission.deferred := by
  obtain ⟨ordered, middle, hqueue, h⟩ := Act.on_bind_ok.mp h
  rw [BatchConfig.on_queue] at hqueue
  obtain ⟨horder, rfl⟩ := Prod.mk.inj hqueue
  obtain ⟨level, seen, hpressure, h⟩ := Act.on_bind_ok.mp h
  have hsampled : world.Sampled seen := by simpa [hpressure] using World.sampled_pressure world
  rw [Act.on_bind_of_ok (Act.on_askClock _ seen)] at h
  obtain ⟨input, hinput, hcount⟩ := order_ok horder
  cases h
  refine ⟨hsampled, input, hinput, fun file => ?_⟩
  have hin : file ∈ input ↔ file ∈ ordered.map (·.file) := by
    rw [← List.count_pos_iff, ← hcount file, List.count_pos_iff]
  rw [hin]
  by_cases hscarce : (level == .critical) = true
  · simp only [hscarce, if_true]
    constructor
    · intro hfile
      obtain ⟨ranked, hranked, rfl⟩ := List.mem_map.mp hfile
      cases hpriority : ranked.priority with
      | critical => exact Or.inl (List.mem_map.mpr ⟨ranked, List.mem_filter.mpr ⟨hranked, by simp [hpriority]⟩, rfl⟩)
      | deferrable => exact Or.inr (List.mem_map.mpr ⟨ranked, List.mem_filter.mpr ⟨hranked, by simp [hpriority]⟩, rfl⟩)
    · rintro (htaken | hheld)
      · exact (List.filter_sublist.map _).subset htaken
      · exact (List.filter_sublist.map _).subset hheld
  · simp [hscarce]

namespace Runner

variable [Quantity τ]

/-- The engines that are called in a fix phase. -/
def fixers (runner : Runner τ σ) (course : Course τ) : List (Engine τ σ) :=
  (runner.available course).filter (·.canFix)

/-- The jobs of a fix phase. -/
def fixJobs (runner : Runner τ σ) (course : Course τ) (files : List String) : List (Job τ σ) :=
  (runner.fixers course).map fun engine => Job.mk engine .fix files

/-- The work of a fix phase under a token of its own. -/
def fixWork (runner : Runner τ σ) (course : Course τ) (files : List String) (own : Nat) :
    Act τ σ (List (Outcome τ)) := do
  let workers ← runner.workers
  runJobs runner.grantsGrace runner.schedule own workers runner.config.execution.serialFix (runner.fixJobs course files)

/-- The work of a fix phase is that of its jobs, after a reading. -/
theorem fixWork_ok {runner : Runner τ σ} {course : Course τ} {files : List String} {own : Nat}
    {outcomes : List (Outcome τ)} {opened done : World τ σ}
    (h : (runner.fixWork course files own).on opened = (.ok outcomes, done)) :
    ∃ workers seen, opened.Sampled seen ∧
      Change.on (tendJobs runner.granted own workers runner.config.execution.serialFix (runner.fixJobs course files)) seen =
        (outcomes, done) := by
  obtain ⟨workers, seen, hworkers, h⟩ := Act.on_bind_ok.mp h
  have hsampled : opened.Sampled seen := by simpa [hworkers] using World.sampled_workers runner opened
  exact ⟨workers, seen, hsampled, runJobs_ok h⟩

/-- How a fix phase goes: it is skipped, all files are held back, or files are fixed. -/
inductive FixStage (runner : Runner τ σ) (files : List String) (critical : Option (List String)) (token : Nat)
    (course : Course τ) (world : World τ σ) : Course τ → World τ σ → Prop
  | skipped (why : runner.fixers course = [] ∨ files = [] ∨ world.clock.forest.isCancelled token = true) :
      FixStage runner files critical token course world course world
  | held {admission : Admission τ} {seen : World τ σ} (going : world.clock.forest.isCancelled token = false)
      (admits : (runner.config.batching.admission files critical token).on world = (.ok admission, seen))
      (none : admission.batch.files = []) :
      FixStage runner files critical token course world { course with deferred := admission.deferred } seen
  | fixed {admission : Admission τ} {seen done : World τ σ} {outcomes : List (Outcome τ)} {overran : Bool}
      {events : List (Event τ)} (going : world.clock.forest.isCancelled token = false)
      (admits : (runner.config.batching.admission files critical token).on world = (.ok admission, seen))
      (works : (World.budgeted token admission.batch.timeout (runner.fixWork course admission.batch.files)).on seen =
        (.ok (outcomes, overran), done))
      (spoken : ∀ event ∈ events, event.Spoken) :
      FixStage runner files critical token course world
        { { course with deferred := admission.deferred, timedOut := course.timedOut || overran }.takingAll outcomes with
          recheck := Course.marks runner.config.execution.serialFix course.recheck []
            (((runner.fixers course).map (·.precise)).zip outcomes) }
        (done.noted events)

/-- A fix phase goes one of these ways. -/
theorem fixPhase_ok {runner : Runner τ σ} {files : List String} {critical : Option (List String)} {token : Nat}
    {course next : Course τ} {world after : World τ σ}
    (h : (runner.fixPhase files critical token course).on world = (.ok next, after)) :
    runner.FixStage files critical token course world next after := by
  unfold fixPhase at h
  simp only at h
  rw [Act.on_bind_of_ok (Act.on_isCancelled token world)] at h
  split at h
  · rename_i hskip
    cases h
    refine .skipped ?_
    simpa [fixers, List.isEmpty_iff, or_assoc] using hskip
  · rename_i hgo
    have hgoing : world.clock.forest.isCancelled token = false := by
      cases hcancelled : world.clock.forest.isCancelled token with
      | false => rfl
      | true => simp [hcancelled] at hgo
    obtain ⟨admission, seen, hadmits, h⟩ := Act.on_bind_ok.mp h
    split at h
    · rename_i hnone
      cases h
      exact .held hgoing hadmits (List.isEmpty_iff.mp hnone)
    · obtain ⟨⟨outcomes, overran⟩, done, hworks, h⟩ := Act.on_bind_ok.mp h
      obtain ⟨warned, hwarned, hspoken⟩ := World.on_warnIf runner.config.output overran
        s!"fix phase exceeded its {Quantity.twoPlaces admission.batch.timeout}s budget" done
      rw [Act.on_bind_of_ok hwarned] at h
      obtain ⟨recorded, hrecorded, hspoken'⟩ := Course.on_record runner.config.output
        { course with deferred := admission.deferred, timedOut := course.timedOut || overran } outcomes (done.noted warned)
      rw [Act.on_bind_of_ok hrecorded] at h
      obtain ⟨marked, hmarked, hspoken''⟩ := Course.on_markRechecks runner.config.execution.serialFix
        ({ course with deferred := admission.deferred, timedOut := course.timedOut || overran }.takingAll outcomes) []
        (((runner.fixers course).map (·.precise)).zip outcomes) ((done.noted warned).noted recorded)
      have hsame := (Course.takingAll_rest
        { course with deferred := admission.deferred, timedOut := course.timedOut || overran } outcomes).2.2.1
      rw [hsame, World.noted_noted, World.noted_noted] at hmarked
      rw [World.noted_noted] at h
      obtain ⟨hnext, hafter⟩ := Prod.mk.inj (hmarked.symm.trans h)
      rw [← Except.ok.inj hnext, ← hafter]
      refine .fixed hgoing hadmits hworks fun event hevent => ?_
      rcases List.mem_append.mp hevent with hfirst | hlast
      · rcases List.mem_append.mp hfirst with hwarn | hrecord
        · exact hspoken event hwarn
        · exact hspoken' event hrecord
      · exact hspoken'' event hlast

end Runner

/-! ### In calm -/

/-- What the fix phase leaves: a smooth journal of fix calls, in which every engine that reports precisely
covers each file, but for those held back and those that it is to look at again.  If the call gave a
result, no fixer that counts reports a change of the file. -/
structure FixedWell (runner : Runner Rat σ) (input : List String) (fixed : Course Rat) (events : List (Event Rat)) :
    Prop where
  smooth : Smooth events
  passes : ∀ outcome, .completed outcome ∈ events → outcome.pass = .fix
  covers : runner.config.execution.fix = true → ∀ engine ∈ runner.engines, engine.canFix = true → engine.precise = true →
    ∀ file ∈ input, file ∈ fixed.deferred ∨ file ∈ (fixed.recheck.get? engine.name).getD [] ∨
      ∃ outcome before after, Covers events engine.name .fix file outcome before after ∧ fixed.Recorded outcome ∧
        (outcome.result?.isSome = true → ∀ other,
          .completed other ∈ (if runner.config.execution.serialFix then after else before ++ after) →
          other.engine ≠ engine.name → ∀ result, other.verdict = .result result → file ∉ result.modified)

/-- Without a call, all files are to be held back, if the fixers are wanted. -/
theorem FixedWell.nil {runner : Runner Rat σ} {input : List String} {fixed : Course Rat}
    (h : runner.config.execution.fix = true → ∀ engine ∈ runner.engines, engine.canFix = true →
      ∀ file ∈ input, file ∈ fixed.deferred) : FixedWell runner input fixed [] := by
  refine ⟨.nil, fun outcome hin => ?_, fun hwanted engine hin hfix _ file hfile => ?_⟩
  · cases hin
  · exact Or.inl (h hwanted engine hin hfix file hfile)

/-- What is said before and after does not matter. -/
theorem FixedWell.extend {runner : Runner Rat σ} {input : List String} {fixed : Course Rat} {first events last : List (Event Rat)}
    (h : FixedWell runner input fixed events) (hfirst : ∀ event ∈ first, event.Aside)
    (hlast : ∀ event ∈ last, event.Aside) : FixedWell runner input fixed (first ++ events ++ last) := by
  have hbefore : ∀ outcome, .completed outcome ∉ first := fun outcome hin => hfirst _ hin
  have hafter : ∀ outcome, .completed outcome ∉ last := fun outcome hin => hlast _ hin
  refine ⟨((Smooth.asides hfirst).append h.smooth).append (.asides hlast), fun outcome hin => ?_,
    fun hwanted engine hin hfix hprecise file hfile => ?_⟩
  · rcases List.mem_append.mp hin with hin | hin
    · exact h.passes outcome ((List.mem_append.mp hin).resolve_left (hbefore outcome))
    · exact absurd hin (hafter outcome)
  · refine (h.covers hwanted engine hin hfix hprecise file hfile).imp_right (Or.imp_right ?_)
    rintro ⟨outcome, before, after, hcovers, hrecorded, hothers⟩
    refine ⟨outcome, first ++ before, after ++ last, hcovers.extend first last, hrecorded,
      fun hresult other hother => hothers hresult other ?_⟩
    cases hserial : runner.config.execution.serialFix with
    | true =>
        simp only [hserial, if_true, List.mem_append] at hother ⊢
        exact hother.resolve_right (hafter other)
    | false =>
        simp only [hserial, Bool.false_eq_true, if_false, List.mem_append] at hother ⊢
        exact hother.imp (Or.resolve_left · (hbefore other)) (Or.resolve_right · (hafter other))

namespace Runner

variable {runner : Runner Rat σ} {outer p : Nat}

theorem fixWork_runsJobs (course : Course Rat) (files : List String) :
    RunsJobs runner.granted runner.config.execution.serialFix (runner.fixJobs course files)
      (runner.fixWork course files) := by
  intro own opened outcomes done h
  obtain ⟨workers, seen, hsampled, hjobs⟩ := fixWork_ok h
  refine ⟨workers, seen, [], ?_, by simp, hjobs⟩
  rwa [World.noted_nil]

/-- After fix jobs that all came back, an engine that reports precisely has covered the files, or is to look
at them again: whatever another fixer that counts changed is marked for it. -/
theorem workedOff_fix {serial : Bool} {fixers : List (Engine Rat σ)} {files : List String}
    {outcomes : List (Outcome Rat)} {events : List (Event Rat)}
    (h : WorkedOff serial (fixers.map fun engine => Job.mk engine .fix files) outcomes events)
    (hnames : (fixers.map (·.name)).Nodup) {engine : Engine Rat σ} (hin : engine ∈ fixers)
    (hprecise : engine.precise = true) {file : String} (hfile : file ∈ files) (recheck : Keyed (List String)) :
    file ∈ ((Course.marks serial recheck [] ((fixers.map (·.precise)).zip outcomes)).get? engine.name).getD [] ∨
      ∃ outcome ∈ outcomes, ∃ before after, Covers events engine.name .fix file outcome before after ∧
        (outcome.result?.isSome = true → ∀ other, .completed other ∈ (if serial then after else before ++ after) →
          other.engine ≠ engine.name → ∀ result, other.verdict = .result result → file ∉ result.modified) := by
  obtain ⟨left, right, rfl⟩ := List.append_of_mem hin
  have hmap : (left ++ engine :: right).map (fun engine => Job.mk engine .fix files) =
      left.map (fun engine => Job.mk engine .fix files) ++ Job.mk engine .fix files ::
        right.map fun engine => Job.mk engine .fix files := by
    rw [List.map_append, List.map_cons]
  rw [hmap] at h
  obtain ⟨earlier, outcome, later, rfl, hleft, hright⟩ := h.exists_split
  rw [List.length_map] at hleft hright
  obtain ⟨first, last, hcovers, hothers⟩ := h.covers (hleft.trans (List.length_map _).symm) hfile
  by_cases hmarked : file ∈ ((Course.marks serial recheck []
      (((left ++ engine :: right).map (·.precise)).zip (earlier ++ outcome :: later))).get? engine.name).getD []
  · exact Or.inl hmarked
  refine Or.inr ⟨outcome, List.mem_append_right _ List.mem_cons_self, first, last, hcovers, ?_⟩
  intro hresult other hother hengine result hverdict hchanged
  refine hmarked ?_
  have hzip : ((left ++ engine :: right).map (·.precise)).zip (earlier ++ outcome :: later) =
      (left.map (·.precise)).zip earlier ++ (true, outcome) :: (right.map (·.precise)).zip later := by
    rw [List.map_append, List.map_cons, hprecise, List.zip_append (by rw [List.length_map, hleft]), List.zip_cons_cons]
  have hbefore : ((left.map (·.precise)).zip earlier).map (·.2) = earlier :=
    List.map_snd_zip (by rw [List.length_map, hleft])
  have hafter : ((right.map (·.precise)).zip later).map (·.2) = later :=
    List.map_snd_zip (by rw [List.length_map, hright])
  rw [hzip, ← hcovers.engine]
  refine Course.mem_marks ?_ hresult ?_
  · -- The later outcomes are those of later engines, which have other names.
    intro pair hpair
    have hlater : pair.2 ∈ later := (List.of_mem_zip hpair).2
    have hengines := h.engines
    rw [List.map_append, List.map_cons, List.map_append, List.map_cons] at hengines
    obtain ⟨-, htail⟩ := List.append_inj hengines (by simp [hleft])
    have hnamed : pair.2.engine ∈ right.map (·.name) := by
      have hmem : pair.2.engine ∈ later.map (·.engine) := List.mem_map_of_mem hlater
      rw [(List.cons.inj htail).2, List.map_map] at hmem
      exact hmem
    rw [List.map_append, List.map_cons] at hnames
    have hdistinct := (List.nodup_cons.mp (List.nodup_append.mp hnames).2.1).1
    intro hsame
    rw [hsame, hcovers.engine] at hnamed
    exact hdistinct hnamed
  · rw [List.nil_append, hbefore, hafter]
    unfold Course.changedFiles
    rw [mem_firsts, List.mem_flatMap]
    refine ⟨other, hothers other hother hengine, ?_⟩
    unfold Outcome.result?
    rw [hverdict]
    exact hchanged

theorem mem_fixers {course : Course Rat} (hfresh : course.unavailable = []) {engine : Engine Rat σ}
    (hin : engine ∈ runner.engines) (hfix : engine.canFix = true) : engine ∈ runner.fixers course := by
  unfold fixers available
  rw [hfresh]
  exact List.mem_filter.mpr ⟨List.mem_filter.mpr ⟨hin, rfl⟩, hfix⟩

/-- A fix phase in calm that was in time and left the token active. -/
theorem fixPhase_well {files : List String} {critical : Option (List String)} {course next : Course Rat}
    {world after : World Rat σ} (hproper : ∀ engine ∈ runner.engines, engine.Proper outer)
    (hnames : (runner.engines.map (·.name)).Nodup) (houter : outer ≤ p) (hfresh : course.unavailable = [])
    (h : (runner.fixPhase files critical p course).on world = (.ok next, after))
    (hcalm : world.clock.forest.isCancelled p = true ∨ world.clock.Calm p none)
    (hactive : after.clock.forest.isCancelled p = false) (hintime : next.timedOut = false) :
    after.clock.Calm p none ∧ world.disk.Alike after.disk ∧ ∃ events, after.journal = world.journal ++ events ∧
      ∀ input, world.disk.normalizeAll files = .ok input → FixedWell runner input next events := by
  cases fixPhase_ok h with
  | skipped why =>
      rw [hactive] at hcalm why
      refine ⟨hcalm.resolve_left Bool.false_ne_true, Disk.Alike.refl _, [], (List.append_nil _).symm,
        fun input hinput => .nil fun _ engine hin hfix file hfile => ?_⟩
      rcases why with hnone | rfl | hcancelled
      · have hmem := mem_fixers hfresh hin hfix
        rw [hnone] at hmem
        cases hmem
      · cases hinput
        cases hfile
      · cases hcancelled
  | @held admission seen going admits none =>
      rw [going] at hcalm
      obtain ⟨hsampled, admitted, hadmitted, hsplit⟩ := BatchConfig.admission_ok admits
      refine ⟨hsampled.clock ▸ hcalm.resolve_left Bool.false_ne_true, hsampled.disk ▸ Disk.Alike.refl _, [], ?_,
        fun input hinput => .nil fun _ engine _ _ file hfile => ?_⟩
      · rw [hsampled.journal, List.append_nil]
      · cases hadmitted.symm.trans hinput
        rcases (hsplit file).mp hfile with hbatch | hdeferred
        · rw [none] at hbatch
          cases hbatch
        · exact hdeferred
  | @fixed admission seen done outcomes overran spoken going admits works hspoken =>
      rw [going] at hcalm
      obtain ⟨hsampled, admitted, hadmitted, hsplit⟩ := BatchConfig.admission_ok admits
      have hrest := Course.takingAll_rest
        { course with deferred := admission.deferred, timedOut := course.timedOut || overran } outcomes
      have hoverran : overran = false := by
        have htimed : (course.timedOut || overran) = false := hrest.2.2.2.symm.trans hintime
        exact (Bool.or_eq_false_iff.mp htimed).2
      subst hoverran
      have hjobs : ∀ job ∈ runner.fixJobs course admission.batch.files, job.engine.Proper outer := by
        intro job hjob
        obtain ⟨engine, hengine, rfl⟩ := List.mem_map.mp hjob
        exact hproper engine (List.mem_filter.mp (List.mem_filter.mp hengine).1).1
      have hseen : seen.clock.Calm p none := hsampled.clock ▸ hcalm.resolve_left Bool.false_ne_true
      obtain ⟨hdone, halike, events, hjournal, hworked⟩ :=
        World.budgeted_jobs (fixWork_runsJobs course admission.batch.files) hjobs works hseen houter hactive
      have hspoke : ∀ event ∈ spoken, event.Aside := fun event hin => (hspoken event hin).aside
      refine ⟨hdone, hsampled.disk ▸ halike, events ++ spoken, ?_, fun input hinput => ?_⟩
      · rw [World.journal_noted, hjournal, hsampled.journal, List.append_assoc]
      have hnothing : ∀ event ∈ ([] : List (Event Rat)), event.Aside := fun event hin => by cases hin
      refine FixedWell.extend ⟨hworked.smooth, ?_, ?_⟩ hnothing hspoke
      · intro outcome hin
        obtain ⟨job, hjob⟩ := hworked.mem_outcomes hin
        obtain ⟨trace, hanswered⟩ := hworked.answered hjob
        obtain ⟨engine, -, rfl⟩ := List.mem_map.mp (List.of_mem_zip hjob).1
        exact hanswered.pass
      · intro _ engine hin hfix hprecise file hfile
        cases hadmitted.symm.trans hinput
        rcases (hsplit file).mp hfile with hbatch | hdeferred
        · have hdistinct : ((runner.fixers course).map (·.name)).Nodup :=
            hnames.sublist ((List.filter_sublist.trans List.filter_sublist).map _)
          rcases workedOff_fix hworked hdistinct (mem_fixers hfresh hin hfix) hprecise hbatch course.recheck with
            hmarked | ⟨outcome, houtcome, before, last, hcovers, hothers⟩
          · exact Or.inr (Or.inl hmarked)
          · exact Or.inr (Or.inr ⟨outcome, before, last, hcovers, Course.recorded_takingAll _ houtcome, hothers⟩)
        · refine Or.inl ?_
          rw [hrest.2.1]
          exact hdeferred

/-- The fix phase of a run in calm, if there is one, which was in time and left the token active. -/
theorem fixFirst_well {files : List String} {critical : Option (List String)} {fixed : Course Rat}
    {world after : World Rat σ} (hproper : ∀ engine ∈ runner.engines, engine.Proper outer)
    (hnames : (runner.engines.map (·.name)).Nodup) (houter : outer ≤ p)
    (h : (runner.fixFirst files critical p).on world = (.ok fixed, after))
    (hcalm : world.clock.forest.isCancelled p = true ∨ world.clock.Calm p none)
    (hactive : after.clock.forest.isCancelled p = false) (hintime : fixed.timedOut = false) :
    after.clock.Calm p none ∧ world.disk.Alike after.disk ∧ ∃ events, after.journal = world.journal ++ events ∧
      ∀ input, world.disk.normalizeAll files = .ok input → FixedWell runner input fixed events := by
  unfold fixFirst at h
  split at h
  · obtain ⟨course, middle, henter, h⟩ := Act.on_bind_ok.mp h
    obtain ⟨tracker, entering, rfl, rfl, hentering⟩ := Course.enter_ok henter
    obtain ⟨hcalm', halike, events, hjournal, hwell⟩ :=
      fixPhase_well hproper hnames houter rfl h hcalm hactive hintime
    have hasides : ∀ event ∈ entering, event.Aside := by
      intro event hin
      rcases hentering event hin with hspoken | rfl
      · exact hspoken.aside
      · trivial
    refine ⟨hcalm', halike, entering ++ events ++ [], ?_, fun input hinput => (hwell input hinput).extend hasides (by simp)⟩
    rw [hjournal, World.journal_noted, List.append_nil, List.append_assoc]
  · rename_i hunwanted
    cases h
    rw [hactive] at hcalm
    refine ⟨hcalm.resolve_left Bool.false_ne_true, Disk.Alike.refl _, [], (List.append_nil _).symm,
      fun input _ => .nil fun hwanted => absurd hwanted hunwanted⟩

end Runner

end FixFirst
