import FixFirst.Proofs.Beside.Courses

/-!
# Fixing side by side

The fix phase of a run, beside that of the run with the broken engine: the same files are admitted, the
other engines fix them in the same way, and the courses differ by the failure of the broken engine only.
Where no other engine fixes, the fix phase of the one run is empty, and in that of the other one the
broken engine is on its own.

## Main definitions

* `Course.entering` — what entering a phase comes to.
* `Runner.fixedBy` — what is known after a fix phase.

## Main statements

* `Runner.Joined.fixPhase` — the fix phase, where another engine fixes or none does.
* `Runner.Joined.oddFixPhase` — the fix phase, where only the broken engine fixes.
-/

namespace FixFirst

variable {τ σ : Type} [Quantity τ] {level : Level}

/-! ### What phases begin with -/

namespace BatchConfig

variable {aspect : Aspect} {asked : Bool} {own like : Nat}

/-- Files have the same order wherever the disk is the same. -/
theorem alike_queue (files : List String) (critical : Option (List String)) :
    Act.Alike (σ := σ) aspect asked (queue files critical : Act τ σ (List Ranked)) (queue files critical) := by
  intro world other hbeside
  refine ⟨_, ⟨world, on_queue files critical world, .refl world⟩, ⟨other, ?_, .refl other⟩⟩
  rw [on_queue, hbeside.same.disk]

theorem alike_admission (hpair : (own, like) ∈ aspect.tokens) (config : BatchConfig τ) (files : List String)
    (critical : Option (List String)) :
    Act.Alike (σ := σ) aspect asked (config.admission files critical own) (config.admission files critical like) := by
  refine (alike_queue files critical).bind fun ordered => ?_
  refine (Act.Alike.pressed (fun world => World.Pressed.drifts_pressure) fun world => World.Pressed.drifts_pressure).bind
    fun level => ?_
  exact (Act.Alike.remaining? hpair).bind fun left => .pure _

theorem alike_outlook (hpair : (own, like) ∈ aspect.tokens) (config : BatchConfig τ) (budget : Option (Amount τ)) :
    Act.Alike (σ := σ) aspect asked (config.outlook own budget) (config.outlook like budget) := by
  refine (Act.Alike.pressed (fun world => World.Pressed.drifts_pressure) fun world => World.Pressed.drifts_pressure).bind
    fun level => ?_
  refine (Act.Alike.pressed (fun world h => h.drifts_size config) fun world h => h.drifts_size config).bind fun size => ?_
  exact (Act.Alike.remaining? hpair).bind fun left => (Act.Alike.ofExcept _).bind fun imminent => .pure _

/-- Admission fails only where the files cannot be put in order. -/
theorem drifts_admission {world : World τ σ} (h : world.Pressed level) (config : BatchConfig τ) (files : List String)
    (critical : Option (List String)) (token : Nat) :
    (∃ fault, order world.disk files critical = .error fault ∧
        Act.Drifts level (config.admission files critical token) world (.error fault)) ∨
      ∃ admission, Act.Drifts level (config.admission files critical token) world (.ok admission) := by
  have hqueue : Act.Drifts level (queue files critical) world (order world.disk files critical) :=
    ⟨world, on_queue files critical world, .refl world⟩
  cases horder : order world.disk files critical with
  | error fault =>
      rw [horder] at hqueue
      exact Or.inl ⟨fault, rfl, hqueue.bind_error⟩
  | ok ordered =>
      have hon : Act.on (queue files critical) world = (.ok ordered, world) := by
        rw [on_queue, horder]
      obtain ⟨after, hpressure, hdrifted⟩ := h.drifts_pressure
      refine Or.inr ?_
      unfold admission Act.Drifts
      rw [Act.on_bind_of_ok hon, Act.on_bind_of_ok hpressure]
      exact ⟨_, after, rfl, hdrifted⟩

end BatchConfig

/-! ### Entering a phase -/

namespace Course

/-- What entering a phase comes to. -/
def entering (course : Course τ) (phase : Phase) : Except Fault (Course τ) :=
  if course.tracker.terminal then .ok course
  else match course.tracker.advance? phase with
    | none => .error (.transition course.tracker.current phase)
    | some tracker => .ok { course with tracker := tracker }

theorem drifts_enter (course : Course τ) (phase : Phase) (world : World τ σ) :
    (course.enter phase).Drifts level world (course.entering phase) := by
  unfold enter entering
  split
  · exact .pure course world
  · cases course.tracker.advance? phase with
    | none => exact .ofExcept (.error _) world
    | some tracker =>
        refine (Act.Drifts.remark _).bind fun after _ => ⟨after.noted [.entered phase], rfl, .noted after fun event hin => ?_⟩
        rw [List.mem_singleton.mp hin]
        trivial

variable {name : String} {fixing : Prop} {asked : Bool} {course other : Course τ}

omit [Quantity τ] in
/-- Phases are entered alike. -/
theorem Beside.entering (h : course.Beside name fixing asked other) (phase : Phase) :
    Act.Agree (Course.Beside name fixing asked) (course.entering phase) (other.entering phase) := by
  unfold Course.entering
  rw [h.tracker]
  split
  · exact .ok h
  · cases other.tracker.advance? phase with
    | none => exact .error _
    | some tracker =>
        exact .ok ⟨congrArg (fun known => { known with tracker := tracker }) h.rest, h.deferred, h.asked, h.signed⟩

end Course

/-! ### Fixing -/

namespace Course

variable {name : String} {fixing : Prop} {asked : Bool} {course other : Course τ}

omit [Quantity τ] in
/-- The same files are held back. -/
theorem Beside.deferring (h : course.Beside name fixing asked other) (deferred : List String) :
    ({ course with deferred := deferred } : Course τ).Beside name fixing asked { other with deferred := deferred } :=
  ⟨congrArg (fun known => { known with deferred := deferred }) h.rest, fun _ => rfl, h.asked, h.signed⟩

omit [Quantity τ] in
/-- Files may be held back where no other engine fixes. -/
theorem Beside.deferringAlone (h : course.Beside name fixing asked other) (hnone : ¬ fixing) (deferred : List String) :
    course.Beside name fixing asked { other with deferred := deferred } :=
  ⟨h.rest, fun hfixing => absurd hfixing hnone, h.asked, h.signed⟩

omit [Quantity τ] in
/-- The same files are to be looked at again. -/
theorem Beside.rechecking (h : course.Beside name fixing asked other) (recheck : Keyed (List String)) :
    ({ course with recheck := recheck } : Course τ).Beside name fixing asked { other with recheck := recheck } :=
  ⟨congrArg (fun known => { known with recheck := recheck }) h.rest, h.deferred, h.asked, h.signed⟩

end Course

namespace Runner

/-- What follows when the fixers came back. -/
def fixTail (runner : Runner τ σ) (course : Course τ) (budget : τ) (answer : List (Outcome τ) × Bool) : Act τ σ (Course τ) := do
  runner.config.output.warnIf answer.2 s!"fix phase exceeded its {Quantity.twoPlaces budget}s budget"
  let known ← { course with timedOut := course.timedOut || answer.2 }.record runner.config.output answer.1
  known.markRechecks runner.config.execution.serialFix [] (((runner.fixers course).map (·.precise)).zip answer.1)

theorem fixPhase_eq (runner : Runner τ σ) (files : List String) (critical : Option (List String)) (token : Nat)
    (course : Course τ) :
    runner.fixPhase files critical token course = (do
      if (runner.fixers course).isEmpty || files.isEmpty || (← World.isCancelled token) then return course
      let admission ← runner.config.batching.admission files critical token
      if admission.batch.files.isEmpty then return { course with deferred := admission.deferred }
      let answer ← World.budgeted token admission.batch.timeout (runner.fixWork course admission.batch.files)
      runner.fixTail { course with deferred := admission.deferred } admission.batch.timeout answer) := rfl

/-- What is known after the fixers came back. -/
def fixedBy (runner : Runner τ σ) (course : Course τ) (answer : List (Outcome τ) × Bool) : Course τ :=
  { { course with timedOut := course.timedOut || answer.2 }.takingAll answer.1 with
    recheck := Course.marks runner.config.execution.serialFix course.recheck []
      (((runner.fixers course).map (·.precise)).zip answer.1) }

theorem drifts_fixTail (runner : Runner τ σ) (course : Course τ) (budget : τ) (answer : List (Outcome τ) × Bool)
    (world : World τ σ) : (runner.fixTail course budget answer).Drifts level world (.ok (runner.fixedBy course answer)) := by
  have hmarked : ∀ recorded : World τ σ, Act.Drifts level
      (Course.markRechecks runner.config.execution.serialFix
        ({ course with timedOut := course.timedOut || answer.2 }.takingAll answer.1) []
        (((runner.fixers course).map (·.precise)).zip answer.1)) recorded (.ok (runner.fixedBy course answer)) := by
    intro recorded
    have hsaid := Course.on_markRechecks runner.config.execution.serialFix
      ({ course with timedOut := course.timedOut || answer.2 }.takingAll answer.1) []
      (((runner.fixers course).map (·.precise)).zip answer.1) recorded
    rw [(Course.takingAll_rest _ answer.1).2.2.1] at hsaid
    exact .said hsaid
  refine (Act.Drifts.warnIf _ _ _).bind fun warned _ => ?_
  exact (Act.Drifts.said (Course.on_record _ _ _ warned)).bind fun recorded _ => hmarked recorded

end Runner

namespace Runner.Joined

variable {runner joined : Runner τ σ} {odd : Engine τ σ} {aspect : Aspect} {asked : Bool} {own like : Nat}
  {course other : Course τ}

/-- The fixers come back alike, and in time. -/
theorem fixWork (h : runner.Joined joined odd) (hname : aspect.name = odd.name) (hpair : (own, like) ∈ aspect.tokens)
    (hsame : course.unavailable = other.unavailable) (files : List String) (budget : τ) :
    (World.budgeted own budget (runner.fixWork course files)).Twin aspect asked
      (World.budgeted like budget (joined.fixWork other files))
      fun later answer answer' => (BesideOutcomes odd.name answer.1 answer'.1 ∧
        answer'.1.map (·.engine) = (joined.fixers other).map (·.name) ∧
          later = (asked || answer'.1.any (·.engine == odd.name))) ∧ answer.2 = false ∧ answer'.2 = false := by
  refine Act.Twin.budgeted (P := fun later outcomes others => BesideOutcomes odd.name outcomes others ∧
    others.map (·.engine) = (joined.fixers other).map (·.name) ∧
      later = (asked || others.any (·.engine == odd.name))) hpair budget fun scope scope' => ?_
  have hjobs : ∀ job ∈ joined.fixJobs other files, job.engine ∈ joined.engines := by
    intro job hin
    obtain ⟨engine, hengine, rfl⟩ := List.mem_map.mp hin
    exact (List.mem_filter.mp (List.mem_filter.mp hengine).1).1
  have hnames := h.names.sublist (joined.fixJobs_names other files)
  refine Act.Twin.step (fun world hpressed => hpressed.drifts_workers runner)
    (fun world hpressed => hpressed.drifts_workers joined) ?_
  rw [h.config, ← h.fixJobs hsame files]
  have hown : ({ aspect with tokens := (scope, scope') :: aspect.tokens } : Aspect).name = odd.name := hname
  refine (h.runJobs hown hjobs hnames List.mem_cons_self _ _).mono fun later outcomes others hrun => ?_
  refine ⟨hrun.1, hrun.2.1.trans ?_, hrun.2.2⟩
  unfold Runner.fixJobs
  rw [List.map_map]
  rfl

/-- What is known after the fixers came back in time is alike. -/
theorem fixedBy (h : runner.Joined joined odd) (hcourse : course.Beside odd.name runner.CanFix asked other)
    {outcomes others : List (Outcome τ)} (hall : BesideOutcomes odd.name outcomes others)
    (hengines : others.map (·.engine) = (joined.fixers other).map (·.name)) :
    (runner.fixedBy course (outcomes, false)).Beside odd.name runner.CanFix
      (asked || others.any (·.engine == odd.name)) (joined.fixedBy other (others, false)) := by
  have hnone : ∀ outcome ∈ others, outcome.engine = odd.name → outcome.result? = none := by
    intro outcome hin hodd
    obtain ⟨message, hverdict⟩ := hall.failed outcome hin hodd
    unfold Outcome.result?
    rw [hverdict]
  have hmarks : Course.marks runner.config.execution.serialFix course.recheck []
        (((runner.fixers course).map (·.precise)).zip outcomes) =
      Course.marks joined.config.execution.serialFix other.recheck []
        (((joined.fixers other).map (·.precise)).zip others) := by
    rw [h.config, hcourse.recheck, ← h.fixers hcourse.unavailable, ← hall.rest, ← Course.zip_filter _ hengines]
    exact Course.marks_filter _ other.recheck (fun _ hin => absurd hin List.not_mem_nil) fun pair hin => hnone pair.2 (List.of_mem_zip hin).2
  have htimed : ∀ known : Course τ, { known with timedOut := known.timedOut || false } = known := fun known => by simp
  unfold Runner.fixedBy
  rw [hmarks, htimed, htimed]
  exact (hcourse.takingAll hall).rechecking _

/-- The fix phase, where other engines fix or none does. -/
theorem fixPhase (h : runner.Joined joined odd) (hname : aspect.name = odd.name) (hpair : (own, like) ∈ aspect.tokens)
    (hcourse : course.Beside odd.name runner.CanFix asked other) (hfixes : runner.fixers course = [] → joined.fixers other = [])
    (files : List String) (critical : Option (List String)) :
    (runner.fixPhase files critical own course).Twin aspect asked (joined.fixPhase files critical like other)
      fun later fixed known => fixed.Beside odd.name runner.CanFix later known := by
  have hempty : (joined.fixers other).isEmpty = (runner.fixers course).isEmpty := by
    rw [Bool.eq_iff_iff, List.isEmpty_iff, List.isEmpty_iff]
    refine ⟨fun hnone => ?_, hfixes⟩
    rw [← h.fixers hcourse.unavailable, hnone]
    rfl
  rw [Runner.fixPhase_eq, Runner.fixPhase_eq, h.config, hempty]
  refine Act.Twin.going hpair (if_pos (by simp)) (if_pos (by simp)) ?_
  split
  · exact .pure hcourse
  · refine (BatchConfig.alike_admission hpair _ files critical).twin fun admission => ?_
    have hdeferring := hcourse.deferring admission.deferred
    split
    · exact .pure hdeferring
    · refine (h.fixWork hname hpair hcourse.unavailable admission.batch.files _).settle
        (runner.drifts_fixTail _ _) (joined.drifts_fixTail _ _) fun later answer answer' hanswers => ?_
      obtain ⟨outcomes, overran⟩ := answer
      obtain ⟨others, overran'⟩ := answer'
      obtain ⟨⟨hall, hengines, rfl⟩, rfl, rfl⟩ := hanswers
      exact h.fixedBy hdeferring hall hengines

omit [Quantity τ] in
/-- Where no other engine fixes, at most the broken one does. -/
theorem fixers_odd (h : runner.Joined joined odd) (hnone : ¬ runner.CanFix) (known : Course τ) :
    joined.fixers known = [] ∨ joined.fixers known = [odd] := by
  have hall : ∀ engine ∈ joined.fixers known, engine = odd := by
    intro engine hin
    obtain ⟨havailable, hfixes⟩ := List.mem_filter.mp hin
    have hengine := (List.mem_filter.mp havailable).1
    by_contra hother
    exact hnone ⟨engine, h.mem_of_ne hengine fun hname => hother (h.eq_odd hengine hname), hfixes⟩
  have hnodup : (joined.fixers known).Nodup :=
    (List.Nodup.of_map _ h.names).sublist (List.filter_sublist.trans List.filter_sublist)
  rw [List.eq_replicate_of_mem hall] at hnodup ⊢
  have hfew := List.nodup_replicate.mp hnodup
  interval_cases (joined.fixers known).length
  · exact Or.inl rfl
  · exact Or.inr rfl

variable {world there : World τ σ}

/-- The broken engine fixes alone, and fails. -/
theorem oddFixWork (h : runner.Joined joined odd) (hname : aspect.name = odd.name) (hfixers : joined.fixers other = [odd])
    (hbeside : world.Beside aspect asked there) (files : List String) {own : Nat} (hbase : aspect.base ≤ own)
    (hclear : ((joined.fixWork other files own).on there).2.Clear aspect.base) :
    ∃ later outcomes, ((joined.fixWork other files own).on there).1 = .ok outcomes ∧
      (BesideOutcomes odd.name [] outcomes ∧ outcomes.map (·.engine) = (joined.fixers other).map (·.name) ∧
        later = (asked || outcomes.any (·.engine == odd.name))) ∧
      world.Beside aspect later ((joined.fixWork other files own).on there).2 := by
  have hjobs : joined.fixJobs other files = [⟨odd, .fix, files⟩] := by
    unfold Runner.fixJobs
    rw [hfixers]
    rfl
  obtain ⟨middle, hworkers, hdrifted⟩ := hbeside.otherPressed.drifts_workers joined
  unfold Runner.fixWork at hclear ⊢
  rw [Act.on_bind_of_ok hworkers, hjobs] at hclear
  rw [Act.on_bind_of_ok hworkers, hjobs]
  have hactive : middle.clock.forest.isCancelled own = false := by
    have hlimits := Runner.bind_stopped h.lasting_joined aspect.base
    refine (hlimits.runJobs (fun job hin => ?_) own _ _).lasting middle hclear own hbase
    rw [List.mem_singleton.mp hin]
    exact h.mem
  obtain ⟨message, houtcomes, hafter⟩ := Job.runJobs_broken ⟨odd, .fix, files⟩ h.broken hname.symm
    (hbeside.drifted (.refl world) hdrifted) hactive joined.grantsGrace joined.schedule _ joined.config.execution.serialFix
  rw [houtcomes, hfixers]
  refine ⟨true, _, rfl, ⟨⟨?_, fun outcome hin _ => ?_, by simp⟩, rfl, by simp [Job.outcome]⟩, hafter⟩
  · exact List.filter_cons_of_neg (by simp [Job.outcome])
  · rw [List.mem_singleton.mp hin]
    exact ⟨message, rfl⟩

/-- Where no other engine fixes, the fix phase comes to nothing, unless the files cannot be put in order. -/
theorem oddFixPhase (h : runner.Joined joined odd) (hname : aspect.name = odd.name) (hnone : ¬ runner.CanFix)
    (hpair : (own, like) ∈ aspect.tokens) (hcourse : course.Beside odd.name runner.CanFix asked other)
    (hbeside : world.Beside aspect asked there) (files : List String) (critical : Option (List String))
    (hclear : ((joined.fixPhase files critical like other).on there).2.Clear aspect.base) :
    (∃ later known, ((joined.fixPhase files critical like other).on there).1 = .ok known ∧
        course.Beside odd.name runner.CanFix later known ∧
        world.Beside aspect later ((joined.fixPhase files critical like other).on there).2) ∨
      ∃ fault, files ≠ [] ∧ order world.disk files critical = .error fault ∧
        ((joined.fixPhase files critical like other).on there).1 = .error fault ∧
        world.Beside aspect asked ((joined.fixPhase files critical like other).on there).2 := by
  obtain ⟨-, hbase, hpaired⟩ := hbeside.tokens _ hpair
  rw [Runner.fixPhase_eq, Act.on_bind_of_ok (Act.on_isCancelled like there)] at hclear
  rw [Runner.fixPhase_eq, Act.on_bind_of_ok (Act.on_isCancelled like there)]
  split at hclear
  · rename_i hskip
    rw [if_pos hskip]
    exact Or.inl ⟨asked, other, rfl, hcourse, hbeside⟩
  · rename_i hgo
    rw [if_neg hgo]
    simp only [Bool.not_eq_true, Bool.or_eq_false_iff, List.isEmpty_eq_false_iff] at hgo
    have hfixers := (h.fixers_odd hnone other).resolve_left hgo.1.1
    rcases BatchConfig.drifts_admission hbeside.otherPressed joined.config.batching files critical like with
      ⟨fault, horder, hadmits⟩ | ⟨admission, middle, hadmits, hdrifted⟩
    · obtain ⟨after, hon, hdrifted⟩ := hadmits
      rw [Act.on_bind, hon]
      rw [hbeside.same.disk] at horder
      exact Or.inr ⟨fault, hgo.1.2, horder, rfl, hbeside.drifted (.refl world) hdrifted⟩
    · have hmiddle := hbeside.drifted (.refl world) hdrifted
      have hdeferring := hcourse.deferringAlone hnone admission.deferred
      rw [Act.on_bind_of_ok hadmits] at hclear
      rw [Act.on_bind_of_ok hadmits]
      split at hclear
      · rename_i hheld
        rw [if_pos hheld]
        exact Or.inl ⟨asked, _, rfl, hdeferring, hmiddle⟩
      · rename_i hsome
        rw [if_neg hsome]
        refine Or.inl ?_
        have hroom : aspect.base ≤ middle.clock.forest.tokens.length :=
          Nat.le_trans hbase (Nat.le_of_lt (Nat.lt_of_lt_of_le hpaired.there hdrifted.clock.tokens))
        have hworks := hmiddle.budgeted like hroom admission.batch.timeout
          fun own opened hopened hbase hclear => h.oddFixWork hname hfixers hopened admission.batch.files hbase hclear
        rw [Act.on_bind] at hclear ⊢
        rcases hon : (World.budgeted like admission.batch.timeout
          (joined.fixWork other admission.batch.files)).on middle with ⟨outcome, done⟩
        rw [hon] at hclear hworks
        have htail : ∀ answer, Act.Drifts aspect.level
            (joined.fixTail { other with deferred := admission.deferred } admission.batch.timeout answer) done
            (.ok (joined.fixedBy { other with deferred := admission.deferred } answer)) :=
          fun answer => joined.drifts_fixTail _ _ answer done
        have hdone : done.Clear aspect.base := by
          cases outcome with
          | error fault => exact hclear
          | ok answer =>
              obtain ⟨last, hlast, hmore⟩ := htail answer
              simp only [hlast] at hclear
              exact hmore.clear hclear
        obtain ⟨later, outcomes, houtcome, ⟨hall, hengines, rfl⟩, hafter⟩ := hworks hdone
        obtain rfl : outcome = _ := houtcome
        obtain ⟨last, hlast, hmore⟩ := htail (outcomes, false)
        have hfixed : runner.fixedBy course ([], false) = course := by
          simp [Runner.fixedBy, Course.takingAll, Course.marks]
        have hknown := h.fixedBy hdeferring hall hengines
        rw [hfixed] at hknown
        simp only [hlast]
        exact ⟨_, _, rfl, hknown, hafter.drifted (.refl world) hmore⟩

end Runner.Joined

end FixFirst
