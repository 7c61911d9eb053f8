import FixFirst.Proofs.Beside.Checks
import FixFirst.Proofs.Run.Escape

/-!
# Reports side by side

After their phases two runs conclude alike: the results that count are the same, so are the issues and
the files that are staged, and the version control system answers the same in both.  The reports differ in
the engine that failed, in what that makes of their success, and in the metrics, which name all engines.

## Main definitions

* `Act.Even` — outcomes that are the same, with no call meanwhile.
* `Report.Beside` — a report beside that of the run with the broken engine.

## Main statements

* `Runner.Joined.stageFixed` — staging.
* `Runner.Joined.conclude` — all that follows the phases.
-/

namespace FixFirst

variable {τ σ α : Type} [Quantity τ] {aspect : Aspect} {asked : Bool} {level : Level}

/-! ### The version control system -/

/-- Whether outcomes are the same, and no engine was called meanwhile. -/
def Act.Even (asked later : Bool) (value other : α) : Prop := later = asked ∧ other = value

/-- What a command comes to when its program may be missing. -/
def Completed.orMissing : Except Fault Completed → Except Fault Completed
  | .error (.toolMissing tool detail) => .ok ⟨127, "", (Fault.toolMissing tool detail).message⟩
  | outcome => outcome

omit [Quantity τ] in
theorem on_git (shell : Shell τ σ) (root : Path) (arguments : List String) (world : World τ σ) :
    (git shell root arguments).on world =
      (Completed.orMissing ((shell ⟨"git" :: arguments, some root⟩ none).on (world.givingGit root arguments)).1,
        ((shell ⟨"git" :: arguments, some root⟩ none).on (world.givingGit root arguments)).2) := by
  have hattempt : (shell.run ⟨"git" :: arguments, some root⟩ none).attempt.on world =
      (.ok ((shell ⟨"git" :: arguments, some root⟩ none).on (world.givingGit root arguments)).1,
        ((shell ⟨"git" :: arguments, some root⟩ none).on (world.givingGit root arguments)).2) := rfl
  unfold git
  rw [Act.on_bind_of_ok hattempt]
  cases ((shell ⟨"git" :: arguments, some root⟩ none).on (world.givingGit root arguments)).1 with
  | ok completed => rfl
  | error fault => cases fault <;> rfl

namespace Shell.Unaware

variable {shell : Shell τ σ}

omit [Quantity τ] in
theorem lasting_git (h : shell.Unaware) (root : Path) (arguments : List String) (base : Nat) :
    (git shell root arguments).Lasting base := by
  refine .of_lasts fun world => ?_
  rw [on_git]
  exact (h.spares _ (world.givingGit root arguments)).clock

theorem git (h : shell.Unaware) (root : Path) (arguments : List String) :
    (FixFirst.git shell root arguments).Twin aspect asked (FixFirst.git shell root arguments) (Act.Even asked) := by
  intro world other hbeside _ _
  have hgiving : ∀ world : World τ σ, world.Drifted aspect.level (world.givingGit root arguments) := fun world =>
    ⟨⟨Clockwork.Lasts.refl _, fun hpressed => hpressed, rfl, _, rfl, rfl⟩, ⟨rfl, rfl, rfl, rfl, rfl, rfl⟩⟩
  have hgiven := hbeside.drifted (hgiving world) (hgiving other)
  obtain ⟨hanswer, hafter⟩ := h.answers ⟨"git" :: arguments, some root⟩ _ _ hgiven.same
  rw [on_git, on_git, hanswer]
  exact ⟨asked, hgiven.quiet ((h.spares _ _).quiet _) ((h.spares _ _).quiet _) hafter, .of_eq _ fun _ _ => ⟨rfl, rfl⟩⟩

omit [Quantity τ] in
theorem lasting_stageEach (h : shell.Unaware) (root : Path) (files : List String) (base : Nat) :
    (FixFirst.stageEach shell root files).Lasting base := by
  induction files with
  | nil => exact .of_lasts fun world => Clockwork.Lasts.refl _
  | cons file rest ih =>
      exact (h.lasting_git root _ base).bind fun completed => ih.bind fun others => .of_lasts fun world => Clockwork.Lasts.refl _

theorem stageEach (h : shell.Unaware) (root : Path) (files : List String) :
    (FixFirst.stageEach shell root files).Twin aspect asked (FixFirst.stageEach shell root files) (Act.Even asked) := by
  induction files with
  | nil => exact .pure ⟨rfl, rfl⟩
  | cons file rest ih =>
      have hrest : ∀ completed : Completed, (do
          let others ← FixFirst.stageEach shell root rest
          return if completed.status = 0 then { others with staged := file :: others.staged }
            else { others with warnings := ⟨file, completed.complaint⟩ :: others.warnings } : Act τ σ Staging).Lasting aspect.base :=
        fun completed => (h.lasting_stageEach root rest aspect.base).bind fun others => .of_lasts fun world => Clockwork.Lasts.refl _
      refine (h.git root ["add", "--", file]).bind (fun later completed other htogether => ?_) hrest hrest
      obtain ⟨rfl, rfl⟩ := htogether
      refine ih.bind (fun later others other htogether => ?_) (fun _ => .of_lasts fun world => Clockwork.Lasts.refl _)
        (fun _ => .of_lasts fun world => Clockwork.Lasts.refl _)
      obtain ⟨rfl, rfl⟩ := htogether
      exact .pure ⟨rfl, rfl⟩

omit [Quantity τ] in
theorem lasting_stage (h : shell.Unaware) (root : Path) (files : List String) (base : Nat) :
    (FixFirst.stage shell root files).Lasting base := by
  refine Act.Lasting.bind (.of_lasts fun world => Clockwork.Lasts.refl _) fun world => ?_
  refine Act.Lasting.bind (.ofExcept _) fun targets => ?_
  split
  · exact .of_lasts fun world => Clockwork.Lasts.refl _
  · refine (h.lasting_git root _ base).bind fun inside => ?_
    split
    · exact h.lasting_stageEach root targets base
    · exact .of_lasts fun world => Clockwork.Lasts.refl _

/-- Files are staged alike. -/
theorem stage (h : shell.Unaware) (root : Path) (files : List String) :
    (FixFirst.stage shell root files).Twin aspect asked (FixFirst.stage shell root files) (Act.Even asked) := by
  refine Act.Twin.silently fun world other hbeside =>
    ⟨.ok world, .ok other, ⟨world, rfl, .refl world⟩, ⟨other, rfl, .refl other⟩, .ok ?_⟩
  rw [hbeside.same.disk]
  refine (Act.Alike.ofExcept _).twin fun targets => ?_
  have hrest : ∀ inside : Completed, Act.Lasting (τ := τ) (σ := σ) aspect.base
      (if inside.status = 0 && Text.trimmed inside.output == "true" then FixFirst.stageEach shell root targets
        else pure ⟨[], targets.map fun file => ⟨file,
          if inside.status = 0 then "not inside a git work tree" else inside.complaint⟩⟩) := by
    intro inside
    split
    · exact h.lasting_stageEach root targets aspect.base
    · exact .of_lasts fun world => Clockwork.Lasts.refl _
  split
  · exact .pure ⟨rfl, rfl⟩
  · refine (h.git root _).bind (fun later inside other htogether => ?_) hrest hrest
    obtain ⟨rfl, rfl⟩ := htogether
    split
    · exact h.stageEach root targets
    · exact .pure ⟨rfl, rfl⟩

end Shell.Unaware

/-! ### Reports -/

/-- Whether a report is like that of the run with one engine more, which failed if it was `asked`. -/
structure Report.Beside (name : String) (asked : Bool) (report other : Report τ) : Prop where
  rest : report = { other with
    metrics := report.metrics, failed := other.failed.erase name, success := report.success }
  asked : other.failed.holds name = asked

omit [Quantity τ] in
theorem Course.Beside.fixedFiles {name : String} {fixing : Prop} {course other : Course τ}
    (h : course.Beside name fixing asked other) (scope : List String) : course.fixedFiles scope = other.fixedFiles scope := by
  unfold Course.fixedFiles
  rw [h.usable]

theorem OutputConfig.drifts_warnEach {ι : Type} (output : OutputConfig) (items : List ι) (message : ι → String) (result : α)
    (world : World τ σ) :
    Act.Drifts level (do
      for item in items do
        output.warn (message item)
      return result) world (.ok result) :=
  (Act.Drifts.said (output.on_warnEach items message world)).bind fun warned _ => .pure result warned

/-- What ends a run that has been staged. -/
def Setup.ends (setup : Setup τ) (cancelled : Bool) (staged : Course τ × Report τ) : Act τ σ (Report τ) := do
  let tracker ← Act.ofExcept (staged.1.finish cancelled)
  return { staged.2 with duration := (← World.now) - setup.started, phases := tracker.names }

/-- What follows when the phases of a run are over. -/
def Runner.aggregates (runner : Runner τ σ) (request : Request τ) (setup : Setup τ) (cancelled : Bool) (course : Course τ) :
    Act τ σ (Report τ) := do
  let report ← runner.report request setup.files setup.started setup.id cancelled course
  let staged ← runner.stageFixed request cancelled course report
  setup.ends cancelled staged

theorem Runner.conclude_eq (runner : Runner τ σ) (request : Request τ) (setup : Setup τ) (course : Course τ) :
    runner.conclude request setup course = (do
      let reason ← World.askClock fun clock =>
        ((clock.forest.reason? setup.runToken).filter fun reason => !reason.isEmpty).or
          (clock.forest.reason? setup.phaseToken)
      let cancelled ← World.askClock fun clock =>
        clock.isCancelled setup.runToken || clock.isCancelled setup.phaseToken
      let wrapped ← course.wrapUp setup.id cancelled reason
      runner.aggregates request setup cancelled wrapped) := rfl

namespace Runner.Joined

variable {runner joined : Runner τ σ} {odd : Engine τ σ} {course other : Course τ} {request : Request τ}

/-- Reports on courses that are alike. -/
theorem report (h : runner.Joined joined odd) (hcourse : course.Beside odd.name runner.CanFix asked other)
    (files : List String) (started : τ) (id : String) :
    (runner.report request files started id false course).Twin aspect asked
      (joined.report request files started id false other)
      fun later known known' => later = asked ∧ known.Beside odd.name asked known' := by
  intro world there hbeside _ _
  unfold Runner.report
  simp only
  rw [Act.on_bind_of_ok (Act.on_get world), Act.on_bind_of_ok (Act.on_get there), Act.on_bind, Act.on_bind, Act.on_ofExcept,
    Act.on_ofExcept, hbeside.same.now, hbeside.same.disk, h.config, hcourse.usable, hcourse.unavailable, hcourse.omitted,
    hcourse.failed]
  cases aggregate world.disk (mergeResults other.usable)
    ⟨⟨world.clock.now - started, some id⟩, some files, none, runner.config.execution.failOn⟩ with
  | error fault => exact ⟨asked, hbeside, .error fault⟩
  | ok base => exact ⟨asked, hbeside, .ok ⟨rfl, rfl, hcourse.asked⟩⟩

/-- A report leaves the world as it is. -/
theorem lasting_report {base : Nat} (runner : Runner τ σ) (files : List String) (started : τ) (id : String) (cancelled : Bool)
    (course : Course τ) : (runner.report request files started id cancelled course).Lasting base := by
  refine .of_lasts fun world => ?_
  rcases hon : (runner.report request files started id cancelled course).on world with ⟨outcome, after⟩
  cases outcome with
  | ok report =>
      obtain ⟨rfl, -⟩ := report_ok hon
      exact Clockwork.Lasts.refl _
  | error fault =>
      obtain ⟨rfl, -⟩ := report_error hon
      exact Clockwork.Lasts.refl _

/-- What is staged of the fixed files is the same. -/
theorem stageFixed (h : runner.Joined joined odd) (hcourse : course.Beside odd.name runner.CanFix asked other)
    {report report' : Report τ} (hreport : report.Beside odd.name asked report') :
    (runner.stageFixed request false course report).Twin aspect asked (joined.stageFixed request false other report')
      fun later staged staged' => later = asked ∧ staged.1.Beside odd.name runner.CanFix asked staged'.1 ∧
        staged.2.Beside odd.name asked staged'.2 := by
  unfold Runner.stageFixed
  simp only
  rw [h.config, h.shell]
  split
  · exact .pure ⟨rfl, hcourse, hreport⟩
  · refine Act.Twin.silently fun world there hbeside =>
      ⟨.ok world, .ok there, ⟨world, rfl, .refl world⟩, ⟨there, rfl, .refl there⟩, .ok ?_⟩
    simp only [hbeside.same.disk]
    refine (Act.Alike.ofExcept _).twin fun scope => ?_
    rw [hcourse.fixedFiles]
    split
    · exact .pure ⟨rfl, hcourse, hreport⟩
    · simp only [Bool.false_eq_true, if_false]
      refine Act.Twin.silently fun world there _ => ⟨_, _, course.drifts_enter .stage world, other.drifts_enter .stage there,
        (hcourse.entering .stage).mono fun entered entered' hentered => ?_⟩
      refine (h.shellUnaware.stage _ _).settle (fun staging world => OutputConfig.drifts_warnEach _ _ _ _ world)
        (fun staging world => OutputConfig.drifts_warnEach _ _ _ _ world) fun later staging staging' htogether => ?_
      obtain ⟨rfl, rfl⟩ := htogether
      refine ⟨rfl, hentered, ?_, hreport.asked⟩
      exact congrArg (fun known : Report τ => { known with staged := staging'.staged, stagingWarnings := staging'.warnings })
        hreport.rest

theorem lasting_stageFixed {base : Nat} (h : runner.shell.Unaware) (cancelled : Bool) (course : Course τ) (report : Report τ) :
    (runner.stageFixed request cancelled course report).Lasting base := by
  have hpure : ∀ value, (pure value : Act τ σ (Course τ × Report τ)).Lasting base :=
    fun value => .of_lasts fun world => Clockwork.Lasts.refl _
  unfold Runner.stageFixed
  simp only
  split
  · exact hpure _
  · refine Act.Lasting.bind (.of_lasts fun world => Clockwork.Lasts.refl _) fun world => (Act.Lasting.ofExcept _).bind fun scope => ?_
    split
    · exact hpure _
    · split
      · exact hpure _
      · exact Act.Lasting.bind (.of_drifts .normal fun world => ⟨_, course.drifts_enter .stage world⟩)
          fun entered => (h.lasting_stage _ _ base).bind fun staging => .of_drifts .normal fun world =>
            ⟨_, OutputConfig.drifts_warnEach _ _ _ _ world⟩

/-- Both runs end in the same phase. -/
theorem ends (hcourse : course.Beside odd.name runner.CanFix asked other) (setup : Setup τ) {report report' : Report τ}
    (hreport : report.Beside odd.name asked report') :
    (setup.ends false (course, report)).Twin aspect asked (setup.ends false (other, report') : Act τ σ (Report τ))
      fun later report report' => later = asked ∧ report.Beside odd.name asked report' := by
  have hfinish : course.finish false = other.finish false := by
    unfold Course.finish
    rw [hcourse.tracker]
  unfold Setup.ends
  rw [hfinish]
  refine (Act.Alike.ofExcept _).twin fun tracker world there hbeside _ _ => ?_
  rw [Act.on_bind_of_ok (Act.on_now world), Act.on_bind_of_ok (Act.on_now there), hbeside.same.now]
  refine ⟨asked, hbeside, .ok ⟨rfl, ?_, hreport.asked⟩⟩
  exact congrArg (fun known : Report τ => { known with
    duration := world.clock.now - setup.started, phases := tracker.names }) hreport.rest

theorem lasting_ends {base : Nat} (setup : Setup τ) (cancelled : Bool) (staged : Course τ × Report τ) :
    (setup.ends cancelled staged : Act τ σ (Report τ)).Lasting base :=
  (Act.Lasting.ofExcept _).bind fun _ => .of_lasts fun _ => Clockwork.Lasts.refl _

/-- What follows the phases of runs that are not cancelled. -/
theorem aggregates (h : runner.Joined joined odd) (hcourse : course.Beside odd.name runner.CanFix asked other) (setup : Setup τ) :
    (runner.aggregates request setup false course).Twin aspect asked (joined.aggregates request setup false other)
      fun later report report' => later = asked ∧ report.Beside odd.name asked report' := by
  have hshell : joined.shell.Unaware := h.shell ▸ h.shellUnaware
  refine (h.report hcourse setup.files _ _).bind (fun later report report' htogether => ?_)
    (fun report => (lasting_stageFixed h.shellUnaware false course report).bind fun staged => lasting_ends setup false staged)
    (fun report => (lasting_stageFixed hshell false other report).bind fun staged => lasting_ends setup false staged)
  obtain ⟨rfl, hreport⟩ := htogether
  refine (h.stageFixed hcourse hreport).bind (fun later staged staged' htogether => ?_) (lasting_ends setup false)
    (lasting_ends setup false)
  obtain ⟨rfl, hstaged, hreport⟩ := htogether
  exact ends hstaged setup hreport

theorem lasting_aggregates {base : Nat} (h : runner.shell.Unaware) (setup : Setup τ) (cancelled : Bool) (course : Course τ) :
    (runner.aggregates request setup cancelled course).Lasting base := by
  refine (lasting_report runner _ _ _ _ _).bind fun report => ?_
  exact (lasting_stageFixed h cancelled course report).bind fun staged => lasting_ends setup cancelled staged

theorem lasting_wrapUp {base : Nat} (course : Course τ) (id : String) (cancelled : Bool) (reason : Option String) :
    (course.wrapUp id cancelled reason : Act τ σ (Course τ)).Lasting base := by
  unfold Course.wrapUp
  split
  · exact .of_lasts fun world => Clockwork.Lasts.refl _
  · exact .of_drifts .normal fun world => ⟨_, course.drifts_enter .aggregate world⟩

/-- Runs that are not cancelled conclude alike. -/
theorem conclude (h : runner.Joined joined odd) (setup : Setup τ) (hrun : (setup.runToken, setup.runToken) ∈ aspect.tokens)
    (hphase : (setup.phaseToken, setup.phaseToken) ∈ aspect.tokens)
    (hcourse : course.Beside odd.name runner.CanFix asked other) :
    (runner.conclude request setup course).Twin aspect asked (joined.conclude request setup other)
      fun later report report' => later = asked ∧ report.Beside odd.name asked report' := by
  intro world there hbeside hclear hclear'
  have hshell : joined.shell.Unaware := h.shell ▸ h.shellUnaware
  have hactive : ∀ {world : World τ σ}, world.Clear aspect.base →
      (world.clock.isCancelled setup.runToken || world.clock.isCancelled setup.phaseToken) = false := by
    intro world hworld
    unfold Clockwork.isCancelled
    rw [hworld _ (hbeside.tokens _ hrun).1, hworld _ (hbeside.tokens _ hphase).1]
    rfl
  rw [Runner.conclude_eq, Act.on_bind_of_ok (Act.on_askClock _ world), Act.on_bind_of_ok (Act.on_askClock _ world)] at hclear ⊢
  rw [Runner.conclude_eq, Act.on_bind_of_ok (Act.on_askClock _ there), Act.on_bind_of_ok (Act.on_askClock _ there)] at hclear' ⊢
  have hworld := (lasting_wrapUp course setup.id _ _).bind (fun wrapped => lasting_aggregates h.shellUnaware setup _ wrapped) world hclear
  have hthere := (lasting_wrapUp other setup.id _ _).bind (fun wrapped => lasting_aggregates hshell setup _ wrapped) there hclear'
  rw [hactive hworld] at hclear ⊢
  rw [hactive hthere] at hclear' ⊢
  refine Act.Twin.silently (fun world there _ => ?_) world there hbeside hclear hclear'
  exact ⟨_, _, course.drifts_enter .aggregate world, other.drifts_enter .aggregate there,
    (hcourse.entering .aggregate).mono fun wrapped wrapped' hwrapped => h.aggregates hwrapped setup⟩

end Runner.Joined

end FixFirst
