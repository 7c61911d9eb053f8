import FixFirst.Proofs.Run.Limits

/-!
# The phases of a run

The phases that a report lists are always a line: start, fixing if it is wanted, checking, and then
either cancellation, or aggregation, staging if there is something to stage, and the end.  One mark
may stand in it, after the start and before what follows checking: it says that an engine was not
available.  A run never enters a phase that may not come next.

## Main definitions

* `Phase.line` — the line of phases, without the mark.
* `Course.Along` — a course that has come some way along a line.
* `Runner.handed` — the files that are handed over to be staged.
* `Report.Phased` — what the phases of a report are.

## Main statements

* `Course.Along.takingAll`, `Course.Along.entered` — what the steps of a run do to its line.
* `Runner.conclude_phases` — how the line ends.
* `Shell.bind_phased` — a run is within limits that leave no fault of a wrong phase.
* `phases_in_line` — the phases of every run.
-/

namespace FixFirst

variable {τ σ : Type}

/-! ### Lines of phases -/

namespace Phase

/-- The phases of a run up to the end of checking. -/
def opening (fixing : Bool) : List Phase := .start :: (if fixing then [.fix] else []) ++ [.check]

/-- The phases after checking. -/
def ending (cancelled staging : Bool) : List Phase :=
  if cancelled then [.cancelled] else .aggregate :: (if staging then [.stage] else []) ++ [.done]

/-- The phases of a run. -/
def line (fixing cancelled staging : Bool) : List Phase := opening fixing ++ ending cancelled staging

theorem degraded_notMem_ending (cancelled staging : Bool) : Phase.degraded ∉ ending cancelled staging := by
  cases cancelled <;> cases staging <;> decide

theorem getLast?_ending (cancelled staging : Bool) :
    (ending cancelled staging).getLast? = some (if cancelled then .cancelled else .done) := by
  cases cancelled <;> cases staging <;> rfl

end Phase

/-- Whether a course has come along a line of phases, and marks once that an engine is not available. -/
structure Course.Along (course : Course τ) (line : List Phase) : Prop where
  line : course.tracker.history.filter (· != .degraded) = line
  starts : course.tracker.history.head? = some .start
  once : course.tracker.history.count .degraded ≤ 1
  marked : .degraded ∈ course.tracker.history ↔ course.unavailable ≠ []

namespace Course

theorem along_initial : (Course.initial : Course τ).Along [.start] := by
  have honce : [Phase.start].count .degraded ≤ 1 := by decide
  refine ⟨rfl, rfl, honce, ?_⟩
  simp [Course.initial, Tracker.initial]

namespace Along

variable {course next : Course τ} {line : List Phase}

/-- Only the phases and the missing engines of a course matter. -/
theorem congr (h : course.Along line) (htracker : next.tracker = course.tracker)
    (hunavailable : next.unavailable = course.unavailable) : next.Along line := by
  obtain ⟨hline, hstarts, honce, hmarked⟩ := h
  rw [← htracker] at hline hstarts honce hmarked
  rw [← hunavailable] at hmarked
  exact ⟨hline, hstarts, honce, hmarked⟩

/-- A phase of the line is entered. -/
theorem entered (h : course.Along line) {phase : Phase} (hphase : phase ≠ .degraded) :
    { course with tracker := ⟨phase, course.tracker.history ++ [phase]⟩ }.Along (line ++ [phase]) := by
  refine ⟨?_, ?_, ?_, ?_⟩
  · rw [List.filter_append, h.line]
    simp [hphase]
  · rw [List.head?_append, h.starts]
    rfl
  · rw [List.count_append, List.count_singleton, beq_eq_false_iff_ne.mpr hphase]
    simpa using h.once
  · rw [List.mem_append, List.mem_singleton, h.marked]
    simp [hphase.symm]

/-- An engine is found to be missing: that is marked, unless another one was missing before. -/
theorem degraded (h : course.Along line) (engine message : String) :
    { course with
      unavailable := course.unavailable.put engine message
      tracker := course.tracker.degrade }.Along line := by
  have hput : course.unavailable.put engine message ≠ [] := by
    intro hnone
    have hheld : (course.unavailable.put engine message).holds engine = true := by simp [holds_put]
    rw [hnone] at hheld
    cases hheld
  unfold Tracker.degrade Tracker.degraded
  by_cases hmark : .degraded ∈ course.tracker.history
  · rw [if_pos (by simpa using hmark)]
    refine ⟨h.line, h.starts, h.once, ?_⟩
    simp [hmark, hput]
  · rw [if_neg (by simpa using hmark)]
    refine ⟨?_, ?_, ?_, ?_⟩
    · simp [List.filter_append, h.line]
    · simp [List.head?_append, h.starts]
    · simp [List.count_append, List.count_eq_zero_of_not_mem hmark]
    · simp [hput]

theorem taking (h : course.Along line) (outcome : Outcome τ) : (course.taking outcome).Along line := by
  unfold Course.taking
  split
  · split
    · exact h
    · exact h.degraded _ _
  · exact h.congr rfl rfl
  · exact h
  · split
    · exact h.congr rfl rfl
    · exact h.congr rfl rfl

/-- Taking note of outcomes does not lead off the line. -/
theorem takingAll (h : course.Along line) (outcomes : List (Outcome τ)) : (course.takingAll outcomes).Along line := by
  induction outcomes generalizing course with
  | nil => exact h
  | cons outcome rest ih => exact ih (h.taking outcome)

end Along

/-- After checking, a run is cancelled or goes on to aggregation. -/
theorem wrapUp_history {course next : Course τ} {id : String} {cancelled : Bool} {reason : Option String}
    {world after : World τ σ} (hgoing : course.tracker.terminal = false)
    (h : (course.wrapUp id cancelled reason).on world = (.ok next, after)) :
    next.tracker.history = course.tracker.history ++ [if cancelled then .cancelled else .aggregate] := by
  unfold wrapUp at h
  cases cancelled with
  | true =>
      simp only [if_true] at h
      rw [Act.on_bind_of_ok (World.on_remark _ world)] at h
      cases h
      unfold Tracker.cancel
      simp [hgoing]
  | false =>
      rw [enter_history hgoing h]
      rfl

/-- A run that is not cancelled comes to its end. -/
theorem finish_history {course : Course τ} {cancelled : Bool} {final : Tracker}
    (h : course.finish cancelled = .ok final) :
    final.history = course.tracker.history ++ if cancelled then [] else [.done] := by
  unfold finish at h
  cases cancelled with
  | true =>
      cases h
      simp
  | false =>
      rw [if_neg Bool.false_ne_true] at h
      unfold Tracker.advance? at h
      by_cases hlast : course.tracker.current.follows .done = true
      · simp only [hlast, if_true] at h
        cases h
        rfl
      · simp only [hlast] at h
        cases h

end Course

/-! ### The line of a run -/

/-- The files that a run hands over to be staged: the ones that fixing changed, unless the run was cancelled or
staging is not wanted. -/
def Runner.handed (runner : Runner τ σ) (request : Request τ) (cancelled : Bool) (course : Course τ) (disk : Disk) :
    List String :=
  if runner.config.execution.fix && runner.config.execution.autoStage && !cancelled then
    match disk.normalizeAll request.files with
    | .ok scope => course.fixedFiles scope
    | .error _ => []
  else []

/-- Whether a report says what the stager made of the files that were handed over to it, if there were any. -/
def Report.Tells (report : Report τ) (shell : Shell τ σ) (root : Path) (handed : List String) : Prop :=
  handed ≠ [] → ∃ begun finished, (stage shell root handed).on begun =
    (.ok ⟨report.staged, report.stagingWarnings⟩, finished)

/-- What the phases of a report are, for the files that were handed over to be staged. -/
structure Report.Phased (report : Report τ) (fixing : Bool) (handed : List String) : Prop where
  /-- The phases are a line with marks. -/
  history : ∃ history : List Phase, report.phases = history.map Phase.name ∧
    history.filter (· != .degraded) = Phase.line fixing report.cancelled !handed.isEmpty ∧
    history.count .degraded ≤ 1 ∧ history.head? ≠ some .degraded ∧ history.getLast? ≠ some .degraded ∧
    (∀ before phase after, history = before ++ phase :: after → phase = .aggregate ∨ phase = .cancelled →
      .degraded ∉ after) ∧
    (.degraded ∈ history ↔ report.unavailable ≠ []) ∧ (history.getLast? = some .cancelled ↔ report.cancelled = true)
  /-- Of the files handed over, the report says whether they are staged. -/
  staged : report.cancelled = false → (handed ≠ [] ↔ report.staged ≠ [] ∨ report.stagingWarnings ≠ [])

namespace Runner

variable {runner : Runner τ σ} {request : Request τ}

/-- What staging at the end of a run does to the line. -/
theorem StageCase.phases {cancelled : Bool} {course next : Course τ} {report last : Report τ} {world after : World τ σ}
    (h : runner.StageCase request cancelled course report world next last after)
    (hfollows : cancelled = false → course.tracker.current = .aggregate) :
    next.tracker.history = course.tracker.history ++
        (if (runner.handed request cancelled course world.disk).isEmpty then [] else [.stage]) ∧
      (cancelled = true → runner.handed request cancelled course world.disk = []) ∧
      (cancelled = false → report.staged = [] → report.stagingWarnings = [] →
        (runner.handed request cancelled course world.disk ≠ [] ↔ last.staged ≠ [] ∨ last.stagingWarnings ≠ [])) ∧
      last.Tells runner.shell (request.root.getD (Path.rooted world.disk.cwd))
        (runner.handed request cancelled course world.disk) := by
  unfold handed Report.Tells
  cases h with
  | unwanted off => simp +contextual [off]
  | nothing on normal none =>
      rw [on, normal]
      cases cancelled <;> simp +contextual [none]
  | left on normal some stopped => simp [stopped]
  | @staged scope entered begun done staging words on normal some going enters stages spoken =>
      have hgoing := Course.going_of_current (hfollows going) rfl
      rw [on, normal, going]
      simp only [Bool.not_false, Bool.and_self, if_true, List.isEmpty_eq_false_iff.mpr some, Bool.false_eq_true, if_false]
      refine ⟨?_, False.elim, fun _ _ _ => ⟨fun _ => ?_, fun _ => some⟩, fun _ => ⟨begun, done, stages⟩⟩
      · rw [Course.enter_history hgoing enters]
      -- Each of the files handed over is staged or warned about.
      obtain ⟨targets, inside, answers, -, htargets, -, hlength, rfl⟩ := stage_answered stages some
      have hperm := Staging.perm_of hlength
      by_contra hnone
      obtain ⟨hstaged, hwarned⟩ := not_or.mp hnone
      rw [not_not.mp hstaged, not_not.mp hwarned] at hperm
      exact htargets (List.nil_perm.mp hperm)

variable [Quantity τ]

/-- A run that fixes is along the line. -/
theorem along_fixFirst {files : List String} {critical : Option (List String)} {token : Nat} {fixed : Course τ}
    {world after : World τ σ} (h : (runner.fixFirst files critical token).on world = (.ok fixed, after)) :
    fixed.Along (.start :: if runner.config.execution.fix then [.fix] else []) := by
  unfold fixFirst at h
  split at h
  · rename_i hwanted
    rw [if_pos hwanted]
    obtain ⟨entered, begun, henter, h⟩ := Act.on_bind_ok.mp h
    have hentered : entered.Along [.start, .fix] := by
      rw [Course.enter_history rfl henter]
      exact Course.along_initial.entered (by decide)
    cases fixPhase_ok h with
    | skipped why => exact hentered
    | held going admits none => exact hentered.congr rfl rfl
    | @fixed admission seen done outcomes overran events going admits works spoken =>
        have hstart : { entered with deferred := admission.deferred, timedOut := entered.timedOut || overran }.Along
            [.start, .fix] := hentered.congr rfl rfl
        exact (hstart.takingAll outcomes).congr rfl rfl
  · rename_i hunwanted
    cases h
    rw [if_neg hunwanted]
    exact Course.along_initial

/-- How the line of a run ends. -/
theorem conclude_phases {setup : Setup τ} {course : Course τ} {report : Report τ} {done after : World τ σ}
    (hcheck : course.tracker.current = .check)
    (h : (runner.conclude request setup course).on done = (.ok report, after)) :
    report.phases = (course.tracker.history ++ Phase.ending report.cancelled
        !(runner.handed request report.cancelled course done.disk).isEmpty).map Phase.name ∧
      (report.cancelled = false → (runner.handed request report.cancelled course done.disk ≠ [] ↔
        report.staged ≠ [] ∨ report.stagingWarnings ≠ [])) ∧
      report.Tells runner.shell (request.root.getD (Path.rooted done.disk.cwd))
        (runner.handed request report.cancelled course done.disk) := by
  generalize hcancelled : (done.clock.isCancelled setup.runToken || done.clock.isCancelled setup.phaseToken) = cancelled
  obtain ⟨tracker, reason, events, first, next, last, final, duration, hwrap, -, hreport, hstage, hfinal, rfl⟩ :=
    conclude_steps hcancelled h
  have hwrapped := Course.wrapUp_history (Course.going_of_current hcheck rfl) hwrap
  obtain ⟨-, scope, base, metrics, -, rfl, rfl⟩ := report_ok hreport
  obtain ⟨hhistory, hnone, hsaid, htells⟩ := (stageFixed_cases hstage).phases (Course.wrapUp_current hcheck hwrap)
  obtain ⟨warnings, names, rfl⟩ := stageFixed_ok hstage
  have hhanded : runner.handed request cancelled { course with tracker := tracker } (done.noted events).disk =
      runner.handed request cancelled course done.disk := rfl
  rw [hhanded] at hhistory hnone hsaid htells
  refine ⟨?_, fun hgo => hsaid hgo rfl rfl, htells⟩
  change final.names = _
  unfold Tracker.names
  refine congrArg (List.map Phase.name) ?_
  change final.history = course.tracker.history ++ Phase.ending cancelled _
  rw [Course.finish_history hfinal, hhistory, hwrapped]
  cases cancelled with
  | true =>
      rw [hnone rfl]
      simp [Phase.ending]
  | false => cases (runner.handed request false course done.disk).isEmpty <;> simp [Phase.ending]

end Runner

/-- A run whose phases are over is along the line. -/
theorem Passage.along [Quantity τ] {runner : Runner τ σ} {request : Request τ} {world : World τ σ} {report : Report τ}
    (passage : Passage runner request world report) :
    passage.course.Along (Phase.opening runner.config.execution.fix) := by
  obtain ⟨omitted, -, hcourse⟩ := passage.recorded
  have hentered := (Runner.along_fixFirst passage.fixes).entered (by decide : Phase.check ≠ .degraded)
  rw [← Course.enter_history (Runner.fixFirst_going passage.fixes) passage.enters] at hentered
  rw [hcourse]
  exact (hentered.takingAll passage.batches.results.flatten).congr rfl rfl

/-- What the phases of a run are that has come along the line and then ended. -/
theorem Course.Along.phased {course : Course τ} {fixing : Bool} (h : course.Along (Phase.opening fixing)) {report : Report τ}
    {handed : List String}
    (hphases : report.phases =
      (course.tracker.history ++ Phase.ending report.cancelled !handed.isEmpty).map Phase.name)
    (hunavailable : report.unavailable = course.unavailable.keys)
    (hstaged : report.cancelled = false → (handed ≠ [] ↔ report.staged ≠ [] ∨ report.stagingWarnings ≠ [])) :
    report.Phased fixing handed := by
  have hnone : .degraded ∉ Phase.ending report.cancelled !handed.isEmpty := Phase.degraded_notMem_ending _ _
  have hending : (Phase.ending report.cancelled !handed.isEmpty).filter (· != .degraded) =
      Phase.ending report.cancelled !handed.isEmpty := by
    refine List.filter_eq_self.mpr fun phase hin => ?_
    have hother : phase ≠ .degraded := fun heq => hnone (heq ▸ hin)
    simpa using hother
  have hlast : (course.tracker.history ++ Phase.ending report.cancelled !handed.isEmpty).getLast? =
      some (if report.cancelled then .cancelled else .done) := by
    rw [List.getLast?_append, Phase.getLast?_ending]
    rfl
  refine ⟨⟨_, hphases, ?_, ?_, ?_, ?_, ?_, ?_, ?_⟩, hstaged⟩
  · rw [List.filter_append, h.line, hending, Phase.line]
  · rw [List.count_append, List.count_eq_zero_of_not_mem hnone]
    exact h.once
  · rw [List.head?_append, h.starts]
    simp
  · rw [hlast]
    cases report.cancelled <;> simp
  · -- The mark is in the part before aggregation or cancellation.
    intro before phase after hsplit hphase hmark
    rcases List.append_eq_append_iff.mp hsplit with ⟨between, hbefore, hend⟩ | ⟨between, hhistory, hend⟩
    · have hin : Phase.degraded ∈ Phase.ending report.cancelled !handed.isEmpty := by
        rw [hend]
        exact List.mem_append_right _ (List.mem_cons_of_mem _ hmark)
      exact hnone hin
    · cases between with
      | nil =>
          have hin : Phase.degraded ∈ Phase.ending report.cancelled !handed.isEmpty := by
            rw [List.nil_append] at hend
            rw [← hend]
            exact List.mem_cons_of_mem _ hmark
          exact hnone hin
      | cons first rest =>
          obtain ⟨rfl, -⟩ := List.cons.inj hend
          have hin : phase ∈ Phase.opening fixing := by
            rw [← h.line, hhistory]
            refine List.mem_filter.mpr ⟨List.mem_append_right _ List.mem_cons_self, ?_⟩
            rcases hphase with rfl | rfl <;> rfl
          rcases hphase with rfl | rfl <;> cases fixing <;> revert hin <;> decide
  · rw [List.mem_append, h.marked, hunavailable]
    simp [hnone, Keyed.keys]
  · rw [hlast]
    cases report.cancelled <;> simp

/-! ### No wrong phase -/

/-- Limits within which a phase that may not come next is a fault of the version control system only. -/
def Shell.phased (shell : Shell τ σ) : Limits τ σ where
  world _ := True
  path _ := True
  fault fault _ := ∀ source target, fault = .transition source target →
    ∃ arguments root world, ((shell ⟨"git" :: arguments, some root⟩ none).on world).1 = .error (.transition source target)

theorem Shell.bindShell_phased (shell : Shell τ σ) : shell.phased.BindShell shell :=
  fun arguments root world _ => ⟨trivial, fun _ herror => Or.inr fun _ _ _ _ heq =>
    ⟨arguments, root, world, heq ▸ herror⟩⟩

variable [Quantity τ]

/-- Whether a fault is not that of a wrong phase. -/
def Fault.Phaseless (fault : Fault) : Prop := ∀ source target, fault ≠ .transition source target

/-- The faults of numbers are not those of wrong phases. -/
theorem Fault.phaseless_covers : Confined.Covers τ Fault.Phaseless := by
  intro x hinfinite text
  constructor
  · intro source target heq
    cases heq
  · intro source target heq
    cases heq

theorem Fault.phaseless_normalize (disk : Disk) (text : String) : Confined Fault.Phaseless (disk.normalize text) := by
  refine Confined.normalize (fun message source target heq => ?_) (fun message source target heq => ?_) disk text
  · cases heq
  · cases heq

theorem Fault.phaseless_refusedWait : Fault.Phaseless World.refusedWait := by
  intro source target heq
  cases heq

omit [Quantity τ] in
theorem Fault.Phaseless.phased {fault : Fault} (h : fault.Phaseless) (shell : Shell τ σ) (world : World τ σ) :
    shell.phased.fault fault world := fun source target heq => absurd heq (h source target)

theorem Shell.bind_phased (runner : Runner τ σ) : runner.shell.phased.Bind runner where
  noted _ _ _ := trivial
  sampled _ _ _ _ := trivial
  clocked _ _ _ _ := trivial
  prepares _ _ _ _ _ := trivial
  calls _ _ _ _ _ _ _ := trivial
  paths world text _ _ := ⟨fun _ _ => trivial, (Fault.phaseless_normalize world.disk text).mono fun _ hphaseless world _ =>
    hphaseless.phased runner.shell world⟩
  samples := by
    refine ⟨fun _ _ => trivial, fun _ _ _ _ => trivial, fun world fault _ herror => ?_⟩
    obtain ⟨monitor, -, hjudged, -⟩ := World.sample_error herror
    exact (Confined.judge Fault.phaseless_covers _ _ _ fault hjudged).phased runner.shell _
  stops := by
    refine ⟨fun _ _ => trivial, fun _ _ _ _ => trivial, fun world fault _ herror => ?_⟩
    obtain ⟨rfl, -⟩ := World.stopMonitor_error herror
    exact Fault.phaseless_refusedWait.phased runner.shell _
  grace _ world _ := Fault.phaseless_refusedWait.phased runner.shell world
  faultClocked _ _ _ _ hfault := hfault
  faultStopped _ _ _ hfault := hfault

/-- A run that cannot be set up does not fail at a wrong phase. -/
theorem Runner.phaseless_setUp {runner : Runner τ σ} {request : Request τ} {fault : Fault} {world after : World τ σ}
    (h : (runner.setUp request).on world = (.error fault, after)) : fault.Phaseless := by
  rcases Runner.setUp_error h with ⟨-, rfl⟩ | htime | hfiles | hmonitor
  · intro source target heq
    cases heq
  · exact Confined.milliseconds Fault.phaseless_covers _ fault htime
  · exact Confined.normalizeAll (fun text _ => Fault.phaseless_normalize world.disk text) fault hfiles
  · unfold Monitor.make at hmonitor
    split at hmonitor
    · cases hmonitor
      intro source target heq
      cases heq
    · cases hmonitor

/-- **The phases of a run.**  A run never fails at a phase that may not come next, unless the version control system
claims such a fault.  If it comes to a report, the phases of the report are start, fixing if it is wanted, checking, and
then either cancellation, or aggregation, staging if files were handed over to be staged, and the end; and one mark
among them, before aggregation and cancellation, says whether an engine was not available. -/
theorem phases_in_line (runner : Runner τ σ) (request : Request τ) (world : World τ σ) :
    (∀ source target, ((runner.run request).on world).1 = .error (.transition source target) →
      ∃ arguments root seen,
        ((runner.shell ⟨"git" :: arguments, some root⟩ none).on seen).1 = .error (.transition source target)) ∧
    ∀ report after, (runner.run request).on world = (.ok report, after) →
      ∃ (passage : Passage runner request world report) (handed : List String),
        handed = runner.handed request report.cancelled passage.course passage.finished.disk ∧
        report.Tells runner.shell (request.root.getD (Path.rooted passage.finished.disk.cwd)) handed ∧
        report.Phased runner.config.execution.fix handed := by
  constructor
  · intro source target herror
    rcases Act.on_bind_error (Prod.ext herror rfl) with hsetup | ⟨setup, ready, -, hrest⟩
    · exact absurd rfl (Runner.phaseless_setUp hsetup source target)
    · have hwithin : (runner.work request setup >>= runner.conclude request setup).Within runner.shell.phased fun _ => True :=
        Runner.within_run (Shell.bind_phased runner) runner.shell.bindShell_phased (fun _ _ => trivial)
          (fun _ _ _ _ => trivial) fun _ _ => trivial
      exact hwithin.fault ready _ trivial (by rw [hrest]) source target rfl
  · intro report after hok
    obtain ⟨passage, done, hlaunch, -, hdisk, hconclude⟩ := Runner.exists_concluded hok
    obtain ⟨hphases, hstaged, htells⟩ := Runner.conclude_phases (Runner.launch_current hlaunch) hconclude
    rw [hdisk] at hphases hstaged htells
    exact ⟨passage, _, rfl, htells, passage.along.phased hphases passage.unavailable hstaged⟩

-- What names hold, and what a disk holds, is evaluated by equations: unfolding texts is slow.
attribute [local irreducible] Path.hasNul Disk.isDirectory Disk.present

/-- A run that stages a file goes through all phases. -/
theorem phases_in_line_staging :
    ∃ report after, ((fixAndStage ["/a"]).run twoFiles).on (World.still (.empty [] []) ()) = (.ok report, after) ∧
      report.phases = ["start", "fix", "check", "aggregate", "stage", "done"] ∧
      ∃ handed, handed ≠ [] ∧ report.Phased true handed := by
  have hevaluated : (((fixAndStage ["/a"]).run twoFiles).on (World.still (.empty [] []) ())).1.toOption.map
      (fun report => (report.phases, report.cancelled, report.staged)) =
        some (["start", "fix", "check", "aggregate", "stage", "done"], false, ["/a"]) := by
    cbv
  obtain ⟨-, hreports⟩ := phases_in_line (fixAndStage ["/a"]) twoFiles (World.still (.empty [] []) ())
  rcases hrun : ((fixAndStage ["/a"]).run twoFiles).on (World.still (.empty [] []) ()) with ⟨outcome, after⟩
  rw [hrun] at hevaluated
  cases outcome with
  | error fault => cases hevaluated
  | ok report =>
      obtain ⟨hphases, hrest⟩ := Prod.mk.inj (Option.some.inj hevaluated)
      obtain ⟨hcancelled, hstaged⟩ := Prod.mk.inj hrest
      obtain ⟨passage, handed, -, -, hphased⟩ := hreports report after hrun
      refine ⟨report, after, rfl, hphases, handed, (hphased.staged hcancelled).mpr (Or.inl ?_), hphased⟩
      have hsame : report.staged = ["/a"] := hstaged
      rw [hsame]
      exact List.cons_ne_nil _ _

end FixFirst
