import FixFirst.Proofs.Run.Course

/-!
# The passage of a run

A run that comes to a report has been set up, has fixed what could be fixed, has checked all files
in batches, and has put together what it found.  A `Passage` holds what there was between these
steps: the courses and the worlds, and how each came about.

## Main definitions

* `Passage` — how a run came to its report.

## Main statements

* `Runner.setUp_steps`, `Runner.conclude_steps` — what comes before the phases of a run, and after them.
* `Runner.exists_concluded`, `Runner.passage_of_ok` — every run that comes to a report has a passage.
* `Passage.on_untilChecked` — and has only one.
-/

namespace FixFirst

variable {τ σ : Type}

/-- The batches of a check phase; there are none without files. -/
def Runner.checkAll [Quantity τ] (runner : Runner τ σ) (request : Request τ) (setup : Setup τ) (entered : Course τ) :
    Act τ σ (BatchReport (List (Outcome τ))) :=
  if setup.files.isEmpty then pure .empty
  else runner.config.batching.process setup.files (runner.checkBatch entered) setup.phaseToken request.critical
    (some (.measured setup.budget))

/-- How a run came to its report. -/
structure Passage [Quantity τ] (runner : Runner τ σ) (request : Request τ) (world : World τ σ) (report : Report τ) where
  setup : Setup τ
  /-- The world when the run is set up. -/
  ready : World τ σ
  /-- The world when readings are taken. -/
  watching : World τ σ
  /-- The course after the fix phase. -/
  fixed : Course τ
  /-- The world after the fix phase. -/
  rested : World τ σ
  /-- The course when the check phase begins. -/
  entered : Course τ
  /-- The world when the check phase begins. -/
  checking : World τ σ
  /-- What became of the check batches. -/
  batches : BatchReport (List (Outcome τ))
  /-- The world after the last check batch. -/
  checked : World τ σ
  /-- The course after the check phase. -/
  course : Course τ
  /-- The world after the check phase. -/
  finished : World τ σ
  /-- The files that the report is about. -/
  scope : List String
  setUp : (runner.setUp request).on world = (.ok setup, ready)
  watches : Act.on (World.startMonitor 0) ready = (.ok (), watching)
  fixes : (runner.fixFirst setup.files request.critical setup.phaseToken).on watching = (.ok fixed, rested)
  enters : (fixed.enter .check).on rested = (.ok entered, checking)
  checks : (runner.checkAll request setup entered).on checking = (.ok batches, checked)
  recorded : ∃ omitted, (∀ file ∈ batches.omitted, file ∈ omitted) ∧
    course = { entered.takingAll batches.results.flatten with
      timedOut := entered.timedOut || batches.timedOut.length ≠ 0
      omitted := omitted }
  said : ∃ events, finished = checked.noted events ∧ ∀ event ∈ events, event.Spoken
  inScope : finished.disk.normalizeAll setup.files = .ok scope
  issues : report.issues = finalIssues (mergeResults course.usable) (some scope)
  failed : report.failed = course.failed
  unavailable : report.unavailable = course.unavailable.keys
  omitted : report.omitted = course.omitted
  cancelled : report.cancelled =
    (finished.clock.isCancelled setup.runToken || finished.clock.isCancelled setup.phaseToken)
  success : report.success =
    (!(report.issues.any fun issue => issue.severity.atLeast runner.config.execution.failOn) &&
      !((mergeResults course.usable).any (·.cancelled)) && course.failed.isEmpty && !course.timedOut &&
      !report.cancelled)

namespace Runner

variable {runner : Runner τ σ} {request : Request τ}

/-- Staging changes only what a report says of staging. -/
theorem stageFixed_ok {cancelled : Bool} {course next : Course τ} {report last : Report τ} {world after : World τ σ}
    (h : (runner.stageFixed request cancelled course report).on world = (.ok (next, last), after)) :
    ∃ staged warnings, last = { report with staged := staged, stagingWarnings := warnings } := by
  unfold stageFixed at h
  simp only at h
  split at h
  · cases h
    exact ⟨report.staged, report.stagingWarnings, rfl⟩
  · rw [Act.on_bind_of_ok (Act.on_get world)] at h
    obtain ⟨scope, middle, -, h⟩ := Act.on_bind_ok.mp h
    split at h
    · cases h
      exact ⟨report.staged, report.stagingWarnings, rfl⟩
    · split at h
      · cases h
        exact ⟨_, _, rfl⟩
      · obtain ⟨entered, middle', -, h⟩ := Act.on_bind_ok.mp h
        obtain ⟨staging, middle'', -, h⟩ := Act.on_bind_ok.mp h
        obtain ⟨-, last', -, h⟩ := Act.on_bind_ok.mp h
        cases h
        exact ⟨_, _, rfl⟩

variable [Quantity τ]

/-- A check phase that is over: batches, if there were files, and what they came to. -/
theorem checkPhase_ok {setup : Setup τ} {entered course : Course τ} {checking finished : World τ σ}
    (h : (runner.checkPhase setup.files request.critical setup.phaseToken setup.budget entered).on checking =
      (.ok course, finished)) :
    ∃ batches checked, (runner.checkAll request setup entered).on checking = (.ok batches, checked) ∧
      (∃ omitted, (∀ file ∈ batches.omitted, file ∈ omitted) ∧
        course = { entered.takingAll batches.results.flatten with
          timedOut := entered.timedOut || batches.timedOut.length ≠ 0
          omitted := omitted }) ∧
      ∃ events, finished = checked.noted events ∧ ∀ event ∈ events, event.Spoken := by
  unfold checkPhase at h
  unfold checkAll
  by_cases hnone : setup.files.isEmpty = true
  · rw [if_pos hnone] at h ⊢
    cases h
    refine ⟨.empty, checking, rfl, ⟨entered.omitted, by simp [BatchReport.empty], ?_⟩,
      [], (World.noted_nil checking).symm, by simp⟩
    simp [BatchReport.empty, Course.takingAll]
  · rw [if_neg hnone] at h ⊢
    obtain ⟨batches, checked, hprocess, h⟩ := Act.on_bind_ok.mp h
    obtain ⟨events, hrecord, hspoken⟩ := runner.on_recordBatches entered batches.results checked
    obtain ⟨more, hwarn, hmore⟩ := World.on_warnIf runner.config.output (batches.timedOut.length ≠ 0)
      s!"{batches.timedOut.length} check batch(es) timed out" (checked.noted events)
    rw [Act.on_bind_of_ok hrecord, Act.on_bind_of_ok hwarn] at h
    obtain ⟨hcourse, hworld⟩ := Prod.mk.inj h
    have hrest := Course.takingAll_rest entered batches.results.flatten
    refine ⟨batches, checked, hprocess, ⟨firsts (entered.omitted ++ batches.omitted), ?_, ?_⟩,
      events ++ more, ?_, ?_⟩
    · intro file hfile
      rw [mem_firsts]
      exact List.mem_append_right _ hfile
    · rw [← Except.ok.inj hcourse, hrest.1, hrest.2.2.2]
    · rw [← hworld, World.noted_noted]
    · intro event hevent
      rcases List.mem_append.mp hevent with he | he
      · exact hspoken event he
      · exact hmore event he

/-- The work on a check batch is that of its jobs, after a remark and a reading. -/
theorem checkBatch_ok {runner : Runner τ σ} {course : Course τ} {batch : Batch τ} {own : Nat}
    {outcomes : List (Outcome τ)} {opened done : World τ σ}
    (h : (runner.checkBatch course batch own).on opened = (.ok outcomes, done)) :
    ∃ message workers seen, (opened.noted [.debug message]).Sampled seen ∧
      Change.on (tendJobs runner.granted own workers false (runner.checkJobs course batch.files)) seen =
        (outcomes, done) := by
  unfold checkBatch at h
  simp only at h
  rw [Act.on_bind_of_ok (World.on_remark _ opened)] at h
  obtain ⟨workers, seen, hworkers, h⟩ := Act.on_bind_ok.mp h
  have hsampled := World.sampled_workers runner (opened.noted
    [.debug s!"check batch {batch.index}: files={batch.files.length} engines={(runner.checkJobs course batch.files).length}"])
  rw [hworkers] at hsampled
  exact ⟨_, workers, seen, hsampled, runJobs_ok h⟩

/-- After the phases of a run the readings end, if that is waited for, and the timers end. -/
theorem on_work (runner : Runner τ σ) (request : Request τ) (setup : Setup τ) (world : World τ σ) :
    ∃ ended, (((runner.phases setup.files request.critical setup.phaseToken setup.budget).ensuring
        (World.stopMonitor runner.longestWait)).on world).2 = ended ∧
      ((runner.phases setup.files request.critical setup.phaseToken setup.budget).on world).2.Sampled ended ∧
      ((runner.work request setup).on world).2 = { ended with clock := ended.clock.close } := by
  refine ⟨_, rfl, ?_, rfl⟩
  rw [Act.on_ensuring]
  exact World.sampled_stopMonitor _ _

/-- The phases of a run that have come to an end. -/
theorem work_ok {setup : Setup τ} {course : Course τ} {world done : World τ σ}
    (h : (runner.work request setup).on world = (.ok course, done)) :
    ∃ finished, (runner.phases setup.files request.critical setup.phaseToken setup.budget).on world = (.ok course, finished) ∧
      done.clock = finished.clock.close ∧ done.disk = finished.disk ∧ done.journal = finished.journal := by
  unfold work at h
  rw [Act.on_thenAlways] at h
  obtain ⟨hcourse, rfl⟩ := Prod.mk.inj h
  obtain ⟨finished, hphases, hstop⟩ := Act.on_ensuring_ok.mp (Prod.ext hcourse rfl)
  have hended := World.sampled_stopMonitor runner.longestWait finished
  rw [hstop] at hended
  refine ⟨finished, hphases, ?_, hended.disk, hended.journal⟩
  change Clockwork.close (_ : World τ σ).clock = _
  rw [hended.clock]

/-- How a run is set up: its files are normalised, and after a remark its tokens and its monitor are made and
its engines are prepared. -/
theorem setUp_steps {setup : Setup τ} {world ready : World τ σ}
    (h : (runner.setUp request).on world = (.ok setup, ready)) :
    let budget := request.timeout.getD runner.config.execution.timeout
    let run := world.clock.runToken (some budget) request.token
    let phase := run.2.phaseToken run.1 (budget * runner.config.execution.reserveRatio)
    world.disk.normalizeAll request.files = .ok setup.files ∧ setup.phaseToken = phase.1 ∧
      ∃ start message monitor, ready = (Change.on (runner.prepare request.fingerprints) start).2 ∧
        start.disk = world.disk ∧ start.clock = phase.2 ∧ start.journal = world.journal ++ [.debug message] ∧
        start.monitor = some monitor ∧ Monitor.make runner.config.resources = .ok monitor := by
  intro budget run phase
  unfold setUp at h
  split at h
  · cases h
  · simp only at h
    rw [Act.on_bind_of_ok (Act.on_get world)] at h
    obtain ⟨time, middle, htime, h⟩ := Act.on_bind_ok.mp h
    rw [Act.on_ofExcept] at htime
    obtain ⟨-, rfl⟩ := Prod.mk.inj htime
    obtain ⟨files, middle, hfiles, h⟩ := Act.on_bind_ok.mp h
    rw [Act.on_ofExcept] at hfiles
    obtain ⟨hnormal, rfl⟩ := Prod.mk.inj hfiles
    rw [Act.on_bind_of_ok (World.on_remark _ _), Act.on_bind_of_ok (Act.on_onClock _ _),
      Act.on_bind_of_ok (Act.on_onClock _ _)] at h
    obtain ⟨monitor, bound, hmonitor, h⟩ := Act.on_bind_ok.mp h
    rw [Act.on_ofExcept] at hmonitor
    obtain ⟨hmade, rfl⟩ := Prod.mk.inj hmonitor
    rw [Act.on_bind_of_ok (Act.on_modify _ _), Act.on_bind_of_ok (Act.on_lift _ _)] at h
    obtain ⟨hsetup, hready⟩ := Prod.mk.inj h
    obtain rfl := Except.ok.inj hsetup
    exact ⟨hnormal, rfl, _, _, monitor, hready.symm, rfl, rfl, rfl, rfl, hmade⟩

/-- How a run cannot be set up: there are no engines, the time of day cannot be told, a file does not normalise, or the
monitor cannot be made. -/
theorem setUp_error {fault : Fault} {world after : World τ σ}
    (h : (runner.setUp request).on world = (.error fault, after)) :
    runner.engines = [] ∧ fault = .config "no engines configured" ∨
      milliseconds after.moment = .error fault ∨ world.disk.normalizeAll request.files = .error fault ∨
      Monitor.make runner.config.resources = .error fault := by
  unfold setUp at h
  split at h
  · rename_i hnone
    cases h
    exact Or.inl ⟨List.isEmpty_iff.mp hnone, rfl⟩
  · simp only at h
    rw [Act.on_bind_of_ok (Act.on_get world)] at h
    rcases Act.on_bind_error h with htime | ⟨time, middle, htime, h⟩
    · rw [Act.on_ofExcept] at htime
      obtain ⟨hfault, rfl⟩ := Prod.mk.inj htime
      exact Or.inr (Or.inl hfault)
    · rw [Act.on_ofExcept] at htime
      obtain ⟨-, rfl⟩ := Prod.mk.inj htime
      rcases Act.on_bind_error h with hfiles | ⟨files, middle, hfiles, h⟩
      · rw [Act.on_ofExcept] at hfiles
        exact Or.inr (Or.inr (Or.inl (Prod.mk.inj hfiles).1))
      · rw [Act.on_ofExcept] at hfiles
        obtain ⟨-, rfl⟩ := Prod.mk.inj hfiles
        rw [Act.on_bind_of_ok (World.on_remark _ _), Act.on_bind_of_ok (Act.on_onClock _ _),
          Act.on_bind_of_ok (Act.on_onClock _ _)] at h
        rcases Act.on_bind_error h with hmonitor | ⟨monitor, bound, hmonitor, h⟩
        · rw [Act.on_ofExcept] at hmonitor
          exact Or.inr (Or.inr (Or.inr (Prod.mk.inj hmonitor).1))
        · rw [Act.on_bind_of_ok (Act.on_modify _ _), Act.on_bind_of_ok (Act.on_lift _ _)] at h
          cases h

/-- What a report says before anything is staged: it is about the files as they normalise then. -/
theorem report_ok {files : List String} {started : τ} {id : String} {cancelled : Bool} {course : Course τ}
    {world after : World τ σ} {report : Report τ}
    (h : (runner.report request files started id cancelled course).on world = (.ok report, after)) :
    after = world ∧ ∃ scope base metrics, world.disk.normalizeAll files = .ok scope ∧
      base = reportOn (some scope) (mergeResults course.usable)
        ⟨⟨world.clock.now - started, some id⟩, some files, none, runner.config.execution.failOn⟩ ∧
      report = { base with
        metrics := metrics
        unavailable := course.unavailable.keys
        failed := course.failed
        omitted := course.omitted
        cancelled := cancelled
        success := base.success && course.failed.isEmpty && !course.timedOut && !cancelled } := by
  unfold Runner.report at h
  rw [Act.on_bind_of_ok (Act.on_get _)] at h
  obtain ⟨base, middle, hbase, h⟩ := Act.on_bind_ok.mp h
  rw [Act.on_ofExcept] at hbase
  obtain ⟨hbase, rfl⟩ := Prod.mk.inj hbase
  unfold aggregate at hbase
  simp only [Disk.scope] at hbase
  cases hscope : world.disk.normalizeAll files with
  | error fault =>
      rw [hscope] at hbase
      cases hbase
  | ok scope =>
      rw [hscope] at hbase
      cases hbase
      cases h
      exact ⟨rfl, scope, _, _, rfl, rfl, rfl⟩

/-- A report fails when its files do not normalise. -/
theorem report_error {files : List String} {started : τ} {id : String} {cancelled : Bool} {course : Course τ}
    {world after : World τ σ} {fault : Fault}
    (h : (runner.report request files started id cancelled course).on world = (.error fault, after)) :
    after = world ∧ world.disk.normalizeAll files = .error fault := by
  unfold Runner.report at h
  rw [Act.on_bind_of_ok (Act.on_get _), Act.on_bind, Act.on_ofExcept] at h
  unfold aggregate at h
  simp only [Disk.scope] at h
  cases hscope : world.disk.normalizeAll files with
  | error cause =>
      rw [hscope] at h
      cases h
      exact ⟨rfl, rfl⟩
  | ok scope =>
      rw [hscope] at h
      cases h

/-- How a run concludes: it reports, and then stages what fixing changed. -/
theorem conclude_steps {setup : Setup τ} {course : Course τ} {done after : World τ σ} {report : Report τ}
    {cancelled : Bool}
    (hcancelled : (done.clock.isCancelled setup.runToken || done.clock.isCancelled setup.phaseToken) = cancelled)
    (h : (runner.conclude request setup course).on done = (.ok report, after)) :
    ∃ tracker reason events first next last final duration,
      (course.wrapUp setup.id cancelled reason).on done = (.ok { course with tracker := tracker }, done.noted events) ∧
      (∀ event ∈ events, event.Spoken ∨ event = .entered .aggregate) ∧
      (runner.report request setup.files setup.started setup.id cancelled { course with tracker := tracker }).on
        (done.noted events) = (.ok first, done.noted events) ∧
      (runner.stageFixed request cancelled { course with tracker := tracker } first).on (done.noted events) =
        (.ok (next, last), after) ∧
      next.finish cancelled = .ok final ∧ report = { last with duration := duration, phases := final.names } := by
  subst hcancelled
  unfold conclude at h
  rw [Act.on_bind_of_ok (Act.on_askClock _ done), Act.on_bind_of_ok (Act.on_askClock _ done)] at h
  obtain ⟨wrapped, middle, hwrap, h⟩ := Act.on_bind_ok.mp h
  obtain ⟨tracker, events, rfl, rfl, hevents⟩ := Course.wrapUp_ok hwrap
  obtain ⟨first, middle, hreport, h⟩ := Act.on_bind_ok.mp h
  obtain ⟨⟨next, last⟩, middle', hstage, h⟩ := Act.on_bind_ok.mp h
  obtain ⟨final, middle'', hfinish, h⟩ := Act.on_bind_ok.mp h
  rw [Act.on_ofExcept] at hfinish
  obtain ⟨hfinal, rfl⟩ := Prod.mk.inj hfinish
  rw [Act.on_bind_of_ok (Act.on_now _)] at h
  cases h
  obtain ⟨rfl, -⟩ := report_ok hreport
  exact ⟨tracker, _, events, first, next, last, final, _, hwrap, hevents, hreport, hstage, hfinal, rfl⟩

/-- What a report says, after the phases of a run have ended. -/
theorem conclude_ok {setup : Setup τ} {course : Course τ} {done after : World τ σ} {report : Report τ}
    (h : (runner.conclude request setup course).on done = (.ok report, after)) :
    ∃ scope, done.disk.normalizeAll setup.files = .ok scope ∧
      report.issues = finalIssues (mergeResults course.usable) (some scope) ∧
      report.failed = course.failed ∧ report.unavailable = course.unavailable.keys ∧ report.omitted = course.omitted ∧
      report.cancelled = (done.clock.isCancelled setup.runToken || done.clock.isCancelled setup.phaseToken) ∧
      report.success =
        (!(report.issues.any fun issue => issue.severity.atLeast runner.config.execution.failOn) &&
          !((mergeResults course.usable).any (·.cancelled)) && course.failed.isEmpty && !course.timedOut &&
          !report.cancelled) := by
  obtain ⟨tracker, -, events, first, next, last, final, duration, -, -, hreport, hstage, -, rfl⟩ := conclude_steps rfl h
  obtain ⟨staged, warnings, rfl⟩ := stageFixed_ok hstage
  obtain ⟨-, scope, base, metrics, hscope, rfl, rfl⟩ := report_ok hreport
  exact ⟨scope, hscope, rfl, rfl, rfl, rfl, rfl, rfl⟩

/-- A run up to the end of its phases. -/
def launch (runner : Runner τ σ) (request : Request τ) : Act τ σ (Setup τ × Course τ) := do
  let setup ← runner.setUp request
  let course ← runner.work request setup
  return (setup, course)

/-- A run concludes after its phases. -/
theorem run_eq (runner : Runner τ σ) (request : Request τ) :
    runner.run request =
      runner.launch request >>= fun launched => runner.conclude request launched.1 launched.2 := by
  unfold run launch
  simp only [bind_assoc, pure_bind]

/-- Every run that comes to a report has a passage, and concludes after it, when timers and readings have
ended. -/
theorem exists_concluded {world after : World τ σ} {report : Report τ}
    (h : (runner.run request).on world = (.ok report, after)) :
    ∃ (passage : Passage runner request world report) (done : World τ σ),
      (runner.launch request).on world = (.ok (passage.setup, passage.course), done) ∧
      done.clock = passage.finished.clock.close ∧ done.disk = passage.finished.disk ∧
      (runner.conclude request passage.setup passage.course).on done = (.ok report, after) := by
  rw [run_eq] at h
  obtain ⟨⟨setup, course⟩, done, hlaunch, hconclude⟩ := Act.on_bind_ok.mp h
  obtain ⟨setup', ready, hsetup, hlaunched⟩ := Act.on_bind_ok.mp hlaunch
  obtain ⟨course', done', hwork, hlaunched⟩ := Act.on_bind_ok.mp hlaunched
  cases hlaunched
  obtain ⟨finished, hphases, hclock, hdisk, -⟩ := work_ok hwork
  obtain ⟨⟨⟩, watching, hwatch, hphases⟩ := Act.on_bind_ok.mp hphases
  obtain ⟨fixed, rested, hfix, hphases⟩ := Act.on_bind_ok.mp hphases
  obtain ⟨entered, checking, henter, hphases⟩ := Act.on_bind_ok.mp hphases
  obtain ⟨batches, checked, hchecks, hrecorded, hsaid⟩ := checkPhase_ok hphases
  obtain ⟨scope, hscope, hissues, hfailed, hunavailable, homitted, hcancelled, hsuccess⟩ := conclude_ok hconclude
  rw [hdisk] at hscope
  rw [hclock] at hcancelled
  exact ⟨⟨setup, ready, watching, fixed, rested, entered, checking, batches, checked, course, finished, scope, hsetup,
    hwatch, hfix, henter, hchecks, hrecorded, hsaid, hscope, hissues, hfailed, hunavailable, homitted, hcancelled,
    hsuccess⟩, _, hlaunch, hclock, hdisk, hconclude⟩

/-- Every run that comes to a report has a passage. -/
theorem passage_of_ok {world after : World τ σ} {report : Report τ}
    (h : (runner.run request).on world = (.ok report, after)) : Nonempty (Passage runner request world report) := by
  obtain ⟨passage, -⟩ := exists_concluded h
  exact ⟨passage⟩

end Runner

/-! ### Passages are determined -/

variable [Quantity τ]

/-- A run up to the end of its check batches. -/
def Runner.untilChecked (runner : Runner τ σ) (request : Request τ) :
    Act τ σ (BatchReport (List (Outcome τ))) := do
  let setup ← runner.setUp request
  World.startMonitor 0
  let fixed ← runner.fixFirst setup.files request.critical setup.phaseToken
  let entered ← fixed.enter .check
  runner.checkAll request setup entered

/-- A run has one passage only: its check batches are what the run comes to up to there. -/
theorem Passage.on_untilChecked {runner : Runner τ σ} {request : Request τ} {world : World τ σ} {report : Report τ}
    (passage : Passage runner request world report) :
    (runner.untilChecked request).on world = (.ok passage.batches, passage.checked) := by
  unfold Runner.untilChecked
  rw [Act.on_bind_of_ok passage.setUp, Act.on_bind_of_ok passage.watches, Act.on_bind_of_ok passage.fixes,
    Act.on_bind_of_ok passage.enters, passage.checks]

end FixFirst
