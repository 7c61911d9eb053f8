import FixFirst.Aggregate
import FixFirst.Course
import FixFirst.Staging

/-!
# Runs

A run fixes first and checks afterwards.  All engines that can fix are called on the files at
once; then the files are checked in batches, by every engine that is available and did not fail
before.  An engine that reports its fixes precisely is asked again only about files that it did
not get to fix or that another one changed.  The results are aggregated, and the fixed files are
staged.  A missing tool, a failing engine and cancellation leave a run with a report.

## Main definitions

* `Runner` — the engines and settings that a run is made with; `Request` — what it is asked.
* `Runner.fixPhase`, `Runner.checkPhase`, `Runner.report`, `Runner.stageFixed` — its parts.
* `Runner.setUp`, `Runner.work`, `Runner.conclude` — what comes before the phases, the phases, and
  what follows them.
* `Runner.run` — the whole run.
-/

namespace FixFirst

/-- What runs are made with. -/
structure Runner (τ σ : Type) where
  engines : List (Engine τ σ)
  config : Config τ
  shell : Shell τ σ
  /-- In what order jobs side by side come back. -/
  schedule : List (Job τ σ) → World τ σ → Schedule
  /-- How long the system waits at most, if there is a limit. -/
  longestWait : Option τ

/-- What a run is asked to do. -/
structure Request (τ : Type) where
  files : List String
  /-- The root of the repository; otherwise the working directory. -/
  root : Option Path
  /-- The fingerprint of the configuration of each engine. -/
  fingerprints : Keyed String
  /-- The budget; otherwise the configured one. -/
  timeout : Option τ
  /-- The files that must not be left out; otherwise all. -/
  critical : Option (List String)
  /-- A token from outside. -/
  token : Option Nat
  /-- How the run is labelled in its metrics; otherwise as configured. -/
  warmRun : Option Bool
  deriving Repr

/-- What a run goes by once it is prepared. -/
structure Setup (τ : Type) where
  /-- When the run started. -/
  started : τ
  /-- The identifier that correlates the traces of the run. -/
  id : String
  files : List String
  budget : τ
  /-- The token of the whole run. -/
  runToken : Nat
  /-- The token of its phases, which ends earlier. -/
  phaseToken : Nat
  deriving Repr

/-- What is said of a fixed file that a cancelled run leaves unstaged. -/
def leftUnstaged : String := "run was cancelled; file left unstaged"

namespace Runner

variable {τ σ : Type} [Quantity τ]

/-- A runner, if no two engines have the same name. -/
def make (engines : List (Engine τ σ)) (config : Config τ) (shell : Shell τ σ)
    (schedule : List (Job τ σ) → World τ σ → Schedule) (longestWait : Option τ) : Except Fault (Runner τ σ) :=
  let names := engines.map (·.name)
  let repeated := (firsts (names.filter fun name => 1 < names.count name)).mergeSort fun a b => a ≤ b
  if repeated.isEmpty then .ok ⟨engines, config, shell, schedule, longestWait⟩
  else .error (.config ("duplicate engine names: " ++ ", ".intercalate repeated))

/-- Drops what the engines remember. -/
def clearSessions (runner : Runner τ σ) : Change τ σ Unit :=
  runner.engines.forM fun engine => do
    World.log (.reset engine.name)
    engine.reset

/-- Binds the engines to their fingerprints. -/
def prepare (runner : Runner τ σ) (fingerprints : Keyed String) : Change τ σ Unit :=
  runner.engines.forM fun engine => do
    let fingerprint := (fingerprints.get? engine.name).getD ""
    World.log (.prepared engine.name fingerprint)
    engine.prepare fingerprint

/-- The engines whose tools are not missing. -/
def available (runner : Runner τ σ) (course : Course τ) : List (Engine τ σ) :=
  runner.engines.filter fun engine => !course.unavailable.holds engine.name

/-- Whether the system waits out the time of grace. -/
def grantsGrace (runner : Runner τ σ) : Bool := World.grants runner.longestWait runner.config.execution.gracePeriod

/-- How many engines may run at once, by the latest pressure. -/
def workers (runner : Runner τ σ) : Act τ σ Nat := do
  let jobs := runner.config.execution.jobs
  return min jobs ((← World.level).concurrency jobs).toNat

/-- The fix phase: every engine that can fix is called on all admitted files. -/
def fixPhase (runner : Runner τ σ) (files : List String) (critical : Option (List String)) (token : Nat)
    (course : Course τ) : Act τ σ (Course τ) := do
  let fixers := (runner.available course).filter (·.canFix)
  if fixers.isEmpty || files.isEmpty || (← World.isCancelled token) then return course
  let admission ← runner.config.batching.admission files critical token
  let course := { course with deferred := admission.deferred }
  let batch := admission.batch
  if batch.files.isEmpty then return course
  let serial := runner.config.execution.serialFix
  let jobs := fixers.map fun engine => Job.mk engine .fix batch.files
  let (outcomes, overran) ← World.budgeted token batch.timeout fun own => do
    let workers ← runner.workers
    runJobs runner.grantsGrace runner.schedule own workers serial jobs
  runner.config.output.warnIf overran s!"fix phase exceeded its {Quantity.twoPlaces batch.timeout}s budget"
  let course ← { course with timedOut := course.timedOut || overran }.record runner.config.output outcomes
  course.markRechecks serial [] ((fixers.map (·.precise)).zip outcomes)

/-- The files of a batch that an engine is asked about.  After a fix phase, an engine that fixed
and reported precisely is asked only about the files that were held back or changed. -/
def filesFor (runner : Runner τ σ) (course : Course τ) (engine : Engine τ σ) (files : List String) : List String :=
  if runner.config.execution.fix && engine.canFix && engine.precise then
    let again := (course.recheck.get? engine.name).getD []
    files.filter fun file => course.deferred.contains file || again.contains file
  else files

/-- The jobs of a check batch. -/
def checkJobs (runner : Runner τ σ) (course : Course τ) (files : List String) : List (Job τ σ) :=
  let engines := (runner.available course).filter fun engine => !course.failed.holds engine.name
  (engines.map fun engine => Job.mk engine .check (runner.filesFor course engine files)).filter fun job =>
    !job.files.isEmpty

/-- Checks a batch. -/
def checkBatch (runner : Runner τ σ) (course : Course τ) (batch : Batch τ) (token : Nat) :
    Act τ σ (List (Outcome τ)) := do
  let jobs := runner.checkJobs course batch.files
  remark s!"check batch {batch.index}: files={batch.files.length} engines={jobs.length}"
  let workers ← runner.workers
  runJobs runner.grantsGrace runner.schedule token workers false jobs

/-- Takes note of the outcomes of batches, in their order. -/
def recordBatches (runner : Runner τ σ) : Course τ → List (List (Outcome τ)) → Act τ σ (Course τ)
  | course, [] => return course
  | course, outcomes :: rest => do
    runner.recordBatches (← course.record runner.config.output outcomes) rest

/-- The check phase: all files in batches. -/
def checkPhase (runner : Runner τ σ) (files : List String) (critical : Option (List String)) (token : Nat)
    (budget : τ) (course : Course τ) : Act τ σ (Course τ) := do
  if files.isEmpty then return course
  let report ← runner.config.batching.process files (runner.checkBatch course) token critical (some (.measured budget))
  let course ← runner.recordBatches course report.results
  let overran := report.timedOut.length
  runner.config.output.warnIf (overran ≠ 0) s!"{overran} check batch(es) timed out"
  return { course with
    timedOut := course.timedOut || overran ≠ 0
    omitted := firsts (course.omitted ++ report.omitted) }

/-- The report of a run about files, before staging. -/
def report (runner : Runner τ σ) (request : Request τ) (files : List String) (started : τ) (id : String)
    (cancelled : Bool) (course : Course τ) : Act τ σ (Report τ) := do
  let execution := runner.config.execution
  let world ← get
  let duration := world.clock.now - started
  let merged := mergeResults course.usable
  let base ← Act.ofExcept (aggregate world.disk merged ⟨⟨duration, some id⟩, some files, none, execution.failOn⟩)
  let warm := request.warmRun.getD execution.warmRun
  return { base with
    metrics := if execution.trackMetrics then
        some (buildMetrics merged world.moment ⟨duration, base.issues.length⟩ warm (runner.engines.map (·.name)))
      else none
    unavailable := course.unavailable.keys
    failed := course.failed
    omitted := course.omitted
    cancelled := cancelled
    success := base.success && course.failed.isEmpty && !course.timedOut && !cancelled }

/-- Stages what fixing changed; a cancelled run leaves it unstaged. -/
def stageFixed (runner : Runner τ σ) (request : Request τ) (cancelled : Bool) (course : Course τ)
    (report : Report τ) : Act τ σ (Course τ × Report τ) := do
  let execution := runner.config.execution
  if !(execution.fix && execution.autoStage) then return (course, report)
  let disk := (← get).disk
  let scope ← Act.ofExcept (disk.normalizeAll request.files)
  let files := course.fixedFiles scope
  if files.isEmpty then return (course, report)
  if cancelled then
    return (course, { report with stagingWarnings := files.map fun file => ⟨file, leftUnstaged⟩ })
  let course ← course.enter .stage
  let staging ← stage runner.shell (request.root.getD (Path.rooted disk.cwd)) files
  for warning in staging.warnings do
    runner.config.output.warn s!"could not stage {warning.file}: {warning.message}"
  return (course, { report with staged := staging.staged, stagingWarnings := staging.warnings })

/-- The fix phase of a run, if fixing is wanted. -/
def fixFirst (runner : Runner τ σ) (files : List String) (critical : Option (List String)) (token : Nat) :
    Act τ σ (Course τ) := do
  if runner.config.execution.fix then
    let course ← Course.initial.enter .fix
    runner.fixPhase files critical token course
  else return .initial

/-- The fix and check phases of a run. -/
def phases (runner : Runner τ σ) (files : List String) (critical : Option (List String)) (token : Nat) (budget : τ) :
    Act τ σ (Course τ) := do
  World.startMonitor 0
  let fixed ← runner.fixFirst files critical token
  let course ← fixed.enter .check
  runner.checkPhase files critical token budget course

/-- Prepares a run: its files, its tokens, its monitor and its engines. -/
def setUp (runner : Runner τ σ) (request : Request τ) : Act τ σ (Setup τ) := do
  if runner.engines.isEmpty then throw (.config "no engines configured")
  let execution := runner.config.execution
  let world ← get
  let id := correlationId (← Act.ofExcept (milliseconds world.moment)) world.random
  let files ← Act.ofExcept (world.disk.normalizeAll request.files)
  let budget := request.timeout.getD execution.timeout
  remark s!"run {id}: files={files.length} engines={runner.engines.length} timeout={Quantity.twoPlaces budget}s"
  let runToken ← World.onClock (·.runToken (some budget) request.token)
  let phaseToken ← World.onClock (·.phaseToken runToken (budget * execution.reserveRatio))
  let monitor ← Act.ofExcept (Monitor.make runner.config.resources)
  modify fun world => { world with monitor := some monitor }
  runner.prepare request.fingerprints
  return ⟨world.clock.now, id, files, budget, runToken, phaseToken⟩

/-- Goes through the phases of a run; whatever comes of it, readings end, unless they are not waited
for, and timers end. -/
def work (runner : Runner τ σ) (request : Request τ) (setup : Setup τ) : Act τ σ (Course τ) :=
  ((runner.phases setup.files request.critical setup.phaseToken setup.budget).ensuring
    (World.stopMonitor runner.longestWait)).thenAlways (World.moveClock Clockwork.close)

/-- Reports on a run that has been through its phases, and stages what fixing changed. -/
def conclude (runner : Runner τ σ) (request : Request τ) (setup : Setup τ) (course : Course τ) :
    Act τ σ (Report τ) := do
  let reason ← World.askClock fun clock =>
    ((clock.forest.reason? setup.runToken).filter fun reason => !reason.isEmpty).or
      (clock.forest.reason? setup.phaseToken)
  let cancelled ← World.askClock fun clock =>
    clock.isCancelled setup.runToken || clock.isCancelled setup.phaseToken
  let course ← course.wrapUp setup.id cancelled reason
  let report ← runner.report request setup.files setup.started setup.id cancelled course
  let (course, report) ← runner.stageFixed request cancelled course report
  let tracker ← Act.ofExcept (course.finish cancelled)
  return { report with duration := (← World.now) - setup.started, phases := tracker.names }

/-- Fixes and checks files, and stages what fixing changed. -/
def run (runner : Runner τ σ) (request : Request τ) : Act τ σ (Report τ) := do
  let setup ← runner.setUp request
  let course ← runner.work request setup
  runner.conclude request setup course

end Runner

end FixFirst
