import FixFirst.Batch.Process
import FixFirst.Job

/-!
# The course of a run

What a run knows while it goes on: the phases it has been through, the results it keeps, the
engines that are missing or failed, and the files that have to be looked at again.

## Main definitions

* `Course.record` — takes note of outcomes.
* `Course.markRechecks` — finds the files whose fix reports a later fixer made worthless.
-/

namespace FixFirst

/-- What a run knows so far. -/
structure Course (τ : Type) where
  tracker : Tracker
  /-- The results that are kept. -/
  results : List (EngineResult τ)
  /-- The engines whose tools are missing, and what was said about it. -/
  unavailable : Keyed String
  /-- The engines that failed, and how. -/
  failed : Keyed String
  /-- The files that were left out. -/
  omitted : List String
  /-- The files that were held back from fixing. -/
  deferred : List String
  /-- For an engine, the files that were changed after it had fixed them. -/
  recheck : Keyed (List String)
  /-- Whether a batch overran its budget. -/
  timedOut : Bool
  deriving Repr

/-- The course of a run that has just started. -/
def Course.initial {τ : Type} : Course τ := ⟨.initial, [], [], [], [], [], [], false⟩

variable {τ σ : Type} {m : Type → Type} [Monad m] [MonadState (World τ σ) m]

/-- Remarks on the course of a run. -/
def remark (message : String) : m Unit := World.log (.debug message)

/-- Warns the user, unless that is not wanted. -/
def OutputConfig.warn (output : OutputConfig) (message : String) : m Unit :=
  if output.quiet then return else World.log (.warned message)

/-- Warns the user if there is a reason to. -/
def OutputConfig.warnIf (output : OutputConfig) (reason : Bool) (message : String) : m Unit :=
  if reason then output.warn message else return

namespace Course

/-- Takes note of an outcome. -/
def recordOne (output : OutputConfig) (course : Course τ) (outcome : Outcome τ) : m (Course τ) := do
  let name := outcome.engine
  match outcome.verdict with
  | .missing message =>
    if course.unavailable.holds name then return course
    output.warn s!"{name} unavailable, continuing without it: {message}"
    return { course with
      unavailable := course.unavailable.put name message
      tracker := course.tracker.degrade }
  | .failure message =>
    output.warn s!"{name} failed: {message}"
    return { course with failed := course.failed.put name message }
  | .abandoned =>
    remark s!"{name} abandoned after cancellation"
    return course
  | .result result =>
    if result.success || result.cancelled then return { course with results := course.results ++ [result] }
    let message := s!"{name} reported an unsuccessful {result.pass.name} run"
    output.warn message
    return { course with failed := course.failed.put name message }

/-- Takes note of outcomes, in their order. -/
def record (output : OutputConfig) : Course τ → List (Outcome τ) → m (Course τ)
  | course, [] => return course
  | course, outcome :: rest => do
    record output (← course.recordOne output outcome) rest

/-- The files that outcomes report as modified, each once. -/
def changedFiles (outcomes : List (Outcome τ)) : List String :=
  firsts (outcomes.flatMap fun outcome => (outcome.result?.map (·.modified)).getD [])

/-- Notes the files that were changed after an engine that reports precisely had fixed them. -/
def markOne (course : Course τ) (precise : Bool) (outcome : Outcome τ) (files : List String) : m (Course τ) := do
  if precise && outcome.result?.isSome && !files.isEmpty then
    remark s!"{outcome.engine}: {files.length} file(s) rewritten by a later fixer"
    return { course with recheck := course.recheck.put outcome.engine files }
  else return course

/-- An engine that reports precisely does so only about files that no other fixer changed after
it: in a serial run the ones that came later, else all others.  `earlier` are the outcomes
before the ones at hand, each of which comes with whether its engine reports precisely. -/
def markRechecks (serial : Bool) : Course τ → List (Outcome τ) → List (Bool × Outcome τ) → m (Course τ)
  | course, _, [] => return course
  | course, earlier, (precise, outcome) :: later => do
    let others := (if serial then [] else earlier) ++ later.map (·.2)
    let next ← course.markOne precise outcome (changedFiles others)
    markRechecks serial next (earlier ++ [outcome]) later

/-- Enters a phase, unless the run has ended. -/
def enter (course : Course τ) (phase : Phase) : Act τ σ (Course τ) := do
  if course.tracker.terminal then return course
  match course.tracker.advance? phase with
  | none => throw (.transition course.tracker.current phase)
  | some tracker =>
    remark s!"entering {phase.name} phase"
    World.log (.entered phase)
    return { course with tracker := tracker }

/-- The course of a run whose phases are over: after cancellation it ends, else aggregation is next. -/
def wrapUp (course : Course τ) (id : String) (cancelled : Bool) (reason : Option String) : Act τ σ (Course τ) := do
  if cancelled then
    let why := reason.getD "None"
    remark s!"run {id} cancelled: {why}"
    return { course with tracker := course.tracker.cancel }
  else course.enter .aggregate

/-- The tracker of a run at its end. -/
def finish (course : Course τ) (cancelled : Bool) : Except Fault Tracker :=
  if cancelled then .ok course.tracker
  else match course.tracker.advance? .done with
    | some tracker => .ok tracker
    | none => .error (.transition course.tracker.current .done)

/-- The results of engines that did not fail. -/
def usable (course : Course τ) : List (EngineResult τ) :=
  course.results.filter fun result => !course.failed.holds result.engine

/-- The files that fixing changed, of the ones in scope, each once. -/
def fixedFiles (course : Course τ) (scope : List String) : List String :=
  firsts ((course.usable.filter fun result => result.pass == .fix).flatMap fun result =>
    result.modified.filter scope.contains)

end Course

end FixFirst
