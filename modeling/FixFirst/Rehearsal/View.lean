import FixFirst.Batch.Process
import FixFirst.Monitor
import FixFirst.Outcome
import FixFirst.Rehearsal.Script
import FixFirst.Report
import FixFirst.Session
import FixFirst.Summary

/-!
# Views of a rehearsal

How what a rehearsal brings forth is written as JSON.  A fault shows its kind, and of its
wording only what the program itself decides.
-/

namespace FixFirst.Rehearsal

/-- A natural number. -/
def natJson (n : Nat) : Json := .int n

/-- A number that may be absent. -/
def numJson (value : Option Float) : Json := (value.map Json.num).getD .null

/-- A step to a part of a record. -/
def stepJson : FixFirst.Step → Json
  | .field name => .str name
  | .index position => .int position

/-- The members that show a fault. -/
def faultJson (fault : Fault) : List (String × Json) :=
  ("error", .str fault.kind) :: match fault with
    | .invalid _ problems =>
      [("errors", .arr (problems.map fun problem =>
        .arr [.arr (problem.place.map stepJson), .str problem.flaw.name]))]
    | .engineFailure _ _ status =>
      [("message", .str fault.message), ("returncode", (status.map Json.int).getD .null)]
    | .unsupported _ => [("message", .str fault.message)]
    | _ => if fault.ofDomain then [("message", .str fault.message)] else []

/-- The members that show how a step ended. -/
def stepResult : Except Fault Json → List (String × Json)
  | .ok value => [("result", value)]
  | .error fault => faultJson fault

/-- An issue. -/
def issueJson (issue : Issue) : Json := (Issue.schema (Disk.empty [] [])).write issue

/-- Issues. -/
def issuesJson (issues : List Issue) : Json := .arr (issues.map issueJson)

/-- The result of an engine. -/
def resultJson (result : EngineResult Float) : Json := (EngineResult.schema (Disk.empty [] [])).write result

/-- Warnings about files that were not staged. -/
def warningsJson (warnings : List StagingWarning) : Json := .arr (warnings.map StagingWarning.schema.write)

/-- A sample of the memory in use. -/
def sampleJson (sample : Sample Float) : Json :=
  .obj [("timestamp", .num sample.time), ("rss_bytes", .int sample.bytes),
    ("growth_rate", .num (roundSignificant 10 sample.growth)), ("level", .str sample.level.name)]

/-- A batch. -/
def batchJson (batch : Batch Float) : Json :=
  .obj [("index", natJson batch.index), ("files", .ofTexts batch.files), ("priority", .str batch.priority.name),
    ("timeout", .num batch.timeout)]

/-- What an engine remembers. -/
def sessionJson (session : Session) : Json :=
  .obj [("fingerprint", .str session.fingerprint), ("files", .ofTexts (session.files.mergeSort fun a b => a ≤ b)),
    ("directory", .str session.directory.text), ("reuse_count", natJson session.reused),
    ("entries", .obj (session.entries.mapValues fun entry =>
      .obj [("missing", .bool (entry.digest == Disk.missingDigest)), ("issues", natJson entry.issues.length)]))]

/-- What came of a job. -/
def outcomeJson (outcome : Outcome Float) : Json :=
  let (result, missing, failure, abandoned) : Json × Json × Json × Bool := match outcome.verdict with
    | .result result => (resultJson result, .null, .null, false)
    | .missing message => (.null, .str message, .null, false)
    | .failure message => (.null, .null, .str message, false)
    | .abandoned => (.null, .null, .null, true)
  .obj [("name", .str outcome.engine), ("phase", .str outcome.pass.name), ("result", result),
    ("missing", missing), ("failure", failure), ("abandoned", .bool abandoned)]

/-- What was shown to the user. -/
def shownJson (shown : Shown) : List (String × Json) :=
  [("stdout", .str shown.output), ("stderr", .str shown.errors), ("tables", .arr (shown.tables.map fun table =>
    .obj [("header_style", .ofOption table.headerStyle),
      ("columns", .arr (table.columns.map fun column => .arr [.str column.title, .ofOption column.style])),
      ("rows", .arr (table.rows.map fun row => .obj [("cells", .ofTexts row.cells), ("style", .ofOption row.style)]))]))]

end FixFirst.Rehearsal
