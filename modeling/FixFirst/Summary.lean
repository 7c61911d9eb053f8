import FixFirst.Console
import FixFirst.Quantity
import FixFirst.Report
import FixFirst.Table

/-!
# The summary of a report

What a user is shown of a report: a table of the issues, lines on what was left out or could not
be staged, and a line on how the run ended.  Files are named as seen from the root of the project.

## Main definitions

* `Disk.displayed` — the name of a file, as seen from a root.
* `Report.table` — the issues.
* `Report.remarks` — the lines after the table.
* `Report.summary` — all that is shown.
-/

namespace FixFirst

/-- The name of a file, as seen from a root that the file is below. -/
def Disk.displayed (disk : Disk) (root : Path) (file : String) : Except Fault String :=
  match disk.resolve root with
  | .ok place => .ok (((place.below? (Path.ofText file)).map Path.text).getD file)
  | .error (.value _) => .ok file
  | .error fault => .error fault

/-- The style of the issues of a severity. -/
def Severity.style : Severity → String
  | error => "red"
  | warning => "yellow"
  | info => "cyan"

/-- How a summary looks. -/
structure Look where
  emoji : Bool
  color : Bool
  deriving DecidableEq, Repr

namespace Look

/-- A style, if colours are wanted. -/
def style (look : Look) (name : String) : Option String := if look.color then some name else none

/-- What is wished for the colours of a line: none, or whatever the console can do. -/
def wish (look : Look) : Option Bool := if look.color then none else some false

end Look

/-- What is shown to the user. -/
structure Shown where
  /-- What is written to the standard output, tables apart. -/
  output : String
  /-- What is written to the standard error. -/
  errors : String
  tables : List Table
  deriving DecidableEq, Repr

namespace Shown

/-- Lines on the standard error. -/
def ofErrors (text : String) : Shown := ⟨"", text, []⟩

/-- One thing shown after another. -/
protected def append (first second : Shown) : Shown :=
  ⟨first.output ++ second.output, first.errors ++ second.errors, first.tables ++ second.tables⟩

instance : Append Shown := ⟨Shown.append⟩

end Shown

namespace Issue

/-- Who reports an issue: its tool, or the kind of engine where no tool is named. -/
def reporter (issue : Issue) : String :=
  match issue.tool with
  | some name => if name.isEmpty then issue.kind.name else name
  | none => issue.kind.name

/-- The row of an issue. -/
def row (disk : Disk) (root : Path) (look : Look) (issue : Issue) : Except Fault Row := do
  let name ← disk.displayed root issue.file
  let line ← writtenInt issue.line
  let column ← writtenInt issue.column
  let cells := [issue.severity.name, s!"{name}:{line}:{column}", issue.reporter, issue.rule.getD "", issue.message]
  return ⟨cells, look.style issue.severity.style⟩

end Issue

namespace Report

variable {τ : Type}

/-- The table of the issues. -/
def table (disk : Disk) (root : Path) (look : Look) (report : Report τ) : Except Fault Table := do
  let rows ← report.issues.mapM (Issue.row disk root look)
  return ⟨look.style "bold",
    [⟨"Severity", none⟩, ⟨"Location", look.style "cyan"⟩, ⟨"Engine", look.style "magenta"⟩, ⟨"Rule", none⟩,
      ⟨"Message", none⟩],
    rows⟩

variable [Quantity τ]

/-- What a run amounts to, in one line. -/
def totals (report : Report τ) : Except Fault String := do
  let id := report.correlationId.getD "None"
  let total ← writtenInt report.statistics.total
  let fixed ← writtenInt report.fixedCount
  return s!"{total} issue(s), {fixed} fix(es) applied in {Quantity.twoPlaces report.duration}s [{id}]"

/-- How a run ended. -/
def verdict (report : Report τ) : Except Fault (Tone × String) := do
  let totals ← report.totals
  return if report.success then (.ok, "Quality checks passed: " ++ totals)
    else if report.cancelled then (.fail, "Quality checks cancelled: " ++ totals)
    else (.fail, "Quality checks failed: " ++ totals)

/-- The lines after the table. -/
def remarks (disk : Disk) (root : Path) (report : Report τ) : Except Fault (List (Tone × String)) := do
  let unavailable := report.unavailable.map fun name =>
    (Tone.warn, s!"{name} was not available; its checks were skipped")
  let omitted := if report.omitted.isEmpty then []
    else [(Tone.warn, s!"{report.omitted.length} file(s) were not analysed")]
  let unstaged ← report.stagingWarnings.mapM fun warning => do
    let name ← disk.displayed root warning.file
    return (Tone.warn, s!"could not stage {name}: {warning.message}")
  let staged := if report.staged.isEmpty then []
    else [(Tone.info, s!"Staged {report.staged.length} fixed file(s)")]
  return unavailable ++ omitted ++ unstaged ++ staged ++ [← report.verdict]

/-- All that is shown of a report. -/
def summary (disk : Disk) (console : Console) (root : Path) (look : Look) (report : Report τ) :
    Except Fault Shown := do
  let issues ← if report.issues.isEmpty then .ok ⟨"", "", []⟩
    else do
      let table ← report.table disk root look
      pure ⟨"", ← console.heading look.color s!"Issues ({report.issues.length})", [table]⟩
  let remarks ← report.remarks disk root
  let lines := remarks.map fun (tone, message) => console.say tone look.emoji look.wish message
  return issues ++ Shown.ofErrors (String.join lines)

end Report

end FixFirst
