import FixFirst.Json.Printer
import FixFirst.Result

/-!
# The report of a run

A run ends in one report: the issues that are left, what they amount to, which engines and
files did not make it, and what was staged.  Its JSON document leaves out the fields that
hold nothing; it cannot be had if a whole number has too many digits to be written.
-/

namespace FixFirst

/-- The fault of writing a whole number with too many digits. -/
def unwritable : Fault :=
  .value (s!"Exceeds the limit ({Text.maxDigits} digits) for integer string conversion; " ++
    "use sys.set_int_max_str_digits() to increase the limit")

/-- The text of a whole number, unless it has too many digits. -/
def writtenInt (n : Int) : Except Fault String :=
  if Text.isWritable n then .ok (String.ofList (Text.intText n)) else .error unwritable

/-- What one engine took and found in a run. -/
structure EngineMetrics (τ : Type) where
  enabled : Bool
  duration : τ
  issueCount : Int
  fixedCount : Int
  deriving Repr

/-- The fields of the metrics of an engine. -/
def EngineMetrics.schema : Schema (EngineMetrics Float) :=
  .loose "EngineMetrics" ⟨true, 0, 0, 0⟩
    [.given "enabled" .boolean (·.enabled) (fun metrics value => { metrics with enabled := value }),
     .given "duration" .number (·.duration) (fun metrics value => { metrics with duration := value }),
     .given "issue_count" .integer (·.issueCount) (fun metrics value => { metrics with issueCount := value }),
     .given "fixed_count" .integer (·.fixedCount) (fun metrics value => { metrics with fixedCount := value })]

/-- What a run took and found. -/
structure Metrics (τ : Type) where
  timestamp : String
  runType : String
  duration : τ
  issueCount : Int
  engines : Keyed (EngineMetrics τ)
  deriving Repr

/-- The fields of the metrics of a run. -/
def Metrics.schema : Schema (Metrics Float) :=
  .loose "Metrics" ⟨"", "", 0, 0, []⟩
    [.needed "timestamp" .text (·.timestamp) (fun metrics value => { metrics with timestamp := value }),
     .needed "run_type" .text (·.runType) (fun metrics value => { metrics with runType := value }),
     .needed "duration" .number (·.duration) (fun metrics value => { metrics with duration := value }),
     .given "issue_count" .integer (·.issueCount) (fun metrics value => { metrics with issueCount := value }),
     .given "engines" (.map EngineMetrics.schema.codec) (·.engines)
       (fun metrics value => { metrics with engines := value })]

/-- How many issues there are, in all and by kind of engine, severity and file. -/
structure Statistics where
  total : Int
  byKind : Keyed Int
  bySeverity : Keyed Int
  byFile : Keyed Int
  deriving DecidableEq, Repr

/-- The statistics of no issues. -/
def Statistics.none : Statistics := ⟨0, [], [], []⟩

/-- The fields of statistics. -/
def Statistics.schema : Schema Statistics :=
  .loose "Statistics" .none
    [.given "total" .integer (·.total) (fun stats value => { stats with total := value }),
     .given "by_engine" (.map .integer) (·.byKind) (fun stats value => { stats with byKind := value }),
     .given "by_severity" (.map .integer) (·.bySeverity) (fun stats value => { stats with bySeverity := value }),
     .given "by_file" (.map .integer) (·.byFile) (fun stats value => { stats with byFile := value })]

/-- A file that was not staged, and why. -/
structure StagingWarning where
  file : String
  message : String
  deriving DecidableEq, Repr

/-- The fields of a staging warning. -/
def StagingWarning.schema : Schema StagingWarning :=
  .constant "StagingWarning" ⟨"", ""⟩
    [.needed "file" .text (·.file) (fun warning value => { warning with file := value }),
     .needed "message" .text (·.message) (fun warning value => { warning with message := value })]

/-- The outcome of a run. -/
structure Report (τ : Type) where
  success : Bool
  duration : τ
  issues : List Issue
  metrics : Option (Metrics τ)
  correlationId : Option String
  statistics : Statistics
  /-- Engines whose tool is not installed. -/
  unavailable : List String
  /-- Engines that failed, and how. -/
  failed : Keyed String
  staged : List String
  stagingWarnings : List StagingWarning
  /-- Files that were not checked. -/
  omitted : List String
  fixedCount : Int
  cancelled : Bool
  phases : List String
  deriving Repr

namespace Report

/-- The fields of a report. -/
def schema (disk : Disk) : Schema (Report Float) :=
  .computing (.plain "Report" ⟨false, 0, [], none, none, .none, [], [], [], [], [], 0, false, []⟩
    [.needed "success" .boolean (·.success) (fun report value => { report with success := value }),
     .given "duration" .number (·.duration) (fun report value => { report with duration := value }),
     .given "issues" (.list (Issue.schema disk).codec) (·.issues)
       (fun report value => { report with issues := value }),
     .given "metrics" (.optional Metrics.schema.codec) (·.metrics)
       (fun report value => { report with metrics := value }),
     .given "correlation_id" (.optional .text) (·.correlationId)
       (fun report value => { report with correlationId := value }),
     .given "statistics" Statistics.schema.codec (·.statistics)
       (fun report value => { report with statistics := value }),
     .given "unavailable_engines" (.list .text) (·.unavailable)
       (fun report value => { report with unavailable := value }),
     .given "failed_engines" (.map .text) (·.failed) (fun report value => { report with failed := value }),
     .given "staged_files" (.list .text) (·.staged) (fun report value => { report with staged := value }),
     .given "staging_warnings" (.list StagingWarning.schema.codec) (·.stagingWarnings)
       (fun report value => { report with stagingWarnings := value }),
     .given "omitted_files" (.list .text) (·.omitted) (fun report value => { report with omitted := value }),
     .given "fixed_count" .integer (·.fixedCount) (fun report value => { report with fixedCount := value }),
     .given "cancelled" .boolean (·.cancelled) (fun report value => { report with cancelled := value }),
     .given "phases" (.list .text) (·.phases) (fun report value => { report with phases := value })])
    ["degraded"]

variable {τ : Type}

/-- Whether an error is left. -/
def hasErrors (report : Report τ) : Bool := report.issues.any fun issue => issue.severity == .error

/-- Whether the run went on with fewer engines. -/
def degraded (report : Report τ) : Bool := !report.unavailable.isEmpty

/-- The report as a JSON value without empty fields. -/
def payload (disk : Disk) (report : Report Float) : Json := ((schema disk).write report).dropNulls

/-- The JSON document of a report. -/
def document (disk : Disk) (report : Report Float) : String := Json.spread (report.payload disk)

/-- The JSON document of a report, unless a number of the report cannot be written. -/
def rendered (disk : Disk) (report : Report Float) : Except Fault String :=
  if (report.payload disk).isWritable then .ok (report.document disk) else .error unwritable

end Report

end FixFirst
