import FixFirst.Moment
import FixFirst.Quantity
import FixFirst.Report

/-!
# Aggregation

The results of all engine calls become one list of issues: issues that a fix record covers
and issues outside the scope of the run are dropped, of issues with one identity the first
stays, and what is left is sorted.  The files of the scope are taken as they normalise now.
Statistics and metrics are counted from what is left.

## Main definitions

* `surviving` — the issues that no fix record covers.
* `deduplicate`, `sortIssues` — one issue per identity, in the order of `Issue.before`.
* `aggregate` — the report of a list of results.
* `mergeResults` — one result per engine and pass.
-/

namespace FixFirst

/-- Whether a fix record of a result covers an issue of the same engine: a record with a rule
covers the issues of that rule in its file, a record without one the issues that were reported
while fixing. -/
def FixRecord.covers (entry : FixRecord) (pass : Pass) (issue : Issue) : Bool :=
  entry.file == issue.file &&
    match entry.rule with
    | some rule => issue.rule == some rule
    | none => pass == .fix

variable {τ : Type}

/-- Whether an issue of `result` is covered by a fix record of its engine. -/
def covered (results : List (EngineResult τ)) (result : EngineResult τ) (issue : Issue) : Bool :=
  results.any fun other =>
    other.engine == result.engine && other.fixed.any fun entry => entry.covers result.pass issue

/-- The issues that no fix record covers, in order. -/
def surviving (results : List (EngineResult τ)) : List Issue :=
  results.flatMap fun result => result.issues.filter fun issue => !covered results result issue

/-- The first issue of every identity, in order. -/
def deduplicate (issues : List Issue) : List Issue :=
  issues.foldl
    (fun kept issue =>
      if kept.any fun known => known.identity == issue.identity then kept else kept ++ [issue])
    []

/-- The comparison of issues: by severity, file, line, column, kind and rule; no rule compares
like an empty one. -/
def Issue.compare (first second : Issue) : Ordering :=
  (Ord.compare first.severity.rank second.severity.rank).then <|
  (Ord.compare first.file second.file).then <|
  (Ord.compare first.line second.line).then <|
  (Ord.compare first.column second.column).then <|
  (Ord.compare first.kind.name second.kind.name).then <|
  Ord.compare (first.rule.getD "") (second.rule.getD "")

/-- Whether an issue may stand before another one. -/
def Issue.before (first second : Issue) : Bool := (first.compare second).isLE

/-- The issues in order; issues that compare alike keep their order. -/
def sortIssues (issues : List Issue) : List Issue := issues.mergeSort Issue.before

/-- The issues that are at least as grave as `minimum`. -/
def filterBySeverity (issues : List Issue) (minimum : Severity) : List Issue :=
  issues.filter fun issue => issue.severity.atLeast minimum

/-- How often each text occurs, in the order of first occurrence. -/
def tally (texts : List String) : Keyed Int :=
  texts.foldl (fun counts text => counts.put text ((counts.get? text).getD 0 + 1)) []

/-- The statistics of issues. -/
def statistics (issues : List Issue) : Statistics :=
  { total := issues.length
    byKind := tally (issues.map (·.kind.name))
    bySeverity := tally (issues.map (·.severity.name))
    byFile := tally (issues.map (·.file)) }

/-- The issues of results that lie in normal files, if these are given, deduplicated and sorted. -/
def finalIssues (results : List (EngineResult τ)) (scope : Option (List String)) : List Issue :=
  let issues := surviving results
  let inside := match scope with
    | some files => issues.filter fun issue => files.contains issue.file
    | none => issues
  sortIssues (deduplicate inside)

/-- What a report says of its run beside what the engines gave. -/
structure Heading (τ : Type) where
  duration : τ
  correlationId : Option String

/-- The fields of a heading. -/
def Heading.schema : Schema (Heading Float) :=
  .plain "Report" ⟨0, none⟩
    [.given "duration" .number (·.duration) (fun heading value => { heading with duration := value }),
     .given "correlation_id" (.optional .text) (·.correlationId)
       (fun heading value => { heading with correlationId := value })]

/-- What aggregation is told beside the results. -/
structure Framing (τ : Type) extends Heading τ where
  /-- The files of the run; issues of other files are dropped. -/
  scope : Option (List String)
  metrics : Option (Metrics τ)
  /-- The least severity that makes the run fail. -/
  failOn : Severity

/-- The report of results about normal files, or about all if these are not given. -/
def reportOn (scope : Option (List String)) (results : List (EngineResult τ)) (framing : Framing τ) : Report τ :=
  let issues := finalIssues results scope
  let blocking := issues.any fun issue => issue.severity.atLeast framing.failOn
  let cancelled := results.any (·.cancelled)
  { success := !blocking && !cancelled
    duration := framing.duration
    issues
    metrics := framing.metrics
    correlationId := framing.correlationId
    statistics := statistics issues
    unavailable := []
    failed := []
    staged := []
    stagingWarnings := []
    omitted := []
    fixedCount := (results.map (·.fixedCount)).foldr (· + ·) 0
    cancelled
    phases := [] }

/-- What the files of a scope normalise to, if there is one. -/
def Disk.scope (disk : Disk) : Option (List String) → Except Fault (Option (List String))
  | some files => some <$> disk.normalizeAll files
  | none => .ok none

/-- The report of results. -/
def aggregate (disk : Disk) (results : List (EngineResult τ)) (framing : Framing τ) : Except Fault (Report τ) := do
  return reportOn (← disk.scope framing.scope) results framing

variable [Quantity τ]

/-- Two results of one engine and pass as one. -/
def EngineResult.merge (first second : EngineResult τ) : EngineResult τ :=
  { first with
    success := first.success && second.success
    issues := first.issues ++ second.issues
    duration := first.duration + second.duration
    fixedCount := first.fixedCount + second.fixedCount
    modified := firsts (first.modified ++ second.modified)
    fixed := first.fixed ++ second.fixed
    cancelled := first.cancelled || second.cancelled }

/-- Whether two results are of one engine and pass. -/
def EngineResult.sameCall (first second : EngineResult τ) : Bool :=
  first.engine == second.engine && first.pass == second.pass

/-- Merges a result into the one of its engine and pass, or adds it. -/
def mergeInto : List (EngineResult τ) → EngineResult τ → List (EngineResult τ)
  | [], result => [result]
  | first :: rest, result =>
    if first.sameCall result then first.merge result :: rest else first :: mergeInto rest result

/-- One result per engine and pass, in the order of first occurrence. -/
def mergeResults (results : List (EngineResult τ)) : List (EngineResult τ) :=
  results.foldl mergeInto []

/-- The metrics of an engine that was not called. -/
def EngineMetrics.idle : EngineMetrics τ := ⟨false, Quantity.zero, 0, 0⟩

/-- The metrics of an engine after one more result. -/
def EngineMetrics.add (metrics : EngineMetrics τ) (result : EngineResult τ) : EngineMetrics τ :=
  { enabled := true
    duration := metrics.duration + result.duration
    issueCount := metrics.issueCount + result.issues.length
    fixedCount := metrics.fixedCount + result.fixedCount }

/-- What metrics say of a run beside what its engines took and found. -/
structure Totals (τ : Type) where
  duration : τ
  issueCount : Int

/-- The fields of totals. -/
def Totals.schema : Schema (Totals Float) :=
  .plain "Metrics" ⟨0, 0⟩
    [.given "duration" .number (·.duration) (fun totals value => { totals with duration := value }),
     .given "issue_count" .integer (·.issueCount) (fun totals value => { totals with issueCount := value })]

/-- The metrics of a run that ends at `moment`; `engines` without a result are shown as not
enabled. -/
def buildMetrics (results : List (EngineResult τ)) (moment : τ) (totals : Totals τ)
    (warm : Bool) (engines : List String) : Metrics τ :=
  let start : Keyed (EngineMetrics τ) := engines.foldl (fun table name => table.put name .idle) []
  { timestamp := momentText moment
    runType := if warm then "warm" else "cold"
    duration := totals.duration
    issueCount := totals.issueCount
    engines := results.foldl
      (fun table result =>
        table.put result.engine (((table.get? result.engine).getD .idle).add result))
      start }

end FixFirst
