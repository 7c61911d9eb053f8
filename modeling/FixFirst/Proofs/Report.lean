import FixFirst.Proofs.Record
import FixFirst.Report

/-!
# Reports said by their documents

The document of a report loses nothing: reading it gives the report, every text and every number of it, though the
fields that hold nothing are left out.  Only a whole number with too many digits keeps a report from being written.

## Main definitions

* `Report.WellFormed` — finite durations, normalised files, and maps with each key once.
* `Report.numbers` — the whole numbers of a report.

## Main statements

* `Report.says_schema` — what is written for a report says it.
* `rendered_reads_back` — the document of a report is read as the report, or a number is too long.
-/

namespace FixFirst

open Text FixFirst.Codec FixFirst.Field

/-! ### Parts of a report -/

theorem Kind.mem_all (kind : Kind) : kind ∈ Kind.all := by
  cases kind <;> decide

theorem Kind.eq_of_name {kind other : Kind} (h : other.name = kind.name) : other = kind := by
  cases kind <;> cases other <;> first | rfl | exact absurd h (by decide)

theorem Severity.mem_all (severity : Severity) : severity ∈ Severity.all := by
  cases severity <;> decide

theorem Severity.eq_of_name {severity other : Severity} (h : other.name = severity.name) : other = severity := by
  cases severity <;> cases other <;> first | rfl | exact absurd h (by decide)

theorem flatMap_nothing {α : Type} (items : List α) : items.flatMap (fun _ => ([] : List Int)) = [] := by
  simp

/-- The whole numbers of an issue in the order of its document. -/
def Issue.numbers (issue : Issue) : List Int :=
  [(issue.line : Int), (issue.column : Int)] ++ issue.endLine.toList ++ issue.endColumn.toList

/-- An issue is said if normalising does not change its file. -/
theorem Issue.says_schema {disk : Disk} {issue : Issue} (h : disk.normalize issue.file = .ok issue.file) :
    (schema disk).codec.Says issue 2 issue.numbers := by
  have hkind := says_choice issue.kind.mem_all (fun _ _ => Kind.eq_of_name) 1
  have hseverity := says_choice issue.severity.mem_all (fun _ _ => Severity.eq_of_name) 1
  have hcarried : Carried issue 1 (schema disk).fields (schema disk).blank _ issue :=
    .cons (carries_needed hkind _)
      (.cons (carries_needed hseverity _)
      (.cons (carries_needed (says_file h 1) _)
      (.cons (carries_given (says_count (Nat.zero_le issue.line) 1) _)
      (.cons (carries_given (says_count (Nat.zero_le issue.column) 1) _)
      (.cons (carries_optional (fun n _ => says_integer n 1) rfl)
      (.cons (carries_optional (fun n _ => says_integer n 1) rfl)
      (.cons (carries_optional (fun body _ => says_text body 1) rfl)
      (.cons (carries_needed (says_text issue.message 1) _)
      (.cons (carries_optional (fun body _ => says_text body 1) rfl)
      (.cons (carries_optional (fun body _ => says_text body 1) rfl) (.nil _)))))))))))
  have hsays := Schema.says_of_carried (by simp [schema, Schema.constant, Schema.plain, given, needed]) rfl hcarried
  simpa [numbers, flatMap_nothing] using hsays

theorem EngineMetrics.says_schema {metrics : EngineMetrics Float} (h : Quantity.isFinite metrics.duration = true) :
    schema.codec.Says metrics 1 [metrics.issueCount, metrics.fixedCount] := by
  have hcarried : Carried metrics 0 schema.fields schema.blank _ metrics :=
    .cons (carries_given (says_boolean metrics.enabled 0) _)
      (.cons (carries_given (says_number h 0) _)
      (.cons (carries_given (says_integer metrics.issueCount 0) _)
      (.cons (carries_given (says_integer metrics.fixedCount 0) _) (.nil _))))
  exact Schema.says_of_carried (by simp [schema, Schema.loose, Schema.plain, given, needed]) rfl hcarried

/-- Whether metrics have finite durations and each engine once. -/
structure Metrics.WellFormed (metrics : Metrics Float) : Prop where
  duration : Quantity.isFinite metrics.duration = true
  engines : ∀ engine ∈ metrics.engines, Quantity.isFinite engine.2.duration = true
  keys : (Keyed.keys metrics.engines).Nodup

/-- The whole numbers of metrics in the order of their document. -/
def Metrics.numbers (metrics : Metrics Float) : List Int :=
  metrics.issueCount :: metrics.engines.flatMap fun engine => [engine.2.issueCount, engine.2.fixedCount]

theorem Metrics.says_schema {metrics : Metrics Float} (h : metrics.WellFormed) :
    schema.codec.Says metrics 3 metrics.numbers := by
  have hengines : EngineMetrics.schema.codec.map.Says metrics.engines 2
      (metrics.engines.flatMap fun engine => [engine.2.issueCount, engine.2.fixedCount]) :=
    says_map (fun engine => [engine.issueCount, engine.fixedCount]) h.keys fun engine hin =>
      EngineMetrics.says_schema (h.engines engine hin)
  have hcarried : Carried metrics 2 schema.fields schema.blank _ metrics :=
    .cons (carries_needed (says_text metrics.timestamp 2) _)
      (.cons (carries_needed (says_text metrics.runType 2) _)
      (.cons (carries_needed (says_number h.duration 2) _)
      (.cons (carries_given (says_integer metrics.issueCount 2) _)
      (.cons (carries_given hengines _) (.nil _)))))
  have hsays := Schema.says_of_carried (by simp [schema, Schema.loose, Schema.plain, given, needed]) rfl hcarried
  simpa [numbers] using hsays

/-- Whether the counts of statistics have each key once. -/
structure Statistics.WellFormed (statistics : Statistics) : Prop where
  byKind : (Keyed.keys statistics.byKind).Nodup
  bySeverity : (Keyed.keys statistics.bySeverity).Nodup
  byFile : (Keyed.keys statistics.byFile).Nodup

/-- The whole numbers of statistics in the order of their document. -/
def Statistics.numbers (statistics : Statistics) : List Int :=
  statistics.total :: (Keyed.values statistics.byKind ++ Keyed.values statistics.bySeverity ++
    Keyed.values statistics.byFile)

theorem Statistics.says_schema {statistics : Statistics} (h : statistics.WellFormed) :
    schema.codec.Says statistics 3 statistics.numbers := by
  have hcounts : ∀ counts : Keyed Int, (Keyed.keys counts).Nodup → Codec.integer.map.Says counts 2 (Keyed.values counts) := by
    intro counts hkeys
    have hsays := says_map (fun n : Int => [n]) hkeys fun entry _ => says_integer entry.2 1
    rwa [← List.map_eq_flatMap] at hsays
  have hcarried : Carried statistics 2 schema.fields schema.blank _ statistics :=
    .cons (carries_given (says_integer statistics.total 2) _)
      (.cons (carries_given (hcounts _ h.byKind) _)
      (.cons (carries_given (hcounts _ h.bySeverity) _)
      (.cons (carries_given (hcounts _ h.byFile) _) (.nil _))))
  have hsays := Schema.says_of_carried (by simp [schema, Schema.loose, Schema.plain, given, needed]) rfl hcarried
  simpa [numbers] using hsays

theorem StagingWarning.says_schema (warning : StagingWarning) : schema.codec.Says warning 2 [] := by
  have hcarried : Carried warning 1 schema.fields schema.blank _ warning :=
    .cons (carries_needed (says_text warning.file 1) _) (.cons (carries_needed (says_text warning.message 1) _) (.nil _))
  exact Schema.says_of_carried (by simp [schema, Schema.constant, Schema.plain, needed]) rfl hcarried

/-! ### Reports -/

namespace Report

/-- Whether a report has finite durations, files that normalising does not change, and maps with each key once. -/
structure WellFormed (disk : Disk) (report : Report Float) : Prop where
  duration : Quantity.isFinite report.duration = true
  files : ∀ issue ∈ report.issues, disk.normalize issue.file = .ok issue.file
  metrics : ∀ metrics ∈ report.metrics, metrics.WellFormed
  statistics : report.statistics.WellFormed
  failed : (Keyed.keys report.failed).Nodup

/-- The whole numbers of a report in the order of its document. -/
def numbers (report : Report Float) : List Int :=
  report.issues.flatMap Issue.numbers ++ report.metrics.toList.flatMap Metrics.numbers ++ report.statistics.numbers ++
    [report.fixedCount]

variable {disk : Disk} {report : Report Float}

/-- What is written for a report says it. -/
theorem says_schema (h : report.WellFormed disk) :
    (schema disk).codec.Says report 4 report.numbers := by
  have hissues := says_list fun issue hin => (Issue.says_schema (h.files issue hin))
  have hcarried : Carried report 3 (schema disk).fields (schema disk).blank _ report :=
    .cons (carries_needed (says_boolean report.success 3) _)
      (.cons (carries_given (says_number h.duration 3) _)
      (.cons (carries_given hissues _)
      (.cons (carries_optional (fun metrics hin => Metrics.says_schema (h.metrics metrics hin)) rfl)
      (.cons (carries_optional (fun body _ => says_text body 3) rfl)
      (.cons (carries_given (Statistics.says_schema h.statistics) _)
      (.cons (carries_given (says_list fun body _ => says_text body 2) _)
      (.cons (carries_given (says_map (fun _ => []) h.failed fun entry _ => says_text entry.2 2) _)
      (.cons (carries_given (says_list fun body _ => says_text body 2) _)
      (.cons (carries_given (says_list fun warning _ => warning.says_schema) _)
      (.cons (carries_given (says_list fun body _ => says_text body 2) _)
      (.cons (carries_given (says_integer report.fixedCount 3) _)
      (.cons (carries_given (says_boolean report.cancelled 3) _)
      (.cons (carries_given (says_list fun body _ => says_text body 2) _) (.nil _))))))))))))))
  have hsays := Schema.says_of_carried (by simp [schema, Schema.computing, Schema.plain, given, needed]) rfl hcarried
  simpa [numbers, flatMap_nothing] using hsays

/-- A report can be written if its whole numbers can. -/
theorem isWritable_payload (h : report.WellFormed disk) :
    (report.payload disk).isWritable = true ↔ ∀ n ∈ report.numbers, n.natAbs < 10 ^ maxDigits := by
  have hwritable : ∀ n : Int, isWritable n = true ↔ n.natAbs < 10 ^ maxDigits := fun n =>
    decide_eq_true_iff.trans (Nat.length_toDigits_le_iff (by decide) (by decide))
  rw [Json.isWritable_iff, ← (says_schema h).numbers]
  exact forall₂_congr fun n _ => hwritable n

theorem rendered_of_long (h : report.WellFormed disk) (hlong : ∃ n ∈ report.numbers, 10 ^ maxDigits ≤ n.natAbs) :
    report.rendered disk = .error unwritable := by
  obtain ⟨n, hin, hmany⟩ := hlong
  exact if_neg fun hwritable => absurd ((isWritable_payload h).mp hwritable n hin) (not_lt.mpr hmany)

end Report

/-- The document of a report is read as the report, though what holds nothing is left out of it, where there is room
for the few records that lie in one another; it cannot be written if a whole number has too many digits. -/
theorem rendered_reads_back {disk : Disk} {report : Report Float} (h : report.WellFormed disk) :
    ((∀ n ∈ report.numbers, n.natAbs < 10 ^ maxDigits) → ∃ text, report.rendered disk = .ok text ∧
      (∀ room, 4 ≤ room → Json.read room text.toList = .ok (report.payload disk)) ∧
      (Report.schema disk).parse (report.payload disk) = .ok report) ∧
    ((∃ n ∈ report.numbers, 10 ^ maxDigits ≤ n.natAbs) → report.rendered disk = .error unwritable) := by
  refine ⟨fun hshort => ?_, Report.rendered_of_long h⟩
  have hsays := Report.says_schema h
  have hwritable := (Report.isWritable_payload h).mpr hshort
  have hfits : (report.payload disk).nesting ≤ 4 := hsays.nesting
  have hparse : (Report.schema disk).parse (report.payload disk) = .ok report := Reading.result_eq_ok.mpr hsays.decode
  exact ⟨_, if_pos hwritable, fun room hroom => Json.read_spread hsays.definite hwritable (hfits.trans hroom), hparse⟩

/-- A report with quotes, a backslash, control characters and characters beyond the first plane in its texts. -/
def Report.peculiar : Report Float :=
  { success := false
    duration := 1.5
    issues := [⟨.lint, .warning, "/c", 0, 7, some (-1), none, some "\"E\\501\"", "tab\t, bell \x07, 😀 and é", none,
      some "ruff\x7f"⟩]
    metrics := some ⟨"now", "check", 0.1, 1, [("li\"nt", ⟨true, -0.0, 1, 0⟩)]⟩
    correlationId := some ""
    statistics := ⟨1, [("lint", 1)], [("warning", 1)], [("/c", 1)]⟩
    unavailable := ["𝔽\uffff"]
    failed := [("mypy", "line\nbreak"), ("\\", "\x00")]
    staged := []
    stagingWarnings := [⟨"/\"", "\\"⟩]
    omitted := ["\u2028"]
    fixedCount := 0
    cancelled := true
    phases := ["check"] }

/-- A report with a column of one digit too many. -/
def Report.overlong : Report Float :=
  { Report.peculiar with
    issues := [⟨.typeCheck, .error, "/c", 1, 10 ^ maxDigits, none, none, none, "", none, none⟩] }

theorem normalize_plain : (Disk.empty [] []).normalize "/c" = .ok "/c" := by
  cbv

theorem Report.wellFormed_peculiar : Report.peculiar.WellFormed (Disk.empty [] []) where
  duration := rfl
  files := List.forall_mem_singleton.mpr normalize_plain
  metrics := by
    rintro metrics ⟨⟩
    exact ⟨rfl, List.forall_mem_singleton.mpr rfl, List.nodup_singleton _⟩
  statistics := ⟨List.nodup_singleton _, List.nodup_singleton _, List.nodup_singleton _⟩
  failed := by decide

theorem Report.wellFormed_overlong : Report.overlong.WellFormed (Disk.empty [] []) :=
  { Report.wellFormed_peculiar with files := List.forall_mem_singleton.mpr normalize_plain }

/-- A report with such texts is read back. -/
theorem rendered_reads_back_peculiar :
    Report.peculiar.WellFormed (Disk.empty [] []) ∧ ∃ text, Report.peculiar.rendered (Disk.empty [] []) = .ok text ∧
      (∀ room, 4 ≤ room → Json.read room text.toList = .ok (Report.peculiar.payload (Disk.empty [] []))) ∧
      (Report.schema (Disk.empty [] [])).parse (Report.peculiar.payload (Disk.empty [] [])) = .ok Report.peculiar := by
  refine ⟨Report.wellFormed_peculiar, (rendered_reads_back Report.wellFormed_peculiar).1 fun n hin => ?_⟩
  have hsmall : ∀ n ∈ Report.peculiar.numbers, n.natAbs < 10 := by decide
  exact (hsmall n hin).trans_le (Nat.le_self_pow (by decide) 10)

/-- A report with a longer number is no text. -/
theorem overlong_not_rendered : Report.overlong.WellFormed (Disk.empty [] []) ∧
    ¬ ∃ text, Report.overlong.rendered (Disk.empty [] []) = .ok text ∧
      ∃ room value, Json.read room text.toList = .ok value ∧
        (Report.schema (Disk.empty [] [])).parse value = .ok Report.overlong := by
  refine ⟨Report.wellFormed_overlong, ?_⟩
  rintro ⟨text, hrendered, -⟩
  have hlong : ∃ n ∈ Report.overlong.numbers, 10 ^ maxDigits ≤ n.natAbs :=
    ⟨((10 ^ maxDigits : ℕ) : ℤ), List.mem_cons_of_mem _ List.mem_cons_self, (Int.natAbs_natCast _).ge⟩
  rw [Report.rendered_of_long Report.wellFormed_overlong hlong] at hrendered
  cases hrendered

end FixFirst
