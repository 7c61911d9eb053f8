import Mathlib
import FixFirst.Proofs.Aggregate
import FixFirst.Proofs.Run.Passage

/-!
# Findings of a second look

An engine that reports its fixes precisely is asked again about the files that a later fixer
changed.  What it finds then is told in the report, unless one of its own fix records names the
rule and the file: such a record covers the new finding too, though it was made before the file
was changed again.

## Main statements

* `recheck_present_iff` — when a finding of a check is told, by identity.
* `recheck_lost` — a run in which such a finding is lost.
-/

namespace FixFirst

variable {τ σ : Type} [Quantity τ] {runner : Runner τ σ} {request : Request τ} {world after : World τ σ}
  {report : Report τ}

/-- The result of an engine that did not fail, in a check batch that was in time, is used. -/
theorem Passage.mem_usable (passage : Passage runner request world report) {outcome : Outcome τ}
    {result : EngineResult τ} (hin : outcome ∈ passage.batches.results.flatten)
    (hresult : outcome.verdict = .result result) (hname : result.engine = outcome.engine)
    (hfine : report.failed.holds outcome.engine = false) : result ∈ passage.course.usable := by
  obtain ⟨omitted, -, hcourse⟩ := passage.recorded
  have hresults : passage.course.results = (passage.entered.takingAll passage.batches.results.flatten).results := by
    rw [hcourse]
  have hfailed : passage.course.failed = (passage.entered.takingAll passage.batches.results.flatten).failed := by
    rw [hcourse]
  rw [passage.failed] at hfine
  unfold Course.usable
  rw [List.mem_filter, hname, hfine]
  refine ⟨?_, rfl⟩
  rw [hresults]
  rw [hfailed] at hfine
  exact Course.mem_results_takingAll hin hresult hfine

/-- An identity is told if it lies in scope and one of its issues is not covered. -/
theorem Passage.exists_issues (passage : Passage runner request world report) (identity : Identity) :
    (∃ known ∈ report.issues, known.identity = identity) ↔
      identity.file ∈ passage.scope ∧
        ∃ result ∈ passage.course.usable, ∃ issue ∈ result.issues, issue.identity = identity ∧
          covered passage.course.usable result issue = false := by
  rw [passage.issues]
  exact exists_finalIssues passage.course.usable passage.scope identity

/-- **When a finding of a check is told.**  Let an engine that did not fail report an issue on a file
of the run, in a check batch that was in time.  The report has an issue of that identity exactly when
no fix record of the engine names the rule and the file, or when another engine, or a fix, reported
the same identity and is not covered itself. -/
theorem recheck_present_iff (hrun : (runner.run request).on world = (.ok report, after)) :
    ∃ passage : Passage runner request world report,
      ∀ outcome ∈ passage.batches.results.flatten, ∀ result, outcome.verdict = .result result →
        result.engine = outcome.engine → result.pass = .check → report.failed.holds outcome.engine = false →
        ∀ issue ∈ result.issues, issue.file ∈ passage.scope →
          ((∃ known ∈ report.issues, known.identity = issue.identity) ↔
            ¬ RuleFixed passage.course.usable outcome.engine issue ∨
            ∃ other ∈ passage.course.usable, (other.engine ≠ outcome.engine ∨ other.pass ≠ .check) ∧
              ∃ twin ∈ other.issues, twin.identity = issue.identity ∧
                covered passage.course.usable other twin = false) := by
  obtain ⟨passage⟩ := Runner.passage_of_ok hrun
  refine ⟨passage, ?_⟩
  intro outcome hin result hresult hname hpass hfine issue hissue hscope
  have husable := passage.mem_usable hin hresult hname hfine
  have hcovered : covered passage.course.usable result issue = true ↔
      RuleFixed passage.course.usable outcome.engine issue := hname ▸ covered_check hpass
  rw [passage.exists_issues]
  constructor
  · rintro ⟨-, other, hother, twin, htwin, hidentity, hopen⟩
    by_cases hsame : other.engine = outcome.engine ∧ other.pass = .check
    · refine Or.inl fun hfixed => ?_
      have hclosed : covered passage.course.usable other twin = covered passage.course.usable result issue :=
        covered_congr (hsame.1.trans hname.symm) (hsame.2.trans hpass.symm) hidentity
      rw [hopen, hcovered.mpr hfixed] at hclosed
      cases hclosed
    · refine Or.inr ⟨other, hother, ?_, twin, htwin, hidentity, hopen⟩
      rcases Classical.not_and_iff_not_or_not.mp hsame with hengine | hpass'
      · exact Or.inl hengine
      · exact Or.inr hpass'
  · rintro (hunfixed | ⟨other, hother, -, twin, htwin, hidentity, hopen⟩)
    · refine ⟨hscope, result, husable, issue, hissue, rfl, ?_⟩
      rw [← Bool.not_eq_true, hcovered]
      exact hunfixed
    · exact ⟨hscope, other, hother, twin, htwin, hidentity, hopen⟩

/-! ### A finding that is lost -/

/-- What a formatter says of a file. -/
def untidy : Issue := ⟨.format, .warning, "/a", 1, 1, none, none, some "format", "not formatted", none, none⟩

/-- A formatter that says precisely what it fixed, and finds the file untidy when asked again. -/
def formatter : Engine Rat Unit where
  name := "format"
  kind := .format
  canFix := true
  precise := true
  prepare _ := pure ()
  reset := pure ()
  check _ _ := pure (.result ⟨"format", .format, .check, true, [untidy], 0, none, 0, [], [], false⟩)
  fix _ _ := pure (.result ⟨"format", .format, .fix, true, [], 0, none, 1, ["/a"], [⟨"/a", some "format"⟩], false⟩)

/-- A fixer that changes the file after the formatter. -/
def rewriter : Engine Rat Unit where
  name := "lint"
  kind := .lint
  canFix := true
  precise := false
  prepare _ := pure ()
  reset := pure ()
  check _ _ := pure (.result ⟨"lint", .lint, .check, true, [], 0, none, 0, [], [], false⟩)
  fix _ _ := pure (.result ⟨"lint", .lint, .fix, true, [], 0, none, 1, ["/a"], [], false⟩)

/-- The two of them, one after the other. -/
def formatThenRewrite : Runner Rat Unit where
  engines := [formatter, rewriter]
  config := .small
  shell _ _ := pure ⟨0, "", ""⟩
  schedule jobs _ := .inOrder jobs.length
  longestWait := none

/-- A request about one file. -/
def oneFile : Request Rat := ⟨["/a"], none, [], none, none, none, none⟩

/-- The results in a journal, in their order: engine, pass, changed files and issues. -/
def resultsIn {τ : Type} (journal : List (Event τ)) : List (String × Pass × List String × List Issue) :=
  journal.filterMap fun
    | .completed ⟨engine, pass, .result result⟩ => some (engine, pass, result.modified, result.issues)
    | _ => none

-- What names hold, and what a disk holds, is evaluated by equations: unfolding texts is slow.
attribute [local irreducible] Path.hasNul Disk.isDirectory Disk.present

/-- A run in short: the flags, the failed engines and the issues of its report, and the results in its journal. -/
def outlined {σ : Type} (run : Except Fault (Report Rat) × World Rat σ) :
    Option (Bool × Bool × Keyed String × List Issue) × List (String × Pass × List String × List Issue) :=
  (run.1.toOption.map fun report => (report.cancelled, report.success, report.failed, report.issues),
    resultsIn run.2.journal)

/-- The run of the two of them, in short.  With a definition that carries its proof, and not with a theorem, the
equations of all that a run calls are at hand for the other runs that are evaluated. -/
def formatThenRewriteOutline :
    { outline // outlined ((formatThenRewrite.run oneFile).on (World.still (.empty [] []) ())) = outline } :=
  ⟨(some (false, true, [], []), [("format", .fix, ["/a"], []), ("lint", .fix, ["/a"], []),
    ("format", .check, [], [untidy]), ("lint", .check, [], [])]), by cbv⟩

theorem formatThenRewrite_run :
    ∃ report after, (formatThenRewrite.run oneFile).on (World.still (.empty [] []) ()) = (.ok report, after) ∧
      report.cancelled = false ∧ report.success = true ∧ report.failed = [] ∧ report.issues = [] ∧
      resultsIn after.journal = [("format", .fix, ["/a"], []), ("lint", .fix, ["/a"], []),
        ("format", .check, [], [untidy]), ("lint", .check, [], [])] := by
  have hrun : outlined ((formatThenRewrite.run oneFile).on (World.still (.empty [] []) ())) =
      (some (false, true, [], []), [("format", .fix, ["/a"], []), ("lint", .fix, ["/a"], []),
        ("format", .check, [], [untidy]), ("lint", .check, [], [])]) := formatThenRewriteOutline.property
  rcases h : (formatThenRewrite.run oneFile).on (World.still (.empty [] []) ()) with ⟨outcome, after⟩
  rw [h] at hrun
  cases outcome with
  | error fault => cases hrun
  | ok report =>
      obtain ⟨hreport, hjournal⟩ := Prod.mk.inj hrun
      have hfields := Option.some.inj hreport
      simp only [Prod.mk.injEq] at hfields
      exact ⟨report, after, rfl, hfields.1, hfields.2.1, hfields.2.2.1, hfields.2.2.2, hjournal⟩

/-- In that run, the formatter finds the file untidy in a check batch that was in time. -/
theorem formatThenRewrite_finds {report : Report Rat}
    (passage : Passage formatThenRewrite oneFile (World.still (.empty [] []) ()) report) :
    passage.scope = ["/a"] ∧ passage.batches.timedOut = [] ∧
      ∃ outcome ∈ passage.batches.results.flatten, ∃ result, outcome.verdict = .result result ∧
        outcome.engine = "format" ∧ result.engine = outcome.engine ∧ result.pass = .check ∧ untidy ∈ result.issues := by
  have hrun : (fun run => (run.1.toOption.map fun batches => (batches.timedOut,
        batches.results.flatten.filterMap fun outcome => outcome.result?.map fun result =>
          (outcome.engine, result.engine, result.pass, result.issues)), run.2.disk))
        ((formatThenRewrite.untilChecked oneFile).on (World.still (.empty [] []) ())) =
      (some ([], [("format", "format", .check, [untidy]), ("lint", "lint", .check, [])]), .empty [] []) := by
    cbv
  have hfiles : ((formatThenRewrite.setUp oneFile).on (World.still (.empty [] []) ())).1.toOption.map (·.files) =
      some ["/a"] := by
    cbv
  have hscope : (Disk.empty [] []).normalizeAll ["/a"] = .ok ["/a"] := by
    cbv
  rw [passage.setUp] at hfiles
  have hasked : passage.setup.files = ["/a"] := Option.some.inj hfiles
  rw [passage.on_untilChecked] at hrun
  obtain ⟨hbatches, hdisk⟩ := Prod.mk.inj hrun
  have hempty : passage.checked.disk = .empty [] [] := hdisk
  obtain ⟨htimed, hresults⟩ := Prod.mk.inj (Option.some.inj hbatches)
  obtain ⟨events, hsaid, -⟩ := passage.said
  refine ⟨?_, htimed, ?_⟩
  · have hin := passage.inScope
    rw [hasked, hsaid, World.disk_noted, hempty, hscope] at hin
    exact (Except.ok.inj hin).symm
  · have hfirst : ("format", "format", Pass.check, [untidy]) ∈
        passage.batches.results.flatten.filterMap fun outcome => outcome.result?.map fun result =>
          (outcome.engine, result.engine, result.pass, result.issues) := by
      rw [hresults]
      exact List.mem_cons_self
    obtain ⟨outcome, hin, hsome⟩ := List.mem_filterMap.mp hfirst
    obtain ⟨result, hresult, heq⟩ := Option.map_eq_some_iff.mp hsome
    simp only [Prod.mk.injEq] at heq
    obtain ⟨hname, hengine, hpass, hissues⟩ := heq
    refine ⟨outcome, hin, result, ?_, hname, hengine.trans hname.symm, hpass, by simp [hissues]⟩
    unfold Outcome.result? at hresult
    split at hresult
    · rename_i known hknown
      rw [hknown, Option.some.inj hresult]
    · cases hresult

/-- A finding of a second look can be lost: the formatter fixed the file, the file was changed after
that, and the formatter finds it untidy when asked again; nothing of it is told, and the run counts
as a success. -/
theorem recheck_lost :
    ∃ report after, (formatThenRewrite.run oneFile).on (World.still (.empty [] []) ()) = (.ok report, after) ∧
      report.cancelled = false ∧ report.failed = [] ∧ report.success = true ∧
      formatThenRewrite.config.execution.fix = true ∧ formatter.canFix = true ∧ formatter.precise = true ∧
      (∃ before between later, resultsIn after.journal =
        before ++ ("format", .fix, ["/a"], []) :: between ++ ("lint", .fix, ["/a"], []) :: later) ∧
      ∃ passage : Passage formatThenRewrite oneFile (World.still (.empty [] []) ()) report,
        passage.batches.timedOut = [] ∧
        ∃ outcome ∈ passage.batches.results.flatten, ∃ result, outcome.verdict = .result result ∧
          outcome.engine = formatter.name ∧ untidy ∈ result.issues ∧ untidy.file ∈ passage.scope ∧
          ¬ ∃ known ∈ report.issues, known.identity = untidy.identity := by
  obtain ⟨report, after, hrun, hcancelled, hsuccess, hfailed, hissues, hjournal⟩ := formatThenRewrite_run
  obtain ⟨passage⟩ := Runner.passage_of_ok hrun
  obtain ⟨hscope, htimed, outcome, hin, result, hresult, hname, -, -, huntidy⟩ := formatThenRewrite_finds passage
  refine ⟨report, after, hrun, hcancelled, hfailed, hsuccess, rfl, rfl, rfl, ⟨[], [], _, hjournal⟩, passage, htimed,
    outcome, hin, result, hresult, hname, huntidy, ?_, ?_⟩
  · rw [hscope]
    exact List.mem_singleton.mpr rfl
  · rw [hissues]
    rintro ⟨known, hknown, -⟩
    cases hknown

/-- In that run the fix record of the formatter is what hides its finding. -/
theorem recheck_present_iff_formatter :
    ∃ report after, (formatThenRewrite.run oneFile).on (World.still (.empty [] []) ()) = (.ok report, after) ∧
      ∃ passage : Passage formatThenRewrite oneFile (World.still (.empty [] []) ()) report,
        RuleFixed passage.course.usable "format" untidy := by
  obtain ⟨report, after, hrun, -, -, hfailed, hissues, -⟩ := formatThenRewrite_run
  obtain ⟨passage, hiff⟩ := recheck_present_iff hrun
  obtain ⟨hscope, -, outcome, hin, result, hresult, hname, hengine, hpass, huntidy⟩ := formatThenRewrite_finds passage
  have hfine : report.failed.holds outcome.engine = false := by
    rw [hfailed]
    rfl
  have hinside : untidy.file ∈ passage.scope := by
    rw [hscope]
    exact List.mem_singleton.mpr rfl
  refine ⟨report, after, hrun, passage, Classical.byContradiction fun hunfixed => ?_⟩
  obtain ⟨known, hknown, -⟩ :=
    (hiff outcome hin result hresult hengine hpass hfine untidy huntidy hinside).mpr (Or.inl (hname ▸ hunfixed))
  rw [hissues] at hknown
  cases hknown

end FixFirst
