import FixFirst.Proofs.Aggregate
import FixFirst.Proofs.Run.Outcomes
import FixFirst.Proofs.Run.Recheck

/-!
# The account of a run

What a report says of engines, issues and fixes is an exact account of the outcomes that count: those
of the fix calls, and those of the check batches that were in time.  An engine with a failing outcome
contributes nothing, and takes nothing from the others.

## Main definitions

* `Report.contributions` — the results that a report is made of.
* `Report.Accounts` — what a report says, in terms of the outcomes that count.

## Main statements

* `results_accounted` — every report is an exact account.
-/

namespace FixFirst

variable {τ σ : Type}

namespace Report

/-- The results among outcomes of the engines that did not fail. -/
def contributions (report : Report τ) (outcomes : List (Outcome τ)) : List (EngineResult τ) :=
  (outcomes.filter fun outcome => !report.failed.holds outcome.engine).filterMap Outcome.result?

/-- Whether a report is an exact account of outcomes, for the files in scope. -/
structure Accounts (report : Report τ) (scope : List String) (outcomes : List (Outcome τ)) : Prop where
  failed : ∀ name, report.failed.holds name = true ↔ ∃ outcome ∈ outcomes, outcome.engine = name ∧ outcome.Fails
  unavailable : ∀ name, name ∈ report.unavailable ↔ ∃ outcome ∈ outcomes, outcome.engine = name ∧ outcome.Missing
  issues : ∀ identity, (∃ issue ∈ report.issues, issue.identity = identity) ↔
    ∃ result ∈ report.contributions outcomes, ∃ issue ∈ result.issues, issue.identity = identity ∧
      issue.file ∈ scope ∧ ¬ Suppressed (report.contributions outcomes) result issue
  fixedCount : report.fixedCount = ((report.contributions outcomes).map (·.fixedCount)).sum
  /-- What an engine contributes depends on its own outcomes only. -/
  isolated : ∀ name, (report.contributions outcomes).filter (fun result => result.engine == name) =
    if report.failed.holds name then []
    else (outcomes.filter fun outcome => outcome.engine == name).filterMap Outcome.result?

/-- Where results carry the names of their engines, an engine contributes all of its results, or nothing. -/
theorem filter_contributions {report : Report τ} {outcomes : List (Outcome τ)}
    (hsigned : ∀ outcome ∈ outcomes, ∀ result, outcome.verdict = .result result → result.engine = outcome.engine)
    (name : String) :
    (report.contributions outcomes).filter (fun result => result.engine == name) =
      if report.failed.holds name then []
      else (outcomes.filter fun outcome => outcome.engine == name).filterMap Outcome.result? := by
  unfold contributions
  rw [List.filter_filterMap, List.filterMap_filter]
  cases hfailed : report.failed.holds name with
  | true =>
      rw [if_pos rfl, List.filterMap_eq_nil_iff]
      intro outcome hin
      cases hresult : outcome.result? with
      | none => simp
      | some result =>
          have hname := hsigned outcome hin result (Outcome.result?_eq_some.mp hresult)
          by_cases hsame : outcome.engine = name
          · simp [hsame, hfailed]
          · simp [hname, hsame]
  | false =>
      rw [if_neg Bool.false_ne_true, List.filterMap_filter]
      refine List.filterMap_congr fun outcome hin => ?_
      cases hresult : outcome.result? with
      | none => simp
      | some result =>
          have hname := hsigned outcome hin result (Outcome.result?_eq_some.mp hresult)
          by_cases hsame : outcome.engine = name
          · simp [hname, hsame, hfailed]
          · simp [hname, hsame]

end Report

variable [Quantity τ] {runner : Runner τ σ} {request : Request τ} {world after : World τ σ} {report : Report τ}

/-- A concluded run counts what the results that it uses fixed. -/
theorem Runner.conclude_fixedCount {setup : Setup τ} {course : Course τ} {done : World τ σ}
    (h : (runner.conclude request setup course).on done = (.ok report, after)) :
    report.fixedCount = (course.usable.map (·.fixedCount)).sum := by
  obtain ⟨tracker, -, events, first, next, last, final, duration, -, -, hreport, hstage, -, rfl⟩ :=
    Runner.conclude_steps rfl h
  obtain ⟨staged, warnings, rfl⟩ := Runner.stageFixed_ok hstage
  obtain ⟨-, scope, base, metrics, -, rfl, rfl⟩ := Runner.report_ok hreport
  exact sum_fixedCount_mergeResults course.usable

/-- A report is an exact account of the outcomes that its run took note of. -/
theorem Passage.accounts (passage : Passage runner request world report) {outcomes : List (Outcome τ)}
    (htook : passage.course.Took outcomes)
    (hsigned : ∀ outcome ∈ outcomes, ∀ result, outcome.verdict = .result result → result.engine = outcome.engine)
    (hcount : report.fixedCount = (passage.course.usable.map (·.fixedCount)).sum) :
    report.Accounts passage.scope outcomes := by
  have husable : passage.course.usable = report.contributions outcomes := by
    rw [htook.usable hsigned, Report.contributions, passage.failed]
  refine ⟨fun name => ?_, fun name => ?_, fun identity => ?_, ?_, Report.filter_contributions hsigned⟩
  · rw [passage.failed]
    exact htook.failed name
  · rw [passage.unavailable, ← Keyed.holds_iff]
    exact htook.unavailable name
  · rw [passage.issues, exists_finalIssues, husable]
    constructor
    · rintro ⟨hscope, result, hresult, issue, hissue, rfl, hopen⟩
      refine ⟨result, hresult, issue, hissue, rfl, hscope, ?_⟩
      rw [← covered_iff_suppressed, hopen]
      exact Bool.false_ne_true
    · rintro ⟨result, hresult, issue, hissue, rfl, hscope, hopen⟩
      refine ⟨hscope, result, hresult, issue, hissue, rfl, ?_⟩
      rw [← covered_iff_suppressed] at hopen
      exact Bool.eq_false_iff.mpr hopen
  · rw [hcount, husable]

/-- **A report is an exact account of its run.**  The outcomes that count are those of the fix round and those of
the check batches whose budget was not overrun. -/
theorem results_accounted (hsigned : ∀ engine ∈ runner.engines, engine.Signs)
    (hrun : (runner.run request).on world = (.ok report, after)) :
    ∃ (passage : Passage runner request world report) (round : FixRound τ) (rested : World τ σ)
      (calls : List (Batch τ × List (Outcome τ))),
      (runner.fixRound passage.setup.files request.critical passage.setup.phaseToken).on passage.watching =
        (.ok round, rested) ∧
      (runner.watchedChecks request passage.setup passage.entered).on (passage.checking.watched []) =
        (.ok passage.batches, passage.checked.watched calls) ∧
      world.disk.normalizeAll request.files = .ok passage.setup.files ∧
      passage.finished.disk.normalizeAll passage.setup.files = .ok passage.scope ∧
      ((∀ file ∈ passage.setup.files, passage.finished.disk.normalize file = .ok file) →
        passage.scope = passage.setup.files) ∧
      report.Accounts passage.scope (round.outcomes ++ (kept passage.batches calls).flatMap (·.2)) := by
  obtain ⟨passage, done, -, -, -, hconclude⟩ := Runner.exists_concluded hrun
  obtain ⟨round, rested, events, hround, -, -, hfixed⟩ := Runner.fixFirst_round passage.fixes
  obtain ⟨calls, hcalls, hkept⟩ := passage.exists_calls
  obtain ⟨hfiles, -⟩ := Runner.setUp_steps passage.setUp
  have hflat : passage.batches.results.flatten = (kept passage.batches calls).flatMap (·.2) := by
    rw [hkept, List.flatMap_def]
  have htook := passage.took hfixed
  have hnames : ∀ outcome ∈ round.outcomes ++ passage.batches.results.flatten, ∀ result,
      outcome.verdict = .result result → result.engine = outcome.engine := by
    intro outcome hin result hresult
    obtain ⟨job, hengine, hyields⟩ := passage.yields hround hin
    rw [hyields.engine]
    exact hyields.signed (hsigned job.engine hengine) result hresult
  refine ⟨passage, round, rested, calls, hround, hcalls, hfiles, passage.inScope, fun hnormal => ?_, ?_⟩
  · exact Disk.normalizeAll_of_fixed passage.inScope (nodup_normalizeAll hfiles) hnormal
  · rw [← hflat]
    exact passage.accounts htook hnames (Runner.conclude_fixedCount hconclude)

/-! ### A run with a failing engine -/

/-- A linter that fixes two things, and has no success when it is asked to look at files. -/
def faltering : Engine Rat Unit where
  name := "lint"
  kind := .lint
  canFix := true
  precise := false
  prepare _ := pure ()
  reset := pure ()
  check _ _ := pure (.result ⟨"lint", .lint, .check, false, [], 0, none, 0, [], [], false⟩)
  fix _ _ := pure (.result ⟨"lint", .lint, .fix, true, [], 0, none, 2, [], [], false⟩)

/-- The formatter, and that linter after it. -/
def formatThenFalter : Runner Rat Unit := { formatThenRewrite with engines := [formatter, faltering] }

theorem signs_formatThenFalter : ∀ engine ∈ formatThenFalter.engines, engine.Signs := by
  intro engine hin pass files token world result h
  simp only [formatThenFalter, List.mem_cons, List.not_mem_nil, or_false] at hin
  rcases hin with rfl | rfl
  · cases pass <;> (cases h; rfl)
  · cases pass <;> (cases h; rfl)

-- What names hold, and what a disk holds, is evaluated by equations: unfolding texts is slow.
attribute [local irreducible] Path.hasNul Disk.isDirectory Disk.present

/-- What the linter fixed does not count, and what the formatter fixed does. -/
theorem results_accounted_faltering :
    ∃ report after outcomes, (formatThenFalter.run oneFile).on (World.still (.empty [] []) ()) = (.ok report, after) ∧
      (∃ outcome ∈ outcomes, outcome.engine = "lint" ∧ outcome.Fails) ∧
      (report.contributions outcomes).filter (fun result => result.engine == "lint") = [] ∧
      report.fixedCount = 1 ∧ ((report.contributions outcomes).map (·.fixedCount)).sum = 1 := by
  have hevaluated : ((formatThenFalter.run oneFile).on (World.still (.empty [] []) ())).1.toOption.map
      (fun report => (report.failed.holds "lint", report.fixedCount)) = some (true, 1) := by
    cbv
  rcases hrun : (formatThenFalter.run oneFile).on (World.still (.empty [] []) ()) with ⟨outcome, after⟩
  rw [hrun] at hevaluated
  cases outcome with
  | error fault => cases hevaluated
  | ok report =>
      obtain ⟨hfailed, hcount⟩ := Prod.mk.inj (Option.some.inj hevaluated)
      obtain ⟨passage, round, rested, calls, -, -, -, -, -, haccounts⟩ := results_accounted signs_formatThenFalter hrun
      have hisolated := haccounts.isolated "lint"
      rw [hfailed, if_pos rfl] at hisolated
      exact ⟨report, after, _, rfl, (haccounts.failed "lint").mp hfailed, hisolated, hcount,
        haccounts.fixedCount.symm.trans hcount⟩

/-! ### A file that is moved -/

/-- The results in a journal, in their order. -/
def givenIn {τ : Type} (journal : List (Event τ)) : List (EngineResult τ) :=
  journal.filterMap fun
    | .completed outcome => outcome.result?
    | _ => none

/-- An empty disk on which links can be followed. -/
def Disk.linkable : Disk := { Disk.empty [] [] with nesting := 40 }

/-- What a fixer says after it moved its file, by the file that it names as modified. -/
def moved (file : String) : EngineResult Rat := ⟨"lint", .lint, .fix, true, [], 0, none, 1, [file], [], false⟩

/-- What it finds in the file afterwards. -/
def foundInMoved : EngineResult Rat := ⟨"lint", .lint, .check, true, [untidy], 0, none, 0, [], [], false⟩

/-- A fixer that moves its file, leaves a link in its place, and names one file as modified. -/
def mover (file : String) : Engine Rat Unit := { rewriter with
  check := fun _ _ => pure (.result foundInMoved)
  fix := fun _ _ => do
    modify fun world => { world with disk := { world.disk with links := world.disk.links.put "/a" "c" } }
    return .result (moved file) }

/-- That fixer alone. -/
def moveThenCheck : Runner Rat Unit := { formatThenRewrite with engines := [mover "/a"] }

/-- That fixer is asked again about the file that the link leads to, and what it finds in the file of the request comes
to nothing. -/
theorem moveThenCheck_run :
    ∃ report after, (moveThenCheck.run oneFile).on (World.still .linkable ()) = (.ok report, after) ∧
      Disk.linkable.normalizeAll oneFile.files = .ok ["/a"] ∧
      (report.success = true ∧ report.failed = [] ∧ report.unavailable = [] ∧ report.omitted = [] ∧ report.issues = []) ∧
      givenIn after.journal = [moved "/a", foundInMoved] ∧
      callsIn after.journal = [⟨"lint", .fix, ["/a"]⟩, ⟨"lint", .check, ["/c"]⟩] := by
  have hinput : Disk.linkable.normalizeAll oneFile.files = .ok ["/a"] := by
    cbv
  have hevaluated : (fun run => (run.1.toOption.map fun report =>
        (report.success, report.failed, report.unavailable, report.omitted, report.issues),
        givenIn run.2.journal, callsIn run.2.journal))
      ((moveThenCheck.run oneFile).on (World.still .linkable ())) =
        (some (true, [], [], [], []), [moved "/a", foundInMoved], [⟨"lint", .fix, ["/a"]⟩, ⟨"lint", .check, ["/c"]⟩]) := by
    cbv
  rcases hrun : (moveThenCheck.run oneFile).on (World.still .linkable ()) with ⟨outcome, after⟩
  rw [hrun] at hevaluated
  obtain ⟨houtcome, hjournal⟩ := Prod.mk.inj hevaluated
  obtain ⟨hgiven, hcalls⟩ := Prod.mk.inj hjournal
  cases outcome with
  | error fault => cases houtcome
  | ok report =>
      have hfields := Option.some.inj houtcome
      simp only [Prod.mk.injEq] at hfields
      exact ⟨report, after, rfl, hinput, hfields, hgiven, hcalls⟩

/-- The files of a run are normalised again for its report: a finding about the file of the request, in a result that
stands, is dropped when that file was moved and a link left in its place.  No fix record hides it. -/
theorem moved_finding_dropped :
    ∃ report after, (moveThenCheck.run oneFile).on (World.still .linkable ()) = (.ok report, after) ∧
      Disk.linkable.normalizeAll oneFile.files = .ok [untidy.file] ∧
      givenIn after.journal = [moved "/a", foundInMoved] ∧ untidy ∈ foundInMoved.issues ∧
      (∀ result ∈ givenIn after.journal, result.fixed = []) ∧
      report.success = true ∧ report.failed = [] ∧ report.issues = [] := by
  obtain ⟨report, after, hrun, hinput, ⟨hsuccess, hfailed, -, -, hissues⟩, hgiven, -⟩ := moveThenCheck_run
  refine ⟨report, after, hrun, hinput, hgiven, List.mem_singleton.mpr rfl, ?_, hsuccess, hfailed, hissues⟩
  rw [hgiven]
  decide

end FixFirst
