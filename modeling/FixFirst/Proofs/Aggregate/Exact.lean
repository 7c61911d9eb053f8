import FixFirst.Proofs.Aggregate
import FixFirst.Proofs.Aggregate.Stages

/-!
# What a report holds

A report holds the issues that are in scope and not suppressed, of every identity the first one, in
order, and counts them.  It depends on the order of the results no further than that: where issues of
one identity are equal, and no rule is empty, the results may come in any order.

## Main definitions

* `reported` — the issues of results, each with its result.
* `Eligible` — whether an issue may be in the report.
* `candidates` — the issues that may be in the report, in order.

## Main statements

* `mem_finalIssues_iff` — which issues are left.
* `aggregate_exact` — the issues, statistics and success of a report.
* `aggregate_perm` — the report of results in another order.
-/

namespace FixFirst

variable {τ : Type}

/-! ### Candidates -/

/-- The issues of results, each with the result that carries it, in order. -/
def reported (results : List (EngineResult τ)) : List (EngineResult τ × Issue) :=
  results.flatMap fun result => result.issues.map fun issue => (result, issue)

/-- Whether an issue of a result may be in the report: its file is in scope, if there is one, and no fix
record suppresses it. -/
def Eligible (results : List (EngineResult τ)) (scope : Option (List String)) (entry : EngineResult τ × Issue) : Prop :=
  (∀ files, scope = some files → entry.2.file ∈ files) ∧ ¬ Suppressed results entry.1 entry.2

/-- Whether an issue of a result may be in the report, as a test. -/
def eligible (results : List (EngineResult τ)) (scope : Option (List String)) (entry : EngineResult τ × Issue) : Bool :=
  (scope.all fun files => files.contains entry.2.file) && !covered results entry.1 entry.2

theorem eligible_iff (results : List (EngineResult τ)) (scope : Option (List String)) (entry : EngineResult τ × Issue) :
    eligible results scope entry = true ↔ Eligible results scope entry := by
  unfold eligible Eligible
  rw [Bool.and_eq_true, ← covered_iff_suppressed]
  refine and_congr ?_ (by simp)
  cases scope <;> simp

/-- The issues that may be in the report, in order. -/
def candidates (results : List (EngineResult τ)) (scope : Option (List String)) : List Issue :=
  ((reported results).filter (eligible results scope)).map (·.2)

theorem finalIssues_eq (results : List (EngineResult τ)) (scope : Option (List String)) :
    finalIssues results scope = sortIssues (deduplicate (candidates results scope)) := by
  have hsurviving : surviving results =
      ((reported results).filter fun entry => !covered results entry.1 entry.2).map (·.2) := by
    unfold surviving reported
    rw [List.filter_flatMap, List.map_flatMap]
    refine List.flatMap_congr fun result _ => ?_
    rw [List.filter_map, List.map_map]
    exact (List.map_id _).symm
  unfold finalIssues candidates
  simp only
  refine congrArg (fun issues => sortIssues (deduplicate issues)) ?_
  cases scope with
  | none => exact hsurviving
  | some files =>
      simp only
      rw [hsurviving, List.filter_map, List.filter_filter]
      rfl

theorem mem_candidates (results : List (EngineResult τ)) (scope : Option (List String)) (issue : Issue) :
    issue ∈ candidates results scope ↔ ∃ result ∈ results, issue ∈ result.issues ∧ Eligible results scope (result, issue) := by
  simp only [candidates, reported, List.mem_map, List.mem_filter, List.mem_flatMap, eligible_iff]
  constructor
  · rintro ⟨entry, ⟨⟨result, hresult, own, hissue, rfl⟩, heligible⟩, rfl⟩
    exact ⟨result, hresult, hissue, heligible⟩
  · rintro ⟨result, hresult, hissue, heligible⟩
    exact ⟨(result, issue), ⟨⟨result, hresult, issue, hissue, rfl⟩, heligible⟩, rfl⟩

/-! ### What is left -/

/-- Left are the issues that may be in the report and of whose identity there was none before. -/
theorem mem_finalIssues_iff (results : List (EngineResult τ)) (scope : Option (List String)) (issue : Issue) :
    issue ∈ finalIssues results scope ↔
      ∃ result before after, reported results = before ++ (result, issue) :: after ∧
        Eligible results scope (result, issue) ∧
        ∀ earlier ∈ before, Eligible results scope earlier → earlier.2.identity ≠ issue.identity := by
  rw [finalIssues_eq, sortIssues, List.mem_mergeSort, mem_deduplicate, candidates, List.find?_map, List.find?_filter,
    Option.map_eq_some_iff]
  simp only [List.find?_eq_some_iff_append, Function.comp_apply, Bool.not_eq_true', decide_eq_true_eq,
    decide_eq_false_iff_not, not_and, eligible_iff, beq_iff_eq]
  constructor
  · rintro ⟨⟨result, own⟩, ⟨⟨heligible, -⟩, before, after, hall, hnone⟩, rfl⟩
    exact ⟨result, before, after, hall, heligible, hnone⟩
  · rintro ⟨result, before, after, hall, heligible, hnone⟩
    exact ⟨(result, issue), ⟨⟨heligible, rfl⟩, before, after, hall, hnone⟩, rfl⟩

theorem nodup_finalIssues (results : List (EngineResult τ)) (scope : Option (List String)) :
    ((finalIssues results scope).map Issue.identity).Nodup := by
  rw [finalIssues_eq]
  exact ((List.mergeSort_perm _ _).map Issue.identity).nodup_iff.mpr (nodup_deduplicate _)

theorem pairwise_finalIssues (results : List (EngineResult τ)) (scope : Option (List String)) :
    (finalIssues results scope).Pairwise fun first second => first.sortKey ≤ second.sortKey := by
  rw [finalIssues_eq]
  exact pairwise_sortIssues _

/-- The identities that are left are those of the candidates. -/
theorem exists_identity_finalIssues (results : List (EngineResult τ)) (scope : Option (List String))
    (identity : Identity) :
    (∃ issue ∈ finalIssues results scope, issue.identity = identity) ↔
      ∃ issue ∈ candidates results scope, issue.identity = identity := by
  rw [finalIssues_eq]
  simp only [sortIssues, List.mem_mergeSort]
  exact exists_deduplicate _ identity

/-- Issues that are left stay as they are when they are reported by one result that fixed nothing. -/
theorem finalIssues_again (results : List (EngineResult τ)) (scope : Option (List String)) {again : EngineResult τ}
    {wider : Option (List String)} (hfixed : again.fixed = []) (hissues : again.issues = finalIssues results scope)
    (hscope : ∀ files, wider = some files → ∀ issue ∈ finalIssues results scope, issue.file ∈ files) :
    finalIssues [again] wider = finalIssues results scope := by
  have hall : candidates [again] wider = finalIssues results scope := by
    have hreported : reported [again] = (finalIssues results scope).map fun issue => (again, issue) := by
      simp [reported, hissues]
    unfold candidates
    rw [hreported, List.filter_eq_self.mpr, List.map_map]
    · exact List.map_id _
    · intro entry hentry
      obtain ⟨issue, hissue, rfl⟩ := List.mem_map.mp hentry
      refine (eligible_iff _ _ _).mpr ⟨fun files hfiles => hscope files hfiles issue hissue, ?_⟩
      rintro ⟨other, hother, -, entry, hentry, -⟩
      rw [List.mem_singleton.mp hother, hfixed] at hentry
      cases hentry
  rw [finalIssues_eq, hall, deduplicate_of_nodup (nodup_finalIssues results scope),
    sortIssues_of_pairwise (pairwise_finalIssues results scope)]

/-! ### The report -/

/-- Aggregation comes to a report exactly if the files of its scope can be normalised. -/
theorem aggregate_eq (disk : Disk) (results : List (EngineResult τ)) (framing : Framing τ) :
    aggregate disk results framing = (disk.scope framing.scope).map fun scope => reportOn scope results framing := by
  unfold aggregate
  cases disk.scope framing.scope <;> rfl

/-- **What a report holds.**  There is a report exactly if the files of the scope can be normalised, and that is what
being in scope is about.  Of every identity that some issue in scope carries which is not suppressed, the
report holds one issue, which is the first such issue, and no other issue.  They are sorted, and the
statistics count them by kind, severity and file.  The report is a success when none of them is as severe
as the threshold and no result was cancelled.  When its issues are reported by one check that fixed
nothing, the report on that has the same issues and statistics. -/
theorem aggregate_exact (disk : Disk) (results : List (EngineResult τ)) (framing : Framing τ) :
    (∀ fault, disk.scope framing.scope = .error fault → aggregate disk results framing = .error fault) ∧
    ∀ scope, disk.scope framing.scope = .ok scope → ∃ report, aggregate disk results framing = .ok report ∧
      (∀ issue, issue ∈ report.issues ↔
        ∃ result before after, reported results = before ++ (result, issue) :: after ∧
          Eligible results scope (result, issue) ∧
          ∀ earlier ∈ before, Eligible results scope earlier → earlier.2.identity ≠ issue.identity) ∧
      (∀ identity, (∃ issue ∈ report.issues, issue.identity = identity) ↔
        ∃ result ∈ results, ∃ issue ∈ result.issues, Eligible results scope (result, issue) ∧
          issue.identity = identity) ∧
      (report.issues.map Issue.identity).Nodup ∧
      (report.issues.Pairwise fun first second => first.sortKey ≤ second.sortKey) ∧
      report.statistics.total = report.issues.length ∧
      Counts report.statistics.byKind (report.issues.map (·.kind.name)) ∧
      Counts report.statistics.bySeverity (report.issues.map (·.severity.name)) ∧
      Counts report.statistics.byFile (report.issues.map (·.file)) ∧
      (report.success = true ↔
        (∀ issue ∈ report.issues, framing.failOn.rank < issue.severity.rank) ∧
          ∀ result ∈ results, result.cancelled = false) ∧
      ∀ (again : EngineResult τ) (reframed : Framing τ), reframed.scope = none ∨ reframed.scope = framing.scope →
        ∃ second, aggregate disk [{ again with pass := .check, fixed := [], issues := report.issues }] reframed =
            .ok second ∧ second.issues = report.issues ∧ second.statistics = report.statistics := by
  refine ⟨fun fault hfault => by rw [aggregate_eq, hfault]; rfl, fun scope hok => ?_⟩
  refine ⟨reportOn scope results framing, by rw [aggregate_eq, hok]; rfl, mem_finalIssues_iff results scope,
    fun identity => ?_, nodup_finalIssues results scope, pairwise_finalIssues results scope, rfl, counts_tally _,
    counts_tally _, counts_tally _, ?_, fun again reframed hscope => ?_⟩
  · refine (exists_identity_finalIssues results scope identity).trans ?_
    simp only [mem_candidates]
    constructor
    · rintro ⟨issue, ⟨result, hresult, hissue, heligible⟩, hidentity⟩
      exact ⟨result, hresult, issue, hissue, heligible, hidentity⟩
    · rintro ⟨result, hresult, issue, hissue, heligible, hidentity⟩
      exact ⟨issue, ⟨result, hresult, hissue, heligible⟩, hidentity⟩
  · simp [reportOn, Severity.atLeast]
  · obtain ⟨wider, hwider, hinside⟩ : ∃ wider, disk.scope reframed.scope = .ok wider ∧
        ∀ files, wider = some files → scope = some files := by
      rcases hscope with hnone | hsame
      · exact ⟨none, by rw [hnone]; rfl, fun files hfiles => by cases hfiles⟩
      · exact ⟨scope, by rw [hsame, hok], fun files hfiles => hfiles⟩
    have hissues : finalIssues [{ again with pass := .check, fixed := [], issues := finalIssues results scope }] wider =
        finalIssues results scope := by
      refine finalIssues_again results scope rfl rfl fun files hfiles issue hissue => ?_
      obtain ⟨result, before, after, -, ⟨hfile, -⟩, -⟩ := (mem_finalIssues_iff results scope issue).mp hissue
      exact hfile files (hinside files hfiles)
    exact ⟨_, by rw [aggregate_eq, hwider]; rfl, hissues, congrArg statistics hissues⟩

namespace Turned

/-- What a linter finds. -/
def unusedImport : Issue := ⟨.lint, .warning, "/a", 3, 1, none, none, some "F401", "unused", none, none⟩

/-- What a type checker finds in the same line. -/
def wrongType : Issue := ⟨.typeCheck, .error, "/a", 3, 1, none, none, some "arg-type", "wrong", none, none⟩

/-- A linter that was cancelled while it fixed a file, one that checked the file, and a type checker. -/
def results : List (EngineResult Rat) :=
  [⟨"ruff", .lint, .fix, false, [unusedImport], 0, none, 1, ["/a"], [⟨"/a", none⟩], true⟩,
    ⟨"ruff", .lint, .check, true, [unusedImport, unusedImport], 0, none, 0, [], [], false⟩,
    ⟨"mypy", .typeCheck, .check, true, [wrongType], 0, none, 0, [], [], false⟩]

/-- All files are in scope, and warnings make the run fail. -/
def framing : Framing Rat := ⟨⟨0, none⟩, none, none, .warning⟩

example : (aggregate (.empty [] []) results framing).toOption.map (·.issues) = some [wrongType, unusedImport] := by
  cbv

end Turned

/-! ### The order of results -/

theorem suppressed_perm {results others : List (EngineResult τ)} (h : results.Perm others) (result : EngineResult τ)
    (issue : Issue) : Suppressed results result issue ↔ Suppressed others result issue := by
  unfold Suppressed
  simp only [h.mem_iff]

theorem mem_candidates_perm {results others : List (EngineResult τ)} (h : results.Perm others)
    (scope : Option (List String)) (issue : Issue) :
    issue ∈ candidates results scope ↔ issue ∈ candidates others scope := by
  simp only [mem_candidates, Eligible, suppressed_perm h, h.mem_iff]

/-- Where issues of one identity are equal, all issues stay. -/
theorem mem_deduplicate_of_twins {issues : List Issue}
    (htwins : ∀ first ∈ issues, ∀ second ∈ issues, first.identity = second.identity → first = second) (issue : Issue) :
    issue ∈ deduplicate issues ↔ issue ∈ issues := by
  rw [mem_deduplicate]
  constructor
  · exact List.mem_of_find?_eq_some
  · intro hin
    cases hfind : issues.find? (·.identity == issue.identity) with
    | none => exact absurd (beq_self_eq_true issue.identity) (List.find?_eq_none.mp hfind issue hin)
    | some twin =>
        have hsame : twin.identity = issue.identity := by simpa using List.find?_some hfind
        rw [htwins twin (List.mem_of_find?_eq_some hfind) issue hin hsame]

/-- Issues of which no two have one identity and different contents, and without empty rules, are left in
the same order from whatever order they come in. -/
theorem sort_deduplicate_eq {issues others : List Issue} (hmem : ∀ issue, issue ∈ issues ↔ issue ∈ others)
    (htwins : ∀ first ∈ issues, ∀ second ∈ issues, first.identity = second.identity → first = second)
    (hrules : ∀ issue ∈ issues, issue.rule ≠ some "") :
    sortIssues (deduplicate issues) = sortIssues (deduplicate others) := by
  have hkept := mem_deduplicate_of_twins htwins
  have hkept' : ∀ issue, issue ∈ deduplicate others ↔ issue ∈ others :=
    mem_deduplicate_of_twins fun first hfirst second hsecond =>
      htwins first ((hmem first).mpr hfirst) second ((hmem second).mpr hsecond)
  refine sortIssues_eq_of_perm ?_ fun first hfirst second hsecond hkey => ?_
  · refine (List.perm_ext_iff_of_nodup (nodup_deduplicate issues).of_map (nodup_deduplicate others).of_map).mpr
      fun issue => ?_
    rw [hkept, hkept', hmem]
  · rw [hkept] at hfirst hsecond
    exact htwins first hfirst second hsecond
      (Issue.identity_eq_of_sortKey hkey (hrules first hfirst) (hrules second hsecond))

/-- **The order of results does not matter.**  Results in another order fail to give a report for the same reason, or
give a report with the same identities, the same count of what was fixed, and cancelled or not alike.  Where issues of
one identity are equal and no rule is the empty text, it has the same issues in the same order, the same statistics and
the same success. -/
theorem aggregate_perm (disk : Disk) {results others : List (EngineResult τ)} (h : results.Perm others)
    {framing reframed : Framing τ} (hscope : reframed.scope = framing.scope) (hfailOn : reframed.failOn = framing.failOn) :
    (∃ fault, aggregate disk results framing = .error fault ∧ aggregate disk others reframed = .error fault) ∨
    ∃ report other, aggregate disk results framing = .ok report ∧ aggregate disk others reframed = .ok other ∧
      (∀ identity, (∃ issue ∈ report.issues, issue.identity = identity) ↔
        ∃ issue ∈ other.issues, issue.identity = identity) ∧
      report.fixedCount = other.fixedCount ∧ report.cancelled = other.cancelled ∧
      ((∀ first ∈ results.flatMap (·.issues), ∀ second ∈ results.flatMap (·.issues),
          first.identity = second.identity → first = second) →
        (∀ issue ∈ results.flatMap (·.issues), issue.rule ≠ some "") →
        report.issues = other.issues ∧ report.statistics = other.statistics ∧ report.success = other.success) := by
  rw [aggregate_eq, aggregate_eq, hscope]
  cases disk.scope framing.scope with
  | error fault => exact Or.inl ⟨fault, rfl, rfl⟩
  | ok scope =>
      have hcandidates := mem_candidates_perm h scope
      have hcancelled : results.any (·.cancelled) = others.any (·.cancelled) := h.any_eq
      refine Or.inr ⟨reportOn scope results framing, reportOn scope others reframed, rfl, rfl, fun identity => ?_,
        (h.map _).sum_eq, hcancelled, fun htwins hrules => ?_⟩
      · refine (exists_identity_finalIssues results scope identity).trans ?_
        refine Iff.trans ?_ (exists_identity_finalIssues others scope identity).symm
        simp only [hcandidates]
      · have hreported : ∀ issue ∈ candidates results scope, issue ∈ results.flatMap (·.issues) := by
          intro issue hin
          obtain ⟨result, hresult, hissue, -⟩ := (mem_candidates results scope issue).mp hin
          exact List.mem_flatMap.mpr ⟨result, hresult, hissue⟩
        have hissues : finalIssues results scope = finalIssues others scope := by
          rw [finalIssues_eq, finalIssues_eq]
          exact sort_deduplicate_eq hcandidates
            (fun first hfirst second hsecond => htwins first (hreported first hfirst) second (hreported second hsecond))
            fun issue hin => hrules issue (hreported issue hin)
        exact ⟨hissues, congrArg statistics hissues, by simp only [reportOn, hissues, hcancelled, hfailOn]⟩

namespace Turned

/-- The results from the last to the first give the same issues. -/
theorem aggregate_perm_reversed :
    ∃ report other, aggregate (.empty [] []) results framing = .ok report ∧
      aggregate (.empty [] []) results.reverse framing = .ok other ∧ report.issues = other.issues ∧
      report.statistics = other.statistics ∧ report.success = other.success := by
  have hscope : framing.scope = none := rfl
  rcases aggregate_perm (.empty [] []) (List.reverse_perm results).symm (rfl : framing.scope = framing.scope) rfl with
    ⟨fault, hfault, -⟩ | ⟨report, other, hreport, hother, -, -, -, hsame⟩
  · rw [aggregate_eq, hscope] at hfault
    cases hfault
  · exact ⟨report, other, hreport, hother, hsame (by decide) (by decide)⟩

end Turned

end FixFirst
