import Mathlib
import FixFirst.Aggregate

/-!
# What aggregation keeps

Aggregation merges the results of one engine and pass, drops the issues that a fix record covers,
and keeps one issue of every identity.  This module says which identities are left.

## Main definitions

* `RuleFixed` — an engine has a fix record for the rule of an issue in its file.
* `Suppressed` — an engine has a fix record that an issue falls under.

## Main statements

* `exists_mergeResults` — what holds of a merged result held of one of its parts.
* `sum_fixedCount_mergeResults` — merging keeps the count of what was fixed.
* `mem_surviving_mergeResults` — merging does not change which issues survive.
* `exists_finalIssues` — the identities that are left.
* `covered_check` — after a check, only records with a rule cover an issue.
-/

namespace FixFirst

variable {τ : Type}

/-! ### Merging -/

theorem sameCall_iff (first second : EngineResult τ) :
    first.sameCall second = true ↔ first.engine = second.engine ∧ first.pass = second.pass := by
  simp [EngineResult.sameCall]

section

variable [Quantity τ]

theorem exists_mergeInto {holds : EngineResult τ → Prop}
    (hmerge : ∀ first second, first.sameCall second = true →
      (holds (first.merge second) ↔ holds first ∨ holds second))
    (results : List (EngineResult τ)) (result : EngineResult τ) :
    (∃ merged ∈ mergeInto results result, holds merged) ↔ (∃ known ∈ results, holds known) ∨ holds result := by
  induction results with
  | nil => simp [mergeInto]
  | cons first rest ih =>
      unfold mergeInto
      by_cases hsame : first.sameCall result = true
      · simp only [hsame, if_true, List.exists_mem_cons_iff, hmerge first result hsame]
        constructor
        · rintro ((hf | hr) | hrest)
          · exact Or.inl (Or.inl hf)
          · exact Or.inr hr
          · exact Or.inl (Or.inr hrest)
        · rintro ((hf | hrest) | hr)
          · exact Or.inl (Or.inl hf)
          · exact Or.inr hrest
          · exact Or.inl (Or.inr hr)
      · simp only [hsame, Bool.false_eq_true, if_false, List.exists_mem_cons_iff, ih, or_assoc]

/-- What holds of a merged result as soon as it holds of a part holds of some merged result exactly
when it holds of some result. -/
theorem exists_mergeResults {holds : EngineResult τ → Prop}
    (hmerge : ∀ first second, first.sameCall second = true →
      (holds (first.merge second) ↔ holds first ∨ holds second))
    (results : List (EngineResult τ)) :
    (∃ merged ∈ mergeResults results, holds merged) ↔ ∃ result ∈ results, holds result := by
  have hfold : ∀ merged : List (EngineResult τ), (∃ known ∈ results.foldl mergeInto merged, holds known) ↔
      (∃ known ∈ merged, holds known) ∨ ∃ result ∈ results, holds result := by
    induction results with
    | nil => simp
    | cons first rest ih =>
        intro merged
        rw [List.foldl_cons, ih, exists_mergeInto hmerge, List.exists_mem_cons_iff, or_assoc]
  rw [mergeResults, hfold]
  simp

theorem any_cancelled_mergeResults (results : List (EngineResult τ)) :
    (mergeResults results).any (·.cancelled) = true ↔ ∃ result ∈ results, result.cancelled = true := by
  rw [List.any_eq_true]
  refine exists_mergeResults (fun first second _ => ?_) results
  simp [EngineResult.merge]

theorem sum_fixedCount_mergeInto (results : List (EngineResult τ)) (result : EngineResult τ) :
    ((mergeInto results result).map (·.fixedCount)).sum = (results.map (·.fixedCount)).sum + result.fixedCount := by
  induction results with
  | nil => simp [mergeInto]
  | cons first rest ih =>
      unfold mergeInto
      split
      · simp only [EngineResult.merge, List.map_cons, List.sum_cons]
        omega
      · simp only [List.map_cons, List.sum_cons, ih]
        omega

/-- Merging keeps the count of what was fixed. -/
theorem sum_fixedCount_mergeResults (results : List (EngineResult τ)) :
    ((mergeResults results).map (·.fixedCount)).sum = (results.map (·.fixedCount)).sum := by
  have hfold : ∀ merged : List (EngineResult τ), ((results.foldl mergeInto merged).map (·.fixedCount)).sum =
      (merged.map (·.fixedCount)).sum + (results.map (·.fixedCount)).sum := by
    induction results with
    | nil => simp
    | cons first rest ih =>
        intro merged
        rw [List.foldl_cons, ih, sum_fixedCount_mergeInto, List.map_cons, List.sum_cons]
        omega
  rw [mergeResults, hfold]
  simp

end

/-! ### Cover -/

theorem covered_iff (results : List (EngineResult τ)) (result : EngineResult τ) (issue : Issue) :
    covered results result issue = true ↔
      ∃ other ∈ results, other.engine = result.engine ∧
        ∃ entry ∈ other.fixed, entry.covers result.pass issue = true := by
  simp [covered]

/-- Whether a fix record of an engine names the rule of an issue and its file. -/
def RuleFixed (results : List (EngineResult τ)) (engine : String) (issue : Issue) : Prop :=
  ∃ other ∈ results, other.engine = engine ∧
    ∃ entry ∈ other.fixed, entry.file = issue.file ∧ entry.rule ≠ none ∧ entry.rule = issue.rule

/-- Whether a fix record of the engine of a result suppresses an issue: one for its rule and file, or, for what
was reported while fixing, one for the whole file. -/
def Suppressed (results : List (EngineResult τ)) (result : EngineResult τ) (issue : Issue) : Prop :=
  ∃ other ∈ results, other.engine = result.engine ∧ ∃ entry ∈ other.fixed, entry.file = issue.file ∧
    ((entry.rule = none ∧ result.pass = .fix) ∨ (entry.rule ≠ none ∧ entry.rule = issue.rule))

theorem covered_iff_suppressed (results : List (EngineResult τ)) (result : EngineResult τ) (issue : Issue) :
    covered results result issue = true ↔ Suppressed results result issue := by
  have hentry : ∀ entry : FixRecord, entry.covers result.pass issue = true ↔ entry.file = issue.file ∧
      ((entry.rule = none ∧ result.pass = .fix) ∨ (entry.rule ≠ none ∧ entry.rule = issue.rule)) := by
    intro entry
    cases hr : entry.rule with
    | none => simp [FixRecord.covers, hr]
    | some rule => simp [FixRecord.covers, hr, @eq_comm _ issue.rule]
  simp only [covered_iff, Suppressed, hentry]

/-- An issue that was reported while checking is covered by records with its rule only. -/
theorem covered_check {results : List (EngineResult τ)} {result : EngineResult τ} {issue : Issue}
    (hpass : result.pass = .check) :
    covered results result issue = true ↔ RuleFixed results result.engine issue := by
  have hentry : ∀ entry : FixRecord, entry.covers result.pass issue = true ↔
      entry.file = issue.file ∧ entry.rule ≠ none ∧ entry.rule = issue.rule := by
    intro entry
    cases hr : entry.rule with
    | none => simp [FixRecord.covers, hr, hpass]
    | some rule => simp [FixRecord.covers, hr, @eq_comm _ issue.rule]
  simp only [covered_iff, RuleFixed, hentry]

/-- Which issues of an identity are covered depends on engine and pass only. -/
theorem covered_congr {results : List (EngineResult τ)} {first second : EngineResult τ} {issue twin : Issue}
    (hengine : first.engine = second.engine) (hpass : first.pass = second.pass)
    (hidentity : issue.identity = twin.identity) :
    covered results first issue = covered results second twin := by
  have hfile : issue.file = twin.file := congrArg Identity.file hidentity
  have hrule : issue.rule = twin.rule := congrArg Identity.rule hidentity
  simp only [covered, FixRecord.covers, hengine, hpass, hfile, hrule]

theorem mem_surviving (results : List (EngineResult τ)) (issue : Issue) :
    issue ∈ surviving results ↔
      ∃ result ∈ results, issue ∈ result.issues ∧ covered results result issue = false := by
  simp [surviving]

variable [Quantity τ]

theorem covered_mergeResults (results : List (EngineResult τ)) (result : EngineResult τ) (issue : Issue) :
    covered (mergeResults results) result issue = covered results result issue := by
  rw [Bool.eq_iff_iff, covered_iff, covered_iff]
  refine exists_mergeResults (fun first second hsame => ?_) results
  have hengine : first.engine = second.engine := ((sameCall_iff first second).mp hsame).1
  simp only [EngineResult.merge, List.mem_append, or_and_right, exists_or, hengine, and_or_left]

/-- Merging does not change which issues survive. -/
theorem mem_surviving_mergeResults (results : List (EngineResult τ)) (issue : Issue) :
    issue ∈ surviving (mergeResults results) ↔ issue ∈ surviving results := by
  simp only [mem_surviving, covered_mergeResults]
  refine exists_mergeResults (fun first second hsame => ?_) results
  obtain ⟨hengine, hpass⟩ := (sameCall_iff first second).mp hsame
  have hfirst : covered results (first.merge second) issue = covered results first issue :=
    covered_congr rfl rfl rfl
  have hsecond : covered results second issue = covered results first issue :=
    covered_congr hengine.symm hpass.symm rfl
  rw [hfirst, hsecond]
  simp only [EngineResult.merge, List.mem_append, or_and_right]

/-! ### One issue per identity -/

theorem foldl_deduplicate (issues kept : List Issue) (identity : Identity) :
    (∃ known ∈ issues.foldl (fun kept issue =>
        if kept.any fun known => known.identity == issue.identity then kept else kept ++ [issue]) kept,
      known.identity = identity) ↔
    (∃ known ∈ kept, known.identity = identity) ∨ ∃ issue ∈ issues, issue.identity = identity := by
  induction issues generalizing kept with
  | nil => simp
  | cons first rest ih =>
      rw [List.foldl_cons, ih, List.exists_mem_cons_iff]
      by_cases hknown : ∃ known ∈ kept, known.identity = first.identity
      · have hany : (kept.any fun known => known.identity == first.identity) = true := by simpa using hknown
        rw [if_pos hany]
        constructor
        · rintro (hk | hr)
          · exact Or.inl hk
          · exact Or.inr (Or.inr hr)
        · rintro (hk | hf | hr)
          · exact Or.inl hk
          · exact Or.inl (hf ▸ hknown)
          · exact Or.inr hr
      · have hany : ¬ (kept.any fun known => known.identity == first.identity) = true := by simpa using hknown
        rw [if_neg hany]
        simp only [List.mem_append, List.mem_singleton, or_and_right, exists_or, exists_eq_left, or_assoc]

/-- Of every identity one issue stays. -/
theorem exists_deduplicate (issues : List Issue) (identity : Identity) :
    (∃ known ∈ deduplicate issues, known.identity = identity) ↔ ∃ issue ∈ issues, issue.identity = identity := by
  rw [deduplicate, foldl_deduplicate]
  simp

/-- The identities that are left in the issues of a scope: one of its issues is not covered. -/
theorem exists_finalIssues (results : List (EngineResult τ)) (scope : List String) (identity : Identity) :
    (∃ known ∈ finalIssues (mergeResults results) (some scope), known.identity = identity) ↔
      identity.file ∈ scope ∧
        ∃ result ∈ results, ∃ issue ∈ result.issues, issue.identity = identity ∧
          covered results result issue = false := by
  simp only [finalIssues, sortIssues, List.mem_mergeSort]
  rw [exists_deduplicate]
  simp only [List.mem_filter, mem_surviving_mergeResults, List.contains_eq_mem, decide_eq_true_eq]
  simp only [mem_surviving]
  constructor
  · rintro ⟨issue, ⟨⟨result, hresult, hissue, hcovered⟩, hscope⟩, rfl⟩
    exact ⟨hscope, result, hresult, issue, hissue, rfl, hcovered⟩
  · rintro ⟨hscope, result, hresult, issue, hissue, rfl, hcovered⟩
    exact ⟨issue, ⟨⟨result, hresult, hissue, hcovered⟩, hscope⟩, rfl⟩

end FixFirst
