import FixFirst.Proofs.Aggregate.Exact
import FixFirst.Proofs.Disk
import FixFirst.Proofs.Schema

/-!
# Merging the results of one call

The results of a run come in batches.  Those of one engine and pass are merged into one result before
aggregation.  A merged result pools its group: it lists what they list, one after the other, and sums up
the rest.  The report does not depend on whether results were merged, as far as it depends on no order.

## Main definitions

* `EngineResult.call` — the engine and the pass of a result.
* `ofCall` — the results of one call.
* `Pools` — whether a result pools a group of results.

## Main statements

* `calls_mergeResults`, `pools_mergeResults` — one result for each call, which pools its group.
* `mergeResults_of_nodup` — results of different calls stay as they are.
* `nodup_modified_of_read` — a result that is read names each changed file once.
* `merging_changes_nothing` — the report of merged results.
-/

namespace FixFirst

variable {τ : Type}

/-- The call that a result is of: its engine and its pass. -/
def EngineResult.call (result : EngineResult τ) : String × Pass := (result.engine, result.pass)

/-- The results of one call, in order. -/
def ofCall (results : List (EngineResult τ)) (call : String × Pass) : List (EngineResult τ) :=
  results.filter fun result => result.call = call

theorem sameCall_iff_call (first second : EngineResult τ) :
    first.sameCall second = true ↔ first.call = second.call := by
  rw [sameCall_iff, EngineResult.call, EngineResult.call, Prod.mk.injEq]

theorem ofCall_snoc_of_eq (results : List (EngineResult τ)) {result : EngineResult τ} {call : String × Pass}
    (h : result.call = call) : ofCall (results ++ [result]) call = ofCall results call ++ [result] := by
  simp [ofCall, h]

theorem ofCall_snoc_of_ne (results : List (EngineResult τ)) {result : EngineResult τ} {call : String × Pass}
    (h : result.call ≠ call) : ofCall (results ++ [result]) call = ofCall results call := by
  simp [ofCall, h]

theorem ofCall_eq_nil {results : List (EngineResult τ)} {call : String × Pass}
    (h : call ∉ results.map EngineResult.call) : ofCall results call = [] := by
  rw [ofCall, List.filter_eq_nil_iff]
  intro result hin hcall
  exact h (List.mem_map.mpr ⟨result, hin, of_decide_eq_true hcall⟩)

/-! ### First occurrences -/

theorem firsts_concat {α : Type} [BEq α] [LawfulBEq α] (items : List α) (item : α) :
    firsts (items ++ [item]) = if item ∈ items then firsts items else firsts items ++ [item] := by
  have hstep : firsts (items ++ [item]) =
      if (firsts items).contains item then firsts items else firsts items ++ [item] := by
    unfold firsts
    rw [List.foldl_append]
    rfl
  rw [hstep]
  simp

/-- First occurrences may be taken of the start of a list already. -/
theorem firsts_firsts_append (items others : List String) : firsts (firsts items ++ others) = firsts (items ++ others) := by
  induction others using List.reverseRecOn with
  | nil =>
      rw [List.append_nil, List.append_nil]
      exact Disk.firsts_of_nodup (nodup_firsts items)
  | append_singleton others last ih =>
      rw [← List.append_assoc, ← List.append_assoc, firsts_concat, firsts_concat, ih]
      simp

/-! ### One result for each call -/

/-- Whether a result pools a group of results: what they list is listed one after the other, changed files
once each if each of the group names them once, counts and durations are summed up, it is a success when all
are, and cancelled when one is.  Kind and whether anything can be fixed are those of the first. -/
structure Pools [Quantity τ] (group : List (EngineResult τ)) (merged : EngineResult τ) : Prop where
  kind : group.head?.map (·.kind) = some merged.kind
  fixable : group.head?.map (·.fixable) = some merged.fixable
  duration : ∃ first rest, group = first :: rest ∧
    merged.duration = (rest.map (·.duration)).foldl (· + ·) first.duration
  success : merged.success = group.all (·.success)
  issues : merged.issues = group.flatMap (·.issues)
  fixedCount : merged.fixedCount = (group.map (·.fixedCount)).sum
  modified : (∀ part ∈ group, part.modified.Nodup) → merged.modified = firsts (group.flatMap (·.modified))
  fixed : merged.fixed = group.flatMap (·.fixed)
  cancelled : merged.cancelled = group.any (·.cancelled)

section

variable [Quantity τ]

theorem call_merge (first second : EngineResult τ) : (first.merge second).call = first.call := rfl

/-- A result pools itself. -/
theorem pools_single (result : EngineResult τ) : Pools [result] result where
  kind := rfl
  fixable := rfl
  duration := ⟨result, [], rfl, rfl⟩
  success := by simp
  issues := by simp
  fixedCount := by simp
  modified := by
    intro h
    simpa using (Disk.firsts_of_nodup (h result List.mem_cons_self)).symm
  fixed := by simp
  cancelled := by simp

/-- Merging one more result pools one more result. -/
theorem Pools.merge {group : List (EngineResult τ)} {merged : EngineResult τ} (h : Pools group merged)
    (result : EngineResult τ) : Pools (group ++ [result]) (merged.merge result) := by
  obtain ⟨first, rest, hgroup, hduration⟩ := h.duration
  subst hgroup
  constructor
  case kind => exact h.kind
  case fixable => exact h.fixable
  case duration =>
    refine ⟨first, rest ++ [result], rfl, ?_⟩
    simp [EngineResult.merge, hduration]
  case success => simp [EngineResult.merge, h.success, Bool.and_assoc]
  case issues => simp [EngineResult.merge, h.issues]
  case fixedCount => simp [EngineResult.merge, h.fixedCount, add_assoc]
  case modified =>
    intro hparts
    have hmodified := h.modified fun part hpart => hparts part (List.mem_append_left _ hpart)
    simp only [EngineResult.merge, hmodified, List.flatMap_append, List.flatMap_singleton]
    exact firsts_firsts_append _ _
  case fixed => simp [EngineResult.merge, h.fixed]
  case cancelled => simp [EngineResult.merge, h.cancelled, Bool.or_assoc]

theorem mergeResults_concat (results : List (EngineResult τ)) (result : EngineResult τ) :
    mergeResults (results ++ [result]) = mergeInto (mergeResults results) result := by
  simp [mergeResults]

theorem calls_mergeInto (merged : List (EngineResult τ)) (result : EngineResult τ) :
    (mergeInto merged result).map EngineResult.call =
      if result.call ∈ merged.map EngineResult.call then merged.map EngineResult.call
      else merged.map EngineResult.call ++ [result.call] := by
  induction merged with
  | nil => simp [mergeInto]
  | cons first rest ih =>
      unfold mergeInto
      by_cases hsame : first.call = result.call
      · simp [(sameCall_iff_call first result).mpr hsame, call_merge, hsame]
      · have haway : first.sameCall result = false := by
          rw [← Bool.not_eq_true, sameCall_iff_call]
          exact hsame
        have haway' : result.call ≠ first.call := fun h => hsame h.symm
        simp only [haway, Bool.false_eq_true, if_false, List.map_cons, ih, List.mem_cons, haway', false_or]
        split <;> rfl

/-- The merged results are of the calls in the order of their first results, one each. -/
theorem calls_mergeResults (results : List (EngineResult τ)) :
    (mergeResults results).map EngineResult.call = firsts (results.map EngineResult.call) := by
  induction results using List.reverseRecOn with
  | nil => rfl
  | append_singleton results last ih =>
      rw [mergeResults_concat, calls_mergeInto, ih, List.map_append, List.map_singleton, firsts_concat]
      simp

theorem nodup_calls_mergeResults (results : List (EngineResult τ)) :
    ((mergeResults results).map EngineResult.call).Nodup := by
  rw [calls_mergeResults]
  exact nodup_firsts _

/-- What becomes of a result of a call that was not there: it is added at the end. -/
theorem mergeInto_of_not_mem {merged : List (EngineResult τ)} {result : EngineResult τ}
    (h : result.call ∉ merged.map EngineResult.call) : mergeInto merged result = merged ++ [result] := by
  induction merged with
  | nil => rfl
  | cons first rest ih =>
      rw [List.map_cons, List.mem_cons, not_or] at h
      have haway : first.sameCall result = false := by
        rw [← Bool.not_eq_true, sameCall_iff_call]
        exact fun hsame => h.1 hsame.symm
      unfold mergeInto
      rw [haway, ih h.2]
      rfl

/-- What is merged where every call has one result: the result of the same call and no other. -/
theorem mem_mergeInto {merged : List (EngineResult τ)} {result other : EngineResult τ}
    (hcalls : (merged.map EngineResult.call).Nodup) (hin : other ∈ mergeInto merged result) :
    (other ∈ merged ∧ other.call ≠ result.call) ∨
      (∃ known ∈ merged, known.call = result.call ∧ other = known.merge result) ∨
      (result.call ∉ merged.map EngineResult.call ∧ other = result) := by
  induction merged with
  | nil =>
      simp only [mergeInto, List.mem_singleton] at hin
      exact Or.inr (Or.inr ⟨by simp, hin⟩)
  | cons first rest ih =>
      rw [List.map_cons, List.nodup_cons] at hcalls
      unfold mergeInto at hin
      by_cases hsame : first.call = result.call
      · rw [(sameCall_iff_call first result).mpr hsame, if_pos rfl] at hin
        rcases List.mem_cons.mp hin with rfl | hrest
        · exact Or.inr (Or.inl ⟨first, List.mem_cons_self, hsame, rfl⟩)
        · refine Or.inl ⟨List.mem_cons_of_mem _ hrest, fun h => hcalls.1 ?_⟩
          exact List.mem_map.mpr ⟨other, hrest, h.trans hsame.symm⟩
      · have haway : first.sameCall result = false := by
          rw [← Bool.not_eq_true, sameCall_iff_call]
          exact hsame
        rw [haway, if_neg Bool.false_ne_true] at hin
        rcases List.mem_cons.mp hin with rfl | hrest
        · exact Or.inl ⟨List.mem_cons_self, hsame⟩
        · rcases ih hcalls.2 hrest with ⟨hkept, hother⟩ | ⟨known, hknown, hcall, hmerged⟩ | ⟨hnew, hadded⟩
          · exact Or.inl ⟨List.mem_cons_of_mem _ hkept, hother⟩
          · exact Or.inr (Or.inl ⟨known, List.mem_cons_of_mem _ hknown, hcall, hmerged⟩)
          · refine Or.inr (Or.inr ⟨?_, hadded⟩)
            rw [List.map_cons, List.mem_cons, not_or]
            exact ⟨fun h => hsame h.symm, hnew⟩

/-- Each merged result pools the results of its call. -/
theorem pools_mergeResults (results : List (EngineResult τ)) :
    ∀ merged ∈ mergeResults results, Pools (ofCall results merged.call) merged := by
  induction results using List.reverseRecOn with
  | nil =>
      intro merged hin
      cases hin
  | append_singleton results last ih =>
      intro merged hin
      rw [mergeResults_concat] at hin
      rcases mem_mergeInto (nodup_calls_mergeResults results) hin with
        ⟨hkept, hother⟩ | ⟨known, hknown, hcall, rfl⟩ | ⟨hnew, rfl⟩
      · rw [ofCall_snoc_of_ne results hother.symm]
        exact ih merged hkept
      · rw [call_merge, ofCall_snoc_of_eq results hcall.symm]
        exact (ih known hknown).merge last
      · have hnone : ofCall results merged.call = [] := by
          refine ofCall_eq_nil fun hold => hnew ?_
          rw [calls_mergeResults, mem_firsts]
          exact hold
        rw [ofCall_snoc_of_eq results rfl, hnone]
        exact pools_single merged

/-- Results of different calls stay as they are. -/
theorem mergeResults_of_nodup {results : List (EngineResult τ)} (h : (results.map EngineResult.call).Nodup) :
    mergeResults results = results := by
  induction results using List.reverseRecOn with
  | nil => rfl
  | append_singleton results last ih =>
      rw [List.map_append, List.map_singleton, List.nodup_append_comm, List.singleton_append, List.nodup_cons] at h
      rw [mergeResults_concat, ih h.2, mergeInto_of_not_mem h.1]

end

/-! ### Results that are read -/

theorem Codec.nodup_files {disk : Disk} {value : Json} {files : List String}
    (h : (Codec.files disk).decode value = .good files) : files.Nodup := by
  simp only [Codec.files, Codec.ofNormal] at h
  split at h
  · rename_i found hfound
    cases h
    cases hwalk : Codec.walkTexts value with
    | error fault =>
        rw [hwalk] at hfound
        cases hfound
    | ok texts =>
        cases hnormal : texts.mapM (Codec.normalFile disk) with
        | error fault =>
            simp [hwalk, hnormal, bind, Except.bind] at hfound
        | ok names =>
            simp only [hwalk, hnormal, bind, Except.bind, pure, Except.pure, Except.ok.injEq] at hfound
            exact hfound ▸ nodup_firsts names
  · cases h
  · cases h

/-- A result that is read names each changed file once. -/
theorem nodup_modified_of_read {disk : Disk} {value : Json} {result : EngineResult Float}
    (h : (EngineResult.schema disk).read value = .good result) : result.modified.Nodup := by
  have hkeeps : (EngineResult.schema disk).Keeps fun result => result.modified.Nodup := by
    -- All fields but the changed files leave those as they are.
    iterate 8 refine List.forall_mem_cons.mpr ⟨Field.keeps fun _ _ _ _ hbefore => hbefore, ?_⟩
    refine List.forall_mem_cons.mpr ⟨Field.keeps fun _ _ _ hfiles _ => Codec.nodup_files hfiles, ?_⟩
    iterate 2 refine List.forall_mem_cons.mpr ⟨Field.keeps fun _ _ _ _ hbefore => hbefore, ?_⟩
    exact List.forall_mem_nil _
  exact (Schema.holds_of_read hkeeps List.nodup_nil h).1

/-! ### The report of merged results -/

theorem mem_candidates_iff_surviving (results : List (EngineResult τ)) (scope : Option (List String)) (issue : Issue) :
    issue ∈ candidates results scope ↔
      (∀ files, scope = some files → issue.file ∈ files) ∧ issue ∈ surviving results := by
  simp only [mem_candidates, mem_surviving, Eligible, ← Bool.not_eq_true, covered_iff_suppressed]
  constructor
  · rintro ⟨result, hresult, hissue, hinside, hfree⟩
    exact ⟨hinside, result, hresult, hissue, hfree⟩
  · rintro ⟨hinside, result, hresult, hissue, hfree⟩
    exact ⟨result, hresult, hissue, hinside, hfree⟩

section

variable [Quantity τ]

/-- **Merging before aggregating changes nothing.**  Merging gives one result for each engine and pass, in the
order of their first results, and each pools the results of its call.  Merging again changes nothing.  There is no
report of the merged results for the same reason as there is none of the results, or there are both.  Then they have the
same identities, count the same fixes and are cancelled or not alike.  Where issues of one identity are equal and no
rule is the empty text, they have the same issues in the same order, the same statistics and the same success. -/
theorem merging_changes_nothing (results : List (EngineResult τ)) :
    let merged := mergeResults results
    merged.map EngineResult.call = firsts (results.map EngineResult.call) ∧
    (∀ result ∈ merged, Pools (ofCall results result.call) result) ∧
    mergeResults merged = merged ∧
    ∀ (disk : Disk) (framing : Framing τ),
      (∃ fault, aggregate disk results framing = .error fault ∧ aggregate disk merged framing = .error fault) ∨
      ∃ report other, aggregate disk results framing = .ok report ∧ aggregate disk merged framing = .ok other ∧
        (∀ identity, (∃ issue ∈ other.issues, issue.identity = identity) ↔
          ∃ issue ∈ report.issues, issue.identity = identity) ∧
        other.fixedCount = report.fixedCount ∧ other.cancelled = report.cancelled ∧
        ((∀ first ∈ results.flatMap (·.issues), ∀ second ∈ results.flatMap (·.issues),
            first.identity = second.identity → first = second) →
          (∀ issue ∈ results.flatMap (·.issues), issue.rule ≠ some "") →
          other.issues = report.issues ∧ other.statistics = report.statistics ∧ other.success = report.success) := by
  intro merged
  refine ⟨calls_mergeResults results, pools_mergeResults results,
    mergeResults_of_nodup (nodup_calls_mergeResults results), fun disk framing => ?_⟩
  rw [aggregate_eq, aggregate_eq]
  cases disk.scope framing.scope with
  | error fault => exact Or.inl ⟨fault, rfl, rfl⟩
  | ok scope =>
      have hcandidates : ∀ issue, issue ∈ candidates results scope ↔ issue ∈ candidates merged scope := by
        intro issue
        rw [mem_candidates_iff_surviving, mem_candidates_iff_surviving, mem_surviving_mergeResults]
      have hcancelled : merged.any (·.cancelled) = results.any (·.cancelled) := by
        apply Bool.eq_iff_iff.mpr
        exact (any_cancelled_mergeResults results).trans List.any_eq_true.symm
      refine Or.inr ⟨reportOn scope results framing, reportOn scope merged framing, rfl, rfl, fun identity => ?_,
        sum_fixedCount_mergeResults results, hcancelled, fun htwins hrules => ?_⟩
      · refine (exists_identity_finalIssues merged scope identity).trans ?_
        refine Iff.trans ?_ (exists_identity_finalIssues results scope identity).symm
        simp only [hcandidates]
      · have hreported : ∀ issue ∈ candidates results scope, issue ∈ results.flatMap (·.issues) := by
          intro issue hin
          obtain ⟨result, hresult, hissue, -⟩ := (mem_candidates results scope issue).mp hin
          exact List.mem_flatMap.mpr ⟨result, hresult, hissue⟩
        have hissues : finalIssues merged scope = finalIssues results scope := by
          rw [finalIssues_eq, finalIssues_eq]
          refine (sort_deduplicate_eq hcandidates (fun first hfirst second hsecond => ?_) fun issue hin => ?_).symm
          · exact htwins first (hreported first hfirst) second (hreported second hsecond)
          · exact hrules issue (hreported issue hin)
        exact ⟨hissues, congrArg statistics hissues, by simp only [reportOn, hissues, hcancelled]⟩

end

namespace Turned

/-- A linter that checked two batches of files, and found in both what is in a file of the first, with a type
checker in between. -/
def batches : List (EngineResult Rat) :=
  [⟨"ruff", .lint, .check, true, [unusedImport], 2, none, 0, [], [], false⟩,
    ⟨"mypy", .typeCheck, .check, true, [wrongType], 1, none, 0, [], [], false⟩,
    ⟨"ruff", .lint, .check, false, [unusedImport], 3, none, 1, ["/b"], [⟨"/b", none⟩], true⟩]

/-- Merged, the batches are one result of the linter and one of the type checker, with the same report. -/
theorem merging_changes_nothing_batches :
    (mergeResults batches).map EngineResult.call = [("ruff", .check), ("mypy", .check)] ∧
      (∀ result ∈ mergeResults batches, Pools (ofCall batches result.call) result) ∧
      (∀ result ∈ batches, result.modified.Nodup) ∧
      ∃ report other, aggregate (.empty [] []) batches framing = .ok report ∧
        aggregate (.empty [] []) (mergeResults batches) framing = .ok other ∧
        other.issues = report.issues ∧ other.success = report.success := by
  obtain ⟨hcalls, hpools, -, hreport⟩ := merging_changes_nothing batches
  refine ⟨hcalls, hpools, by decide, ?_⟩
  rcases hreport (.empty [] []) framing with ⟨fault, hfault, -⟩ | ⟨report, other, hok, hok', -, -, -, hsame⟩
  · cases hfault
  · obtain ⟨hissues, -, hsuccess⟩ := hsame (by decide) (by decide)
    exact ⟨report, other, hok, hok', hissues, hsuccess⟩

end Turned

end FixFirst
