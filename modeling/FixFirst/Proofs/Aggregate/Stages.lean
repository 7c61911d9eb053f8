import Mathlib
import FixFirst.Aggregate

/-!
# The stages of aggregation

What is left of the issues of a run goes through two stages: of every identity the first issue stays,
and what stays is sorted.  Statistics are counted from the result.  Each of these is described here by
itself, for any list.

## Main definitions

* `Issue.sortKey` — what issues are sorted by, as one value of a linear order.
* `Counts` — whether a map counts texts.

## Main statements

* `before_iff` — an issue may stand before another one when its key is not greater.
* `mem_deduplicate`, `nodup_deduplicate` — the first issue of every identity, and no other.
* `sortIssues_eq_of_perm` — sorting forgets the order of issues that have different keys.
* `counts_tally` — a tally counts.
-/

namespace FixFirst

/-! ### Sorting -/

namespace Issue

/-- What issues are sorted by: severity, file, line, column, kind and rule, in this order.  No rule is
like an empty one. -/
def sortKey (issue : Issue) : Nat ×ₗ String ×ₗ Nat ×ₗ Nat ×ₗ String ×ₗ String :=
  toLex (issue.severity.rank, toLex (issue.file, toLex (issue.line, toLex (issue.column,
    toLex (issue.kind.name, issue.rule.getD "")))))

/-- One comparison after another is the order of pairs. -/
theorem isLE_then_iff {α β : Type} [LinearOrder α] [Preorder β] {first second : α} {rest : Ordering} {left right : β}
    (h : rest.isLE = true ↔ left ≤ right) :
    ((Ord.compare first second).then rest).isLE = true ↔ toLex (first, left) ≤ toLex (second, right) := by
  rw [Prod.Lex.toLex_le_toLex, ← h]
  rcases lt_trichotomy first second with hlt | rfl | hgt
  · rw [compare_lt_iff_lt.mpr hlt]
    simp [hlt]
  · rw [compare_eq_iff_eq.mpr rfl]
    simp
  · rw [compare_gt_iff_gt.mpr hgt]
    simp [hgt.not_gt, hgt.ne']

/-- An issue may stand before another one exactly when its key is not greater. -/
theorem before_iff (first second : Issue) : first.before second = true ↔ first.sortKey ≤ second.sortKey :=
  isLE_then_iff <| isLE_then_iff <| isLE_then_iff <| isLE_then_iff <| isLE_then_iff <|
    Ordering.isLE_iff_ne_gt.trans compare_le_iff_le

/-- Issues with one key and without empty rules are the same finding. -/
theorem identity_eq_of_sortKey {first second : Issue} (h : first.sortKey = second.sortKey)
    (hfirst : first.rule ≠ some "") (hsecond : second.rule ≠ some "") : first.identity = second.identity := by
  simp only [sortKey, toLex_inj, Prod.mk.injEq] at h
  obtain ⟨-, hfile, hline, hcolumn, hname, hrule⟩ := h
  have hkind : first.kind = second.kind := by
    cases hk : first.kind <;> cases hk' : second.kind <;> first | rfl | simp [hk, hk', Kind.name] at hname
  have hsame : first.rule = second.rule := by
    cases hr : first.rule with
    | none =>
        cases hr' : second.rule with
        | none => rfl
        | some rule =>
            rw [hr, hr', Option.getD_none, Option.getD_some] at hrule
            exact absurd (hrule ▸ hr') hsecond
    | some rule =>
        cases hr' : second.rule with
        | none =>
            rw [hr, hr', Option.getD_none, Option.getD_some] at hrule
            exact absurd (hrule ▸ hr) hfirst
        | some other =>
            rw [hr, hr', Option.getD_some, Option.getD_some] at hrule
            rw [hrule]
  simp only [identity, hfile, hline, hcolumn, hkind, hsame]

end Issue

theorem pairwise_sortIssues (issues : List Issue) :
    (sortIssues issues).Pairwise fun first second => first.sortKey ≤ second.sortKey := by
  have hsorted : (sortIssues issues).Pairwise fun first second => first.before second = true := by
    refine List.pairwise_mergeSort (fun first second third h h' => ?_) (fun first second => ?_) issues
    · rw [Issue.before_iff] at h h' ⊢
      exact h.trans h'
    · rw [Bool.or_eq_true, Issue.before_iff, Issue.before_iff]
      exact le_total _ _
  exact hsorted.imp fun h => (Issue.before_iff _ _).mp h

/-- Issues that are in order stay as they are. -/
theorem sortIssues_of_pairwise {issues : List Issue}
    (h : issues.Pairwise fun first second => first.sortKey ≤ second.sortKey) : sortIssues issues = issues :=
  List.mergeSort_of_pairwise (h.imp fun h => (Issue.before_iff _ _).mpr h)

/-- Where no two issues have one key, the order in which they come does not matter. -/
theorem sortIssues_eq_of_perm {issues others : List Issue} (hperm : issues.Perm others)
    (hkeys : ∀ first ∈ issues, ∀ second ∈ issues, first.sortKey = second.sortKey → first = second) :
    sortIssues issues = sortIssues others := by
  refine List.Perm.eq_of_pairwise (fun first second hfirst hsecond h h' => ?_) (pairwise_sortIssues issues)
    (pairwise_sortIssues others)
    ((List.mergeSort_perm issues _).trans (hperm.trans (List.mergeSort_perm others _).symm))
  rw [sortIssues, List.mem_mergeSort] at hfirst hsecond
  exact hkeys first hfirst second (hperm.symm.subset hsecond) (le_antisymm h h')

/-! ### One issue per identity -/

/-- What deduplication keeps beside what is kept already: of the identities that are new, the first issue. -/
theorem mem_foldl_deduplicate (issues kept : List Issue) (issue : Issue) :
    issue ∈ issues.foldl (fun kept issue =>
        if kept.any fun known => known.identity == issue.identity then kept else kept ++ [issue]) kept ↔
      issue ∈ kept ∨ (∀ known ∈ kept, known.identity ≠ issue.identity) ∧
        issues.find? (·.identity == issue.identity) = some issue := by
  induction issues generalizing kept with
  | nil => simp
  | cons first rest ih =>
      rw [List.foldl_cons, ih]
      by_cases hknown : (kept.any fun known => known.identity == first.identity) = true
      · rw [if_pos hknown]
        obtain ⟨known, hin, hsame⟩ := List.any_eq_true.mp hknown
        have hsame' : known.identity = first.identity := by simpa using hsame
        refine or_congr Iff.rfl (and_congr_right fun hnew => ?_)
        have haway : first.identity ≠ issue.identity := fun h => hnew known hin (hsame'.trans h)
        rw [List.find?_cons_of_neg (by simpa using haway)]
      · rw [if_neg hknown]
        have hfresh : ∀ known ∈ kept, known.identity ≠ first.identity := by simpa using hknown
        by_cases hsame : first.identity = issue.identity
        · -- The first issue is the one of its identity; no later one is.
          rw [List.find?_cons_of_pos (by simpa using hsame), List.mem_append, List.mem_singleton, Option.some.injEq]
          constructor
          · rintro ((hold | rfl) | ⟨hnew, -⟩)
            · exact Or.inl hold
            · exact Or.inr ⟨hfresh, rfl⟩
            · exact absurd hsame (hnew first (List.mem_append_right _ (List.mem_singleton.mpr rfl)))
          · rintro (hold | ⟨-, rfl⟩)
            · exact Or.inl (Or.inl hold)
            · exact Or.inl (Or.inr rfl)
        · rw [List.find?_cons_of_neg (by simpa using hsame), List.mem_append, List.mem_singleton]
          have hother : issue ≠ first := fun h => hsame (congrArg Issue.identity h.symm)
          simp only [hother, or_false, List.mem_append, List.mem_singleton, or_imp, forall_and, forall_eq, ne_eq,
            hsame, not_false_eq_true, and_true]

/-- Of every identity the first issue stays, and no other. -/
theorem mem_deduplicate (issues : List Issue) (issue : Issue) :
    issue ∈ deduplicate issues ↔ issues.find? (·.identity == issue.identity) = some issue := by
  rw [deduplicate, mem_foldl_deduplicate]
  simp

theorem nodup_foldl_deduplicate (issues kept : List Issue) (h : (kept.map Issue.identity).Nodup) :
    ((issues.foldl (fun kept issue =>
        if kept.any fun known => known.identity == issue.identity then kept else kept ++ [issue]) kept).map
      Issue.identity).Nodup := by
  induction issues generalizing kept with
  | nil => exact h
  | cons first rest ih =>
      rw [List.foldl_cons]
      refine ih _ ?_
      split
      · exact h
      · rename_i hnew
        have hfresh : first.identity ∉ kept.map Issue.identity := by simpa using hnew
        rw [List.map_append, List.map_singleton]
        exact List.nodup_append_comm.mp (List.nodup_cons.mpr ⟨hfresh, h⟩)

theorem nodup_deduplicate (issues : List Issue) : ((deduplicate issues).map Issue.identity).Nodup :=
  nodup_foldl_deduplicate issues [] List.nodup_nil

/-- Issues with different identities all stay, in their order. -/
theorem foldl_deduplicate_of_nodup (issues kept : List Issue) (h : ((kept ++ issues).map Issue.identity).Nodup) :
    issues.foldl (fun kept issue =>
        if kept.any fun known => known.identity == issue.identity then kept else kept ++ [issue]) kept =
      kept ++ issues := by
  induction issues generalizing kept with
  | nil => simp
  | cons first rest ih =>
      have hnew : (kept.any fun known => known.identity == first.identity) = false := by
        rw [List.map_append, List.nodup_append] at h
        simp only [List.any_eq_false, beq_iff_eq]
        exact fun known hin => h.2.2 _ (List.mem_map_of_mem hin) _ (List.mem_map_of_mem List.mem_cons_self)
      rw [List.foldl_cons, hnew, ih]
      · simp
      · simpa using h

theorem deduplicate_of_nodup {issues : List Issue} (h : (issues.map Issue.identity).Nodup) :
    deduplicate issues = issues :=
  foldl_deduplicate_of_nodup issues [] h

/-! ### Counting -/

/-- Whether a map counts texts: it says of each text how often it occurs, has no others, and the numbers
sum to the number of all texts. -/
structure Counts (counts : Keyed Int) (texts : List String) : Prop where
  keys : counts.keys.Nodup
  count : ∀ text, counts.get? text = if text ∈ texts then some (texts.count text : Int) else none
  sum : counts.values.sum = texts.length

theorem Keyed.sum_values_put (counts : Keyed Int) (key : String) (value : Int) :
    (counts.put key value).values.sum = counts.values.sum - (counts.get? key).getD 0 + value := by
  induction counts with
  | nil => simp [put, values]
  | cons entry rest ih =>
      unfold put
      rw [get?_cons]
      by_cases h : entry.1 = key
      · simp only [h, if_true, values, List.map_cons, List.sum_cons, Option.getD_some]
        omega
      · simp only [values] at ih
        simp only [h, if_false, values, List.map_cons, List.sum_cons, ih]
        omega

theorem Keyed.nodup_keys_put {α : Type} {entries : Keyed α} (h : entries.keys.Nodup) (key : String) (value : α) :
    (entries.put key value).keys.Nodup := by
  rw [keys_put]
  split
  · exact h
  · rename_i hnew
    exact List.nodup_append_comm.mp (List.nodup_cons.mpr ⟨hnew, h⟩)

/-- A tally counts. -/
theorem counts_tally (texts : List String) : Counts (tally texts) texts := by
  have hfold : ∀ counts : Keyed Int, counts.keys.Nodup →
      let after := texts.foldl (fun counts text => counts.put text ((counts.get? text).getD 0 + 1)) counts
      after.keys.Nodup ∧
        (∀ text, after.get? text =
          if text ∈ texts then some ((counts.get? text).getD 0 + (texts.count text : Int)) else counts.get? text) ∧
        after.values.sum = counts.values.sum + texts.length := by
    induction texts with
    | nil => exact fun counts h => ⟨h, fun text => by simp, by simp⟩
    | cons first rest ih =>
        intro counts h
        obtain ⟨hkeys, hcount, hsum⟩ := ih _ (Keyed.nodup_keys_put h first ((counts.get? first).getD 0 + 1))
        refine ⟨hkeys, fun text => ?_, ?_⟩
        · rw [List.foldl_cons, hcount, Keyed.get?_put]
          by_cases hsame : first = text
          · subst hsame
            by_cases hin : first ∈ rest
            · simp only [hin, if_true, Option.getD_some, List.mem_cons, or_true, List.count_cons_self]
              push_cast
              congr 1
              omega
            · simp [hin, List.count_eq_zero_of_not_mem hin]
          · have haway : text ≠ first := fun h => hsame h.symm
            simp [hsame, haway]
        · rw [List.foldl_cons, hsum, Keyed.sum_values_put, List.length_cons]
          push_cast
          omega
  obtain ⟨hkeys, hcount, hsum⟩ := hfold [] List.nodup_nil
  refine ⟨hkeys, fun text => ?_, ?_⟩
  · rw [tally, hcount]
    simp
  · rw [tally, hsum]
    simp [Keyed.values]

end FixFirst
