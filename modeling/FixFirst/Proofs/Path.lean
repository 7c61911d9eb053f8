import FixFirst.Path
import FixFirst.Proofs.Text.Fields

/-!
# Paths and their texts

A path that was read from a text has a tidy form: at most two slashes at its start, and names that are not
empty, no dot, and without slashes.  The text of such a path is read as the path again, so paths with one text
are one path.

## Main definitions

* `Path.Tidy` — the form of paths that are read.

## Main statements

* `Path.tidy_ofText` — what is read is tidy.
* `Path.ofText_text`, `Path.text_inj` — a tidy path is told by its text.
-/

namespace FixFirst

namespace Path

/-! ### Tidy paths -/

/-- Whether a path has the form of those that are read. -/
structure Tidy (path : Path) : Prop where
  slashes : path.slashes ≤ 2
  names : ∀ name ∈ path.names, name ≠ "" ∧ name ≠ "." ∧ '/' ∉ name.toList

/-- What is read from a text is tidy. -/
theorem tidy_ofText (text : String) : (ofText text).Tidy where
  slashes := by
    unfold ofText
    dsimp only
    split
    · exact Nat.zero_le 2
    · split <;> decide
  names := by
    intro name hname
    obtain ⟨hpart, hkept⟩ := List.mem_filter.mp hname
    obtain ⟨field, hfield, rfl⟩ := List.mem_map.mp hpart
    rw [Bool.and_eq_true, bne_iff_ne, bne_iff_ne] at hkept
    rw [String.toList_ofList]
    exact ⟨hkept.1, hkept.2, Text.not_mem_fields hfield⟩

variable {path other : Path}

/-- The characters of the text of a path, behind its slashes. -/
theorem toList_text (hsome : ¬(path.slashes = 0 ∧ path.names = [])) :
    path.text.toList = List.replicate path.slashes '/' ++ ['/'].intercalate (path.names.map String.toList) := by
  have hfilled : (path.slashes = 0 && path.names.isEmpty) = false := by
    simpa using hsome
  rw [text, hfilled, if_neg Bool.false_ne_true, String.toList_append, String.toList_ofList, String.toList_intercalate]
  rfl

/-- The names of a tidy path, joined, start with no slash. -/
theorem Tidy.takeWhile_names (h : path.Tidy) :
    (['/'].intercalate (path.names.map String.toList)).takeWhile (· == '/') = [] := by
  cases hnames : path.names with
  | nil => rfl
  | cons name rest =>
      obtain ⟨hfilled, -, hslash⟩ := h.names name (hnames ▸ List.mem_cons_self)
      cases hchars : name.toList with
      | nil => exact absurd (String.toList_inj.mp (hchars.trans String.toList_empty.symm)) hfilled
      | cons c others =>
          have hc : (c == '/') = false := by
            rw [beq_eq_false_iff_ne]
            rintro rfl
            exact hslash (hchars ▸ List.mem_cons_self)
          cases rest with
          | nil => simp [hchars, List.intercalate, hc]
          | cons second others => simp [hchars, List.intercalate, hc]

theorem namesOf_replicate (count : Nat) (rest : List Char) :
    ((Text.fields '/' (List.replicate count '/' ++ rest)).map String.ofList).filter (fun name => name != "" && name != ".") =
      ((Text.fields '/' rest).map String.ofList).filter fun name => name != "" && name != "." := by
  induction count with
  | zero => rfl
  | succ count ih =>
      rw [List.replicate_succ, List.cons_append, Text.fields, if_pos rfl, List.map_cons,
        List.filter_cons_of_neg (by decide), ih]

/-- The text of a tidy path is read as the path. -/
theorem ofText_text (h : path.Tidy) : ofText path.text = path := by
  obtain ⟨slashes, names⟩ := path
  by_cases hnone : slashes = 0 ∧ names = []
  · obtain ⟨rfl, rfl⟩ := hnone
    decide
  · have hchars : (text ⟨slashes, names⟩).toList =
        List.replicate slashes '/' ++ ['/'].intercalate (names.map String.toList) := toList_text hnone
    have hcount : ((text ⟨slashes, names⟩).toList.takeWhile (· == '/')).length = slashes := by
      rw [hchars, List.takeWhile_append_of_pos (by simp), h.takeWhile_names, List.append_nil, List.length_replicate]
    have hnames : namesOf (text ⟨slashes, names⟩) = names := by
      rw [namesOf, partsOf, hchars, namesOf_replicate]
      cases names with
      | nil => rfl
      | cons name rest =>
          have hslash : ∀ part ∈ (name :: rest).map String.toList, '/' ∉ part := by
            rw [List.forall_mem_map]
            exact fun part hpart => (h.names part hpart).2.2
          rw [Text.fields_intercalate (by simp) hslash, List.map_map, List.map_congr_left fun part _ =>
            show (String.ofList ∘ String.toList) part = part from String.ofList_toList, List.map_id',
            List.filter_eq_self]
          intro part hpart
          obtain ⟨hfilled, hdot, -⟩ := h.names part hpart
          simp [hfilled, hdot]
    have hslashes : slashes ≤ 2 := h.slashes
    unfold ofText
    dsimp only
    rw [hcount, hnames]
    congr 1
    split
    · omega
    · split <;> omega

/-- Tidy paths with one text are one path. -/
theorem text_inj (h : path.Tidy) (h' : other.Tidy) : path.text = other.text ↔ path = other := by
  refine ⟨fun hsame => ?_, congrArg text⟩
  rw [← ofText_text h, hsame, ofText_text h']

end Path

end FixFirst
