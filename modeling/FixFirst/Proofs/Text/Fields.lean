import FixFirst.Text.CharClass
import Mathlib.Data.List.Basic

/-!
# Fields of texts

A text is cut at every separator.  No field has a separator in it, and cutting undoes joining.

## Main statements

* `not_mem_fields` — fields are without separators.
* `fields_append`, `fields_intercalate` — the fields of texts that are put together.
-/

namespace FixFirst.Text

variable {sep : Char}

theorem not_mem_fields {text field : List Char} (h : field ∈ fields sep text) : sep ∉ field := by
  induction text generalizing field with
  | nil =>
      rw [fields, List.mem_singleton] at h
      rw [h]
      exact List.not_mem_nil
  | cons c rest ih =>
      unfold fields at h
      split at h
      · rcases List.mem_cons.mp h with rfl | hrest
        · exact List.not_mem_nil
        · exact ih hrest
      · rename_i hother
        split at h
        · rename_i hnone
          exact absurd hnone (fields_ne_nil sep rest)
        · rename_i start others hsome
          rcases List.mem_cons.mp h with rfl | hrest
          · intro hmem
            rcases List.mem_cons.mp hmem with heq | hstart
            · exact hother heq.symm
            · exact ih (hsome ▸ List.mem_cons_self) hstart
          · exact ih (hsome ▸ List.mem_cons_of_mem _ hrest)

theorem fields_of_not_mem {text : List Char} (h : sep ∉ text) : fields sep text = [text] := by
  induction text with
  | nil => rfl
  | cons c rest ih =>
      obtain ⟨hc, hrest⟩ : sep ≠ c ∧ sep ∉ rest := by simpa using h
      rw [fields, if_neg (Ne.symm hc), ih hrest]

theorem fields_append {field : List Char} (h : sep ∉ field) (rest : List Char) :
    fields sep (field ++ sep :: rest) = field :: fields sep rest := by
  induction field with
  | nil => rw [List.nil_append, fields, if_pos rfl]
  | cons c others ih =>
      obtain ⟨hc, hothers⟩ : sep ≠ c ∧ sep ∉ others := by simpa using h
      rw [List.cons_append, fields, if_neg (Ne.symm hc), ih hothers]

/-- Cutting undoes joining. -/
theorem fields_intercalate {parts : List (List Char)} (hfilled : parts ≠ []) (h : ∀ part ∈ parts, sep ∉ part) :
    fields sep ([sep].intercalate parts) = parts := by
  induction parts with
  | nil => exact absurd rfl hfilled
  | cons first rest ih =>
      obtain ⟨hfirst, hrest⟩ := List.forall_mem_cons.mp h
      cases rest with
      | nil =>
          rw [List.intercalate_singleton]
          exact fields_of_not_mem hfirst
      | cons second others =>
          have hsplit : [sep].intercalate (first :: second :: others) =
              first ++ sep :: [sep].intercalate (second :: others) := by
            simp [List.intercalate]
          rw [hsplit, fields_append hfirst, ih (List.cons_ne_nil _ _) hrest]

end FixFirst.Text
