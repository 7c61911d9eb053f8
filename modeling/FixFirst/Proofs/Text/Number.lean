import Mathlib
import FixFirst.Text.Digit
import FixFirst.Proofs.Text.Fields
import FixFirst.Proofs.Text.Lines

/-!
# Whole numbers in texts

A text of digits, after any number of minus signs, is a whole number if it has at most one sign, its digits are
decimal, and they are not too many.

## Main statements

* `wholeNumber_digits` — what decimal digits denote.
* `isSome_wholeNumber_iff` — when a text of digits after minus signs is a whole number.
-/

namespace FixFirst.Text

/-! ### Digits -/

theorem isDecimal_iff {c : Char} : isDecimal c = true ↔ ∃ first ∈ zeros, first ≤ c.toNat ∧ c.toNat < first + 10 := by
  simp [isDecimal, digitValue?]

/-- No digit is blank. -/
theorem isBlank_of_isDigit {c : Char} (h : isDigit c = true) : isBlank c = false := by
  have hzeros : ∀ range ∈ blanks, ∀ first ∈ zeros, range.2 < first ∨ first + 10 ≤ range.1 := by decide
  have hothers : ∀ range ∈ blanks, ∀ other ∈ otherDigits, range.2 < other.1 ∨ other.2 < range.1 := by decide
  rw [← Bool.not_eq_true]
  intro hblank
  simp only [isBlank, within, List.any_eq_true, Bool.and_eq_true, decide_eq_true_eq] at hblank
  obtain ⟨range, hrange, hlow, hhigh⟩ := hblank
  rw [isDigit, Bool.or_eq_true, isDecimal_iff] at h
  simp only [within, List.any_eq_true, Bool.and_eq_true, decide_eq_true_eq] at h
  rcases h with ⟨first, hfirst, hdigit⟩ | ⟨other, hother, hdigit⟩
  · have := hzeros range hrange first hfirst
    omega
  · have := hothers range hrange other hother
    omega

theorem isDigit_of_isDecimal {c : Char} (h : isDecimal c = true) : isDigit c = true := by
  rw [isDigit, h, Bool.true_or]

/-- The values of decimal digits. -/
theorem mapM_digitValue {text : List Char} :
    text.mapM digitValue? = if text.all isDecimal then some (text.filterMap digitValue?) else none := by
  induction text with
  | nil => rfl
  | cons c text ih =>
      rw [List.mapM_cons, ih]
      cases hvalue : digitValue? c with
      | none => simp [isDecimal, hvalue]
      | some value =>
          by_cases hall : text.all isDecimal = true
          · simp [isDecimal, hvalue, hall]
          · simp [isDecimal, hvalue, hall]

/-- The values of the digits of a text in which no digits are grouped. -/
theorem digitValues_eq {text : List Char} (hplain : '_' ∉ text) (hne : text ≠ []) :
    digitValues? text = if text.all isDecimal then some (text.filterMap digitValue?) else none := by
  unfold digitValues?
  rw [fields_of_not_mem hplain, List.foldr_cons, List.foldr_nil, mapM_digitValue]
  by_cases hall : text.all isDecimal = true
  · obtain ⟨c, hc⟩ := List.exists_mem_of_ne_nil text hne
    obtain ⟨value, hvalue⟩ := Option.isSome_iff_exists.mp (List.all_eq_true.mp hall c hc)
    obtain ⟨first, others, hvalues⟩ := List.exists_cons_of_ne_nil
      (List.ne_nil_of_mem (List.mem_filterMap.mpr ⟨c, hc, hvalue⟩) : text.filterMap digitValue? ≠ [])
    simp [hall, hvalues]
  · simp [hall]

theorem length_digitValues {text : List Char} (h : text.all isDecimal = true) :
    (text.filterMap digitValue?).length = text.length := by
  induction text with
  | nil => rfl
  | cons c text ih =>
      rw [List.all_cons, Bool.and_eq_true] at h
      obtain ⟨value, hvalue⟩ := Option.isSome_iff_exists.mp h.1
      simp [hvalue, ih h.2]

/-- What a text denotes once its sign is split off. -/
theorem wholeNumber_of_split {text body : List Char} {negative : Bool} (htrim : trim text = text)
    (hsplit : splitSign text = (negative, body)) (hplain : '_' ∉ body) (hne : body ≠ []) :
    wholeNumber? text = if body.all isDecimal = true ∧ body.length ≤ maxDigits then
      some (signed negative (natOfDigits (body.filterMap digitValue?))) else none := by
  unfold wholeNumber?
  rw [htrim, hsplit]
  simp only [digitValues_eq hplain hne]
  by_cases hall : body.all isDecimal = true
  · by_cases hlong : maxDigits < body.length
    · simp [hall, length_digitValues hall, hlong, not_le.mpr hlong]
    · simp [hall, length_digitValues hall, hlong, not_lt.mp hlong]
  · simp [hall]

theorem splitSign_of_digit {c : Char} (h : isDigit c = true) (rest : List Char) :
    splitSign (c :: rest) = (false, c :: rest) := by
  rw [splitSign]
  · rintro others hsame
    exact absurd ((List.cons.inj hsame).1 ▸ h) (by decide)
  · rintro others hsame
    exact absurd ((List.cons.inj hsame).1 ▸ h) (by decide)

theorem not_mem_of_digits {text : List Char} (h : text.all isDigit = true) : '_' ∉ text :=
  fun hin => absurd (List.all_eq_true.mp h _ hin) (by decide)

/-- What decimal digits denote. -/
theorem wholeNumber_digits {digits : List Char} (hne : digits ≠ []) (hall : digits.all isDecimal = true) :
    wholeNumber? digits =
      if digits.length ≤ maxDigits then some (natOfDigits (digits.filterMap digitValue?) : Int) else none := by
  have hdigits : digits.all isDigit = true :=
    List.all_eq_true.mpr fun c hc => isDigit_of_isDecimal (List.all_eq_true.mp hall c hc)
  have htrim : trim digits = digits := trim_of_plain fun c hc => isBlank_of_isDigit (List.all_eq_true.mp hdigits c hc)
  obtain ⟨c, rest, rfl⟩ := List.exists_cons_of_ne_nil hne
  have hsplit := splitSign_of_digit (List.all_eq_true.mp hdigits c List.mem_cons_self) rest
  rw [wholeNumber_of_split htrim hsplit (not_mem_of_digits hdigits) hne]
  simp [hall, signed]

/-- A text of digits after minus signs is a whole number if it has one sign at most, and decimal digits that are not
too many. -/
theorem isSome_wholeNumber_iff {text : List Char} (htrim : trim text = text)
    (h : allDigits (text.dropWhile (· == '-')) = true) :
    (wholeNumber? text).isSome = true ↔ text.length ≤ (text.dropWhile (· == '-')).length + 1 ∧
      (text.dropWhile (· == '-')).all isDecimal = true ∧ (text.dropWhile (· == '-')).length ≤ maxDigits := by
  have hsplit := List.takeWhile_append_dropWhile (p := (· == '-')) (l := text)
  have hsigns : ∀ c ∈ text.takeWhile (· == '-'), c = '-' := fun c hc => by simpa using List.mem_takeWhile_imp hc
  generalize text.takeWhile (· == '-') = signs at hsplit hsigns
  generalize text.dropWhile (· == '-') = digits at hsplit h ⊢
  rw [allDigits, Bool.and_eq_true, Bool.not_eq_true', List.isEmpty_eq_false_iff] at h
  obtain ⟨hne, hdigits⟩ := h
  have hplain := not_mem_of_digits hdigits
  subst hsplit
  cases signs with
  | nil =>
      obtain ⟨c, rest, rfl⟩ := List.exists_cons_of_ne_nil hne
      have hfirst := splitSign_of_digit (List.all_eq_true.mp hdigits c List.mem_cons_self) rest
      rw [List.nil_append] at htrim ⊢
      rw [wholeNumber_of_split htrim hfirst hplain hne]
      simp
  | cons sign signs =>
      obtain ⟨rfl, hothers⟩ := List.forall_mem_cons.mp hsigns
      have hrest : signs ++ digits ≠ [] := by simp [hne]
      have hclean : '_' ∉ signs ++ digits := by
        rw [List.mem_append, not_or]
        exact ⟨fun hin => absurd (hothers _ hin) (by decide), hplain⟩
      rw [List.cons_append] at htrim ⊢
      rw [wholeNumber_of_split htrim (rfl : splitSign ('-' :: (signs ++ digits)) = (true, signs ++ digits)) hclean hrest]
      cases signs with
      | nil => simp
      | cons second signs =>
          obtain ⟨rfl, -⟩ := List.forall_mem_cons.mp hothers
          have hminus : isDecimal '-' = false := by decide
          simp [hminus]

end FixFirst.Text
