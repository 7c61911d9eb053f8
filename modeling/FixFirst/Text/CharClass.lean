/-!
# Classes of characters

A class of characters is a list of closed ranges of code points.  The tables of
this library (blanks, digits, printable characters, widths) are data of the Unicode
standard, and are all read through `within`.
-/

namespace FixFirst.Text

/-- Whether the code point of `c` lies in one of the closed `ranges`. -/
def within (ranges : List (Nat × Nat)) (c : Char) : Bool :=
  ranges.any fun range => range.1 ≤ c.toNat && c.toNat ≤ range.2

@[simp] theorem within_nil (c : Char) : within [] c = false := rfl

@[simp] theorem within_cons (range : Nat × Nat) (ranges : List (Nat × Nat)) (c : Char) :
    within (range :: ranges) c =
      ((range.1 ≤ c.toNat && c.toNat ≤ range.2) || within ranges c) := rfl

/-- Cuts a text at every `sep`; a text without one is a single field. -/
def fields (sep : Char) : List Char → List (List Char)
  | [] => [[]]
  | c :: rest =>
    if c = sep then [] :: fields sep rest
    else match fields sep rest with
      | [] => [[c]]
      | first :: others => (c :: first) :: others

/-- Cutting a text leaves at least one field. -/
theorem fields_ne_nil (sep : Char) (text : List Char) : fields sep text ≠ [] := by
  cases text with
  | nil => simp [fields]
  | cons c rest =>
    unfold fields
    split
    · simp
    · split <;> simp

end FixFirst.Text
