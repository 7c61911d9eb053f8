import FixFirst.Text.Blank

/-!
# Digits

A decimal digit is a character of one of the runs of ten that Unicode assigns to
the decimal systems of its scripts.  Some further characters (superscripts,
circled numbers, ...) are digits without being decimal.  A whole number is
written with decimal digits, of any script.
-/

namespace FixFirst.Text

/-- The zero of every run of ten decimal digits. -/
def zeros : List Nat :=
  [0x30, 0x660, 0x6f0, 0x7c0, 0x966, 0x9e6, 0xa66, 0xae6, 0xb66, 0xbe6,
   0xc66, 0xce6, 0xd66, 0xde6, 0xe50, 0xed0, 0xf20, 0x1040, 0x1090, 0x17e0,
   0x1810, 0x1946, 0x19d0, 0x1a80, 0x1a90, 0x1b50, 0x1bb0, 0x1c40, 0x1c50, 0xa620,
   0xa8d0, 0xa900, 0xa9d0, 0xa9f0, 0xaa50, 0xabf0, 0xff10, 0x104a0, 0x10d30, 0x11066,
   0x110f0, 0x11136, 0x111d0, 0x112f0, 0x11450, 0x114d0, 0x11650, 0x116c0, 0x11730, 0x118e0,
   0x11950, 0x11c50, 0x11d50, 0x11da0, 0x16a60, 0x16ac0, 0x16b50, 0x1d7ce, 0x1d7d8, 0x1d7e2,
   0x1d7ec, 0x1d7f6, 0x1e140, 0x1e2f0, 0x1e950, 0x1fbf0]

/-- Digits that belong to no decimal system. -/
def otherDigits : List (Nat × Nat) :=
  [(0xb2, 0xb3), (0xb9, 0xb9), (0x1369, 0x1371), (0x19da, 0x19da), (0x2070, 0x2070),
   (0x2074, 0x2079), (0x2080, 0x2089), (0x2460, 0x2468), (0x2474, 0x247c), (0x2488, 0x2490),
   (0x24ea, 0x24ea), (0x24f5, 0x24fd), (0x24ff, 0x24ff), (0x2776, 0x277e), (0x2780, 0x2788),
   (0x278a, 0x2792), (0x10a40, 0x10a43), (0x10e60, 0x10e68), (0x11052, 0x1105a), (0x1f100, 0x1f10a)]

/-- The value of a decimal digit. -/
def digitValue? (c : Char) : Option Nat :=
  (zeros.find? fun first => first ≤ c.toNat && c.toNat < first + 10).map (c.toNat - ·)

/-- Whether `c` is a decimal digit. -/
def isDecimal (c : Char) : Bool := (digitValue? c).isSome

/-- Whether `c` is a digit, decimal or not. -/
def isDigit (c : Char) : Bool := isDecimal c || within otherDigits c

/-- Whether a text is made of digits and not empty. -/
def allDigits (text : List Char) : Bool := !text.isEmpty && text.all isDigit

/-- The number written by a list of digit values, the most significant first. -/
def natOfDigits (digits : List Nat) : Nat := digits.foldl (fun value digit => 10 * value + digit) 0

@[simp] theorem natOfDigits_nil : natOfDigits [] = 0 := rfl

theorem natOfDigits_concat (digits : List Nat) (digit : Nat) :
    natOfDigits (digits ++ [digit]) = 10 * natOfDigits digits + digit := by
  simp [natOfDigits]

/-- The most digits a whole number may be written with. -/
def maxDigits : Nat := 4300

/-- The digit values of a text of decimal digits, single underscores between digits
being skipped. -/
def digitValues? (text : List Char) : Option (List Nat) :=
  (fields '_' text).foldr
    (fun group rest => do
      let values ← group.mapM digitValue?
      if values.isEmpty then none else return values ++ (← rest))
    (some [])

/-- Splits a sign off a text; `true` stands for minus. -/
def splitSign : List Char → Bool × List Char
  | '-' :: rest => (true, rest)
  | '+' :: rest => (false, rest)
  | text => (false, text)

/-- `value` with a minus sign if `negative`. -/
def signed (negative : Bool) (value : Nat) : Int :=
  if negative then -(value : Int) else (value : Int)

/-- The whole number a text denotes: blanks around it, a sign, then at most `maxDigits`
decimal digits of any script with single underscores between them. -/
def wholeNumber? (text : List Char) : Option Int := do
  let (negative, body) := splitSign (trim text)
  let values ← digitValues? body
  if maxDigits < values.length then none
  else return signed negative (natOfDigits values)

/-! ### Bases up to sixteen -/

/-- The value of a digit of base sixteen. -/
def hexValue (c : Char) : Nat :=
  if c.isDigit then c.toNat - '0'.toNat else c.toLower.toNat - 'a'.toNat + 10

/-- Whether a character is a digit of a base of at most sixteen. -/
def isDigitOf (base : Nat) (c : Char) : Bool :=
  (c.isDigit || ('a' ≤ c.toLower && c.toLower ≤ 'f')) && hexValue c < base

/-- The number that digits of a base write. -/
def ofDigits (base : Nat) (digits : List Char) : Nat :=
  digits.foldl (fun value digit => base * value + hexValue digit) 0

/-! ### Writing -/

/-- The decimal digits of a natural number. -/
def natText (n : Nat) : List Char := Nat.toDigits 10 n

/-- The decimal text of an integer. -/
def intText (n : Int) : List Char :=
  if n < 0 then '-' :: natText n.natAbs else natText n.natAbs

/-- Whether an integer has few enough digits to be written. -/
def isWritable (n : Int) : Bool := (natText n.natAbs).length ≤ maxDigits

end FixFirst.Text
