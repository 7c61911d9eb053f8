import FixFirst.Text.CharName.Africa
import FixFirst.Text.CharName.America
import FixFirst.Text.CharName.Antiquity
import FixFirst.Text.CharName.EastAsia
import FixFirst.Text.CharName.Europe
import FixFirst.Text.CharName.Latin
import FixFirst.Text.CharName.Mathematics
import FixFirst.Text.CharName.MiddleEast
import FixFirst.Text.CharName.Notation
import FixFirst.Text.CharName.Pictures
import FixFirst.Text.CharName.Signs
import FixFirst.Text.CharName.SouthAsia
import FixFirst.Text.CharName.SoutheastAsia
import FixFirst.Text.Digit

/-!
# Names of characters

A text may refer to a character by its name in the Unicode standard.  Most names are listed, in
groups; some follow a rule.  The names of listed characters may be written in capital or in small
letters, those of the syllables of Korean and of the ideographs common to East Asia in capital
letters only.

## Main definitions

* `nameGroups` — the listed names.
* `numberedNames` — the families of names that end in a number.
* `isCharName` — whether a character has a name.
-/

namespace FixFirst.Text

/-- The listed names. -/
def nameGroups : List NameGroup :=
  latinNames ++ europeanNames ++ middleEasternNames ++ africanNames ++ americanNames ++ southAsianNames ++
  southeastAsianNames ++ eastAsianNames ++ ancientNames ++ notationNames ++ mathematicalNames ++ signNames ++
  pictureNames

/-- Whether a name in capital letters is a listed one. -/
def isListedName (name : List Char) : Bool :=
  let words := fields ' ' name
  nameGroups.any (·.holds words)

/-! ### Names that end in a number -/

/-- A family of names that end in a number. -/
structure NumberedNames where
  /-- What stands before the number. -/
  start : String
  base : Nat
  /-- How many digits the number has; it has more only if it is too large for so many. -/
  width : Nat
  /-- The ranges of the numbers. -/
  ranges : List (Nat × Nat)
  deriving DecidableEq, Repr

/-- The families of names that end in a number, which is often the code point of the character. -/
def numberedNames : List NumberedNames :=
  [⟨"CJK COMPATIBILITY IDEOGRAPH-", 16, 4, [(0xf900, 0xfa6d), (0xfa70, 0xfad9), (0x2f800, 0x2fa1d)]⟩,
   ⟨"KHITAN SMALL SCRIPT CHARACTER-", 16, 5, [(0x18b00, 0x18cd5)]⟩,
   ⟨"NUSHU CHARACTER-", 16, 5, [(0x1b170, 0x1b2fb)]⟩,
   ⟨"TANGUT COMPONENT-", 10, 3, [(1, 768)]⟩,
   ⟨"VARIATION SELECTOR-", 10, 1, [(1, 256)]⟩,
   ⟨"VS", 10, 1, [(1, 256)]⟩]

/-- The rest of a text after a start that it has. -/
def after? (start : String) (text : List Char) : Option (List Char) :=
  if start.toList.isPrefixOf text then some (text.drop start.length) else none

/-- Whether digits of a base write a number in one of some ranges. -/
def isNumberIn (base : Nat) (ranges : List (Nat × Nat)) (digits : List Char) : Bool :=
  let number := ofDigits base digits
  digits.all (isDigitOf base) && ranges.any fun range => range.1 ≤ number && number ≤ range.2

/-- Whether a name in capital letters belongs to a family. -/
def NumberedNames.holds (family : NumberedNames) (name : List Char) : Bool :=
  (after? family.start name).any fun digits =>
    (digits.length == family.width || family.width < digits.length && digits.head? != some '0') &&
      isNumberIn family.base family.ranges digits

/-- Whether a name in capital letters is that of a pattern of raised dots, which are given in
order. -/
def isDotsName (name : List Char) : Bool :=
  (after? "BRAILLE PATTERN DOTS-" name).any fun dots => !dots.isEmpty && dots.isSublist "12345678".toList

/-! ### Ideographs and syllables -/

/-- The ranges of ideographs common to East Asia. -/
def ideographs : List (Nat × Nat) :=
  [(0x3400, 0x4dbf), (0x4e00, 0x9fff), (0x20000, 0x2a6df), (0x2a700, 0x2b738), (0x2b740, 0x2b81d),
   (0x2b820, 0x2cea1), (0x2ceb0, 0x2ebe0), (0x30000, 0x3134a)]

/-- Whether a name is that of an ideograph: it ends in the code point, with four or five digits. -/
def isIdeographName (name : List Char) : Bool :=
  (after? "CJK UNIFIED IDEOGRAPH-" name).any fun digits =>
    (digits.length == 4 || digits.length == 5) && !digits.any Char.isLower && isNumberIn 16 ideographs digits

/-- The letters that vowels are written with. -/
def isVowelLetter (c : Char) : Bool := "AEIOUWY".contains c

/-- What a syllable starts with. -/
def initials : List String :=
  ["", "G", "GG", "N", "D", "DD", "R", "M", "B", "BB", "S", "SS", "J", "JJ", "C", "K", "T", "P", "H"]

/-- The vowels of syllables. -/
def medials : List String :=
  ["A", "AE", "YA", "YAE", "EO", "E", "YEO", "YE", "O", "WA", "WAE", "OE", "YO", "U", "WEO", "WE", "WI", "YU",
   "EU", "YI", "I"]

/-- What a syllable ends with. -/
def finals : List String :=
  ["", "G", "GG", "GS", "N", "NJ", "NH", "D", "L", "LG", "LM", "LB", "LS", "LT", "LP", "LH", "M", "B", "BS", "S",
   "SS", "NG", "J", "C", "K", "T", "P", "H"]

/-- Whether a name is that of a syllable: it ends in the sounds of the syllable. -/
def isSyllableName (name : List Char) : Bool :=
  (after? "HANGUL SYLLABLE " name).any fun sounds =>
    let (start, rest) := sounds.span fun c => !isVowelLetter c
    let (vowel, ending) := rest.span isVowelLetter
    initials.contains (String.ofList start) && medials.contains (String.ofList vowel) &&
      finals.contains (String.ofList ending)

/-- Whether a character has a name. -/
def isCharName (name : List Char) : Bool :=
  let capital := name.map Char.toUpper
  isSyllableName name || isIdeographName name || isDotsName capital || numberedNames.any (·.holds capital) ||
    isListedName capital

end FixFirst.Text
