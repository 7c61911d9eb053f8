import FixFirst.Text.CharClass

/-!
# Blanks

The characters that separate words: the white space of Unicode together with the
four information separators.  `trim` cuts them off both ends of a text and
`words` cuts a text at every run of them.  Around a number only white space is
skipped, by `trimSpace`.
-/

namespace FixFirst.Text

/-- The ranges of blank characters. -/
def blanks : List (Nat × Nat) :=
  [(0x09, 0x0d), (0x1c, 0x20), (0x85, 0x85), (0xa0, 0xa0), (0x1680, 0x1680),
   (0x2000, 0x200a), (0x2028, 0x2029), (0x202f, 0x202f), (0x205f, 0x205f), (0x3000, 0x3000)]

/-- The four characters that separate records and are no white space. -/
def separators : List (Nat × Nat) := [(0x1c, 0x1f)]

/-- Whether `c` is a blank. -/
def isBlank (c : Char) : Bool := within blanks c

/-- The text without the blanks it starts with. -/
def trimStart (text : List Char) : List Char := text.dropWhile isBlank

/-- The text without the blanks it ends with. -/
def trimEnd (text : List Char) : List Char := (text.reverse.dropWhile isBlank).reverse

/-- The text without the blanks at both ends. -/
def trim (text : List Char) : List Char := trimEnd (trimStart text)

/-- Whether `c` is white space. -/
def isSpace (c : Char) : Bool := isBlank c && !within separators c

/-- The text without the white space at both ends. -/
def trimSpace (text : List Char) : List Char :=
  ((text.dropWhile isSpace).reverse.dropWhile isSpace).reverse

/-- `trim` on strings. -/
def trimmed (text : String) : String := String.ofList (trim text.toList)

/-- The maximal runs of characters that are not blank, in order. -/
def words : List Char → List (List Char)
  | [] => []
  | c :: rest =>
    if isBlank c then words rest
    else match rest with
      | [] => [[c]]
      | d :: _ =>
        if isBlank d then [c] :: words rest
        else match words rest with
          | [] => [[c]]
          | first :: others => (c :: first) :: others

/-- `text` in lower case, for a comparison with words of the letters A to Z: no other
character of Unicode that occurs in such a comparison has one of those letters as its
lower case. -/
def lowerAscii (text : List Char) : List Char := text.map Char.toLower

end FixFirst.Text
