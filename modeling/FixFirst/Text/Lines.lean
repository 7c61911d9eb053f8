import FixFirst.Text.CharClass

/-!
# Lines

A line ends at a line feed, a carriage return (with the line feed after it, if
there is one), a vertical tab, a form feed, one of three information separators,
a next-line character, or a line or paragraph separator.  The last line needs no
end.
-/

namespace FixFirst.Text

/-- The ranges of characters that end a line. -/
def lineBreaks : List (Nat × Nat) :=
  [(0x0a, 0x0d), (0x1c, 0x1e), (0x85, 0x85), (0x2028, 0x2029)]

/-- Whether `c` ends a line. -/
def isLineBreak (c : Char) : Bool := within lineBreaks c

/-- The lines of a text, without the characters that end them. -/
def lines : List Char → List (List Char)
  | [] => []
  | '\r' :: '\n' :: rest => [] :: lines rest
  | c :: rest =>
    if isLineBreak c then [] :: lines rest
    else match lines rest with
      | [] => [[c]]
      | first :: others => (c :: first) :: others

end FixFirst.Text
