import FixFirst.Text.Blank

/-!
# Groups of names

The names of characters are made of words with single blanks between them, and many of them start
or end alike.  They are therefore kept in groups: every head of a group followed by every tail of
it is a name.
-/

namespace FixFirst.Text

/-- Names that are a head followed by a tail.  Commas divide the heads and semicolons the tails. -/
structure NameGroup where
  heads : String
  tails : String
  deriving DecidableEq, Repr

namespace NameGroup

/-- The words of each part of a text between two marks. -/
def phrases (mark : Char) (text : String) : List (List (List Char)) := (fields mark text.toList).map words

/-- Whether words are a name of a group. -/
def holds (group : NameGroup) (name : List (List Char)) : Bool :=
  (phrases ',' group.heads).any fun head =>
    head.isPrefixOf name && (phrases ';' group.tails).contains (name.drop head.length)

end NameGroup

end FixFirst.Text
