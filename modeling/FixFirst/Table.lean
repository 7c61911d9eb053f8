import FixFirst.Text.Columns

/-!
# Tables

A table has a heading for each column and rows of as many cells.  Heading, columns and rows may
have a style, which is the name of a colour or a weight.
-/

namespace FixFirst

open Text

/-- A column of a table. -/
structure Column where
  title : String
  style : Option String
  deriving DecidableEq, Repr

/-- A row of a table. -/
structure Row where
  cells : List String
  style : Option String
  deriving DecidableEq, Repr

/-- A table. -/
structure Table where
  headerStyle : Option String
  columns : List Column
  rows : List Row
  deriving DecidableEq, Repr

namespace Table

/-- The widths that columns need for a list of lines. -/
def widths : List (List String) → List Nat
  | [] => []
  | [line] => line.map fun cell => Text.columns cell.toList
  | line :: rest => List.zipWith max (line.map fun cell => Text.columns cell.toList) (widths rest)

/-- Cells between bars, each filled up to its width. -/
def barred (sizes : List Nat) (cells : List String) : String :=
  let fill (size : Nat) (cell : String) : String := String.ofList (padded size cell.toList)
  "│ " ++ " │ ".intercalate (List.zipWith fill sizes cells) ++ " │\n"

/-- A line of the frame. -/
def framed (sizes : List Nat) (left middle right : String) : String :=
  left ++ middle.intercalate (sizes.map fun size => String.ofList (List.replicate (size + 2) '─')) ++ right ++ "\n"

/-- A table in a frame, without its styles. -/
def text (table : Table) : String :=
  let titles := table.columns.map (·.title)
  let lines := table.rows.map (·.cells)
  let sizes := widths (titles :: lines)
  framed sizes "╭" "┬" "╮" ++ barred sizes titles ++ framed sizes "├" "┼" "┤" ++
    String.join (lines.map (barred sizes)) ++ framed sizes "╰" "┴" "╯"

end Table

end FixFirst
