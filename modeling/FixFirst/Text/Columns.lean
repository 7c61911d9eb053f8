import FixFirst.Text.CharWidth

/-!
# Columns

How many columns a text takes on a terminal, and how it is made to take a given number.  Two
characters change what others take: the joiner lets the character after it take none, and the
picture selector widens the character before it.

## Main definitions

* `clean` — a text without the characters that move the cursor.
* `columns` — the columns of a text.
* `clusters` — a text as groups of characters that are shown as one.
* `fitted`, `shortened` — a text cut or filled up to so many columns.
* `tabbed` — a line whose tabs reach to the next stop.

## Main statements

* `chars_clusters` — clusters lose nothing.
* `extent_keep_le` — what is kept of a text keeps to its columns.
-/

namespace FixFirst.Text

/-! ### Control characters -/

/-- Whether a character moves the cursor back or rings the bell. -/
def isControl (c : Char) : Bool := [0x07, 0x08, 0x0b, 0x0c, 0x0d].contains c.toNat

/-- A text without control characters. -/
def clean (text : List Char) : List Char := text.filter fun c => !isControl c

/-! ### Measuring -/

/-- The measure of a text so far. -/
structure Measure where
  columns : Nat
  /-- The last character that took a column and was not widened. -/
  last : Option Char
  /-- Whether the next character is joined to the one before. -/
  joined : Bool

/-- The measure after one more character. -/
def Measure.step (measure : Measure) (c : Char) : Measure :=
  if measure.joined then { measure with joined := false }
  else if c = joiner then { measure with joined := true }
  else if c = pictureSelector then
    ⟨measure.columns + (if measure.last.any isPicturable then 1 else 0), none, false⟩
  else if charColumns c = 0 then measure
  else ⟨measure.columns + charColumns c, some c, false⟩

/-- The columns of a text. -/
def columns (text : List Char) : Nat := (text.foldl Measure.step ⟨0, none, false⟩).columns

/-! ### Clusters -/

/-- Characters that are shown as one, and the columns they take. -/
structure Cluster where
  chars : List Char
  width : Nat
  deriving DecidableEq, Repr

/-- The clusters of a text so far, the newest first. -/
structure Clustering where
  done : List Cluster
  /-- The last character that took a column and was not widened. -/
  last : Option Char
  /-- Whether the next character is joined to the newest cluster. -/
  joined : Bool

namespace Clustering

/-- Puts a character into the newest cluster, which gets `extra` columns wider.  Without a cluster
the character starts one. -/
def attach (c : Char) (extra : Nat) : List Cluster → List Cluster
  | [] => [⟨[c], 0⟩]
  | newest :: others => ⟨newest.chars ++ [c], newest.width + extra⟩ :: others

/-- The clusters after one more character. -/
def step (state : Clustering) (c : Char) : Clustering :=
  if state.joined then { state with done := attach c 0 state.done, joined := false }
  else if c = joiner then { state with done := attach c 0 state.done, joined := !state.done.isEmpty }
  else if c = pictureSelector then
    if state.last.any isPicturable then ⟨attach c 1 state.done, none, false⟩
    else { state with done := attach c 0 state.done }
  else if charColumns c = 0 then { state with done := attach c 0 state.done }
  else ⟨⟨[c], charColumns c⟩ :: state.done, some c, false⟩

/-- The text that was clustered. -/
def text (state : Clustering) : List Char := (state.done.map (·.chars)).reverse.flatten

theorem flatten_attach (c : Char) (extra : Nat) (done : List Cluster) :
    ((attach c extra done).map (·.chars)).reverse.flatten = (done.map (·.chars)).reverse.flatten ++ [c] := by
  cases done <;> simp [attach]

@[simp] theorem text_step (state : Clustering) (c : Char) : (state.step c).text = state.text ++ [c] := by
  unfold step text
  repeat' split
  all_goals simp [flatten_attach]

theorem text_foldl_step (chars : List Char) (state : Clustering) :
    (chars.foldl step state).text = state.text ++ chars := by
  induction chars generalizing state with
  | nil => simp
  | cons c rest ih => simp [ih]

end Clustering

/-- A text as clusters. -/
def clusters (text : List Char) : List Cluster := (text.foldl Clustering.step ⟨[], none, false⟩).done.reverse

/-- Clusters lose nothing. -/
theorem chars_clusters (text : List Char) : ((clusters text).map (·.chars)).flatten = text := by
  have h := Clustering.text_foldl_step text ⟨[], none, false⟩
  simpa [Clustering.text, clusters] using h

/-! ### Fitting -/

/-- The clusters at the start that take at most `width` columns; a blank stands for the part of a
cluster that would not fit. -/
def keep (width : Nat) : List Cluster → List Cluster
  | [] => []
  | cluster :: rest =>
    if cluster.width ≤ width then cluster :: keep (width - cluster.width) rest
    else [⟨List.replicate width ' ', width⟩]

/-- The columns that clusters take together. -/
def extent : List Cluster → Nat
  | [] => 0
  | cluster :: rest => cluster.width + extent rest

/-- What is kept of a text keeps to its columns. -/
theorem extent_keep_le (width : Nat) (all : List Cluster) : extent (keep width all) ≤ width := by
  induction all generalizing width with
  | nil => simp [keep, extent]
  | cons cluster rest ih =>
    unfold keep
    split
    · have := ih (width - cluster.width)
      simp only [extent]
      omega
    · simp [extent]

/-- A text with blanks up to the column `width`. -/
def padded (width : Nat) (text : List Char) : List Char :=
  text ++ List.replicate (width - columns text) ' '

/-- A text cut or filled up to exactly `width` columns. -/
def fitted (width : Nat) (text : List Char) : List Char :=
  if columns text ≤ width then padded width text else ((keep width (clusters text)).map (·.chars)).flatten

/-- A text that is at most `width` columns wide; what is cut off is replaced by an ellipsis. -/
def shortened (width : Nat) (text : List Char) : List Char :=
  if columns text ≤ width then text else fitted (width - 1) text ++ ['…']

/-! ### Tabs -/

/-- The distance between two tab stops. -/
def tabSize : Nat := 8

/-- A text with at least one blank after it, up to the next tab stop. -/
def toStop (text : List Char) : List Char :=
  let spaced := text ++ [' ']
  spaced ++ List.replicate ((tabSize - columns spaced % tabSize) % tabSize) ' '

/-- The pieces of a line between its tabs, each but the last filled up to the next stop. -/
def tabbed (line : List Char) : List (List Char) :=
  let pieces := fields '\t' line
  pieces.dropLast.map toStop ++ pieces.getLast?.toList

/-- A line whose tabs are replaced by blanks. -/
def expandTabs (line : List Char) : List Char := (tabbed line).flatten

end FixFirst.Text
