import FixFirst.Markup.Render
import FixFirst.Text.Columns
import FixFirst.Text.WordChar

/-!
# The console

What is said to the user is one line or several, in a tone that shows by a mark at the start and
by a colour.  Marks are shown when they are wanted, colours when they are wanted and the console
is a terminal.  Sections are set apart by a heading, whose title is a marked text.  In a coloured
title the words for truth, falsehood and nothing stand out.

## Main definitions

* `Tone` — what a line is about.
* `Console.say` — a line.
* `Console.heading` — the heading of a section.
-/

namespace FixFirst

open Text

/-- What a line is about. -/
inductive Tone where
  | info
  | ok
  | warn
  | fail
  deriving DecidableEq, Repr

namespace Tone

/-- All tones. -/
def all : List Tone := [info, ok, warn, fail]

/-- The name of a tone. -/
def name : Tone → String
  | info => "info"
  | ok => "ok"
  | warn => "warn"
  | fail => "fail"

/-- The tone with a name. -/
def ofName? (text : String) : Option Tone := all.find? fun tone => tone.name == text

/-- The mark at the start of a line. -/
def mark : Tone → String
  | info => "ℹ️ "
  | ok => "✅ "
  | warn => "⚠️ "
  | fail => "❌ "

/-- The number of the colour of a line. -/
def color : Tone → Nat
  | info => 36
  | ok => 32
  | warn => 33
  | fail => 31

end Tone

/-- Where the user is told something. -/
structure Console where
  /-- Whether somebody is looking. -/
  isTerminal : Bool
  deriving DecidableEq, Repr

namespace Console

/-- The columns of a line. -/
def width : Nat := 80

/-- The lines of a text as they are shown, each in the pieces between its tabs. -/
def linesOf (text : List Char) : List (List (List Char)) := (fields '\n' text).map tabbed

/-- A symbol, if symbols are wanted. -/
def symbol (wanted : Bool) (text : String) : String := if wanted then text else ""

/-- A text in a colour and shape, given by numbers; an empty text has none. -/
def painted (codes : List Nat) (text : List Char) : List Char :=
  if text.isEmpty then []
  else '\x1b' :: '[' :: [';'].intercalate (codes.map natText) ++ 'm' :: text ++ "\x1b[0m".toList

/-- Whether colours are shown.  Without a wish they are shown on a terminal. -/
def isColored (console : Console) (wish : Option Bool) : Bool :=
  wish.getD console.isTerminal && console.isTerminal

/-- A message in a tone, with the line break at its end. -/
def say (console : Console) (tone : Tone) (emoji : Bool) (wish : Option Bool) (message : String) : String :=
  let paint (piece : List Char) : List Char :=
    if console.isColored wish then painted [tone.color] piece else piece
  let lines := linesOf (clean ((symbol emoji tone.mark).toList ++ message.toList))
  String.ofList (['\n'].intercalate (lines.map fun pieces => (pieces.map paint).flatten) ++ ['\n'])

/-- The colour of the rule of a heading. -/
def ruleColor : Nat := 92

/-- A rule of so many columns. -/
def dashes (count : Nat) : List Char := List.replicate count '─'

/-- A text on a single line. -/
def oneLine (text : List Char) : List Char := expandTabs (text.map fun c => if c = '\n' then ' ' else c)

/-- The three parts of a rule across the console: a title with a blank on both sides, and what is
left and right of it.  The left part is the shorter one, if there is a difference.  The right part
reaches beyond the console, and the rule is cut to its columns as a whole. -/
def ruleParts (shown : List Char) : List Char × List Char × List Char :=
  let side := (width - columns shown) / 2
  let left := dashes (side - 1) ++ [' ']
  let whole := fitted width (left ++ shown ++ ' ' :: dashes (side + 1))
  (whole.take left.length, (whole.drop left.length).take shown.length, whole.drop (left.length + shown.length))

/-- How a word stands out that stands for a value. -/
def valueCodes? (word : List Char) : Option (List Nat) :=
  if word = "True".toList then some [3, 92]
  else if word = "False".toList then some [3, 91]
  else if word = "None".toList then some [3, 35]
  else none

/-- What is shown of a line, the words that stand for values standing out.  A word that was cut off
stands out up to the end. -/
def highlighted (line shown : List Char) : List Char :=
  let (done, left) := (line.splitBy fun a b => isWordChar a == isWordChar b).foldl
    (fun (done, left) run =>
      let part := left.take run.length
      (done ++ ((valueCodes? run).map (painted · part)).getD part, left.drop run.length))
    ([], shown)
  done ++ left

/-- Whether a span of a title is shown.  An empty one is not if the title holds tabs, nor is one that
starts where the title was cut off. -/
def isInRule (text line shown : List Char) (span : Markup.Span) : Bool :=
  !text.isEmpty && (!text.contains '\t' || span.start < span.finish) &&
    (line.length ≤ shown.length || (oneLine (text.take span.start)).length < shown.length)

/-- A rule across the console with a title in it. -/
def rule (colored : Bool) (title : List Char) : Except Fault (List Char) := do
  let paint (text : List Char) : List Char := if colored then painted [ruleColor] text else text
  if title.isEmpty then return paint (dashes width)
  let marked ← Markup.render title
  let line := oneLine marked.text
  let shown := shortened (width - 4) line
  marked.lookUp (isInRule marked.text line shown)
  let (left, middle, right) := ruleParts shown
  return paint left ++ (if colored then highlighted line middle else middle) ++ paint right

/-- Whether a span of a text is shown line by line. -/
def isInLines (text : List Char) (span : Markup.Span) : Bool := (span.part text).any (· != '\n')

/-- The heading of a section, an empty line before it. -/
def heading (console : Console) (color : Bool) (title : String) : Except Fault String := do
  let line ←
    if color then rule console.isTerminal title.toList
    else do
      let marked ← Markup.render ("--- ".toList ++ title.toList ++ " ---".toList)
      marked.lookUp (isInLines marked.text)
      pure (['\n'].intercalate ((linesOf marked.text).map List.flatten))
  return String.ofList ('\n' :: line ++ ['\n'])

end Console

end FixFirst
