import FixFirst.Markup.Literal
import FixFirst.Markup.Pictogram
import FixFirst.Markup.Style
import FixFirst.Text.Columns

/-!
# Marked text

A text may hold tags in square brackets.  A tag opens a style, a tag that starts with a slash
closes one: the last one of its name, or without a name the last one of all.  Backslashes before
a tag stand for half as many, and the odd one takes the meaning of a tag away.  What is not a tag
may hold names of pictograms.

What is left of a marked text is the text beside its tags, parts of which are in the styles that the
tags name.  What stands behind the equals sign of a tag belongs to its style.

## Main definitions

* `Piece.ofText` — a marked text as tags and the text between them.
* `render` — the text beside the tags and the styles of its parts, unless the tags do not fit
  together.
* `Marked.lookUp` — the fault of a style that cannot be looked up.
-/

namespace FixFirst.Markup

open Text

/-! ### Tags -/

/-- A part of a marked text. -/
inductive Piece where
  | text (chars : List Char)
  /-- A tag: its name, and what stands behind an equals sign. -/
  | tag (name : List Char) (parameters : Option (List Char))
  deriving DecidableEq, Repr

/-- Whether a tag may start with a character. -/
def startsTag (c : Char) : Bool := ('a' ≤ c && c ≤ 'z') || c == '#' || c == '/' || c == '@'

/-- The tag right at the start of a text, without its brackets, and the rest of the text. -/
def leadingTag? : List Char → Option (List Char × List Char)
  | '[' :: body =>
    let inside := body.takeWhile fun c => c != '[' && c != ']'
    match inside.head?, body.drop inside.length with
    | some first, ']' :: rest => if startsTag first then some (inside, rest) else none
    | _, _ => none
  | _ => none

theorem length_lt_of_leadingTag? {text inside rest : List Char} (h : leadingTag? text = some (inside, rest)) :
    rest.length < text.length := by
  unfold leadingTag? at h
  split at h
  · next body =>
    dsimp only at h
    split at h
    · next first rest' _ split =>
      have size := congrArg List.length split
      simp only [List.length_drop, List.length_cons] at size
      split at h
      · simp only [Option.some.injEq, Prod.mk.injEq] at h
        obtain ⟨_, rfl⟩ := h
        simp only [List.length_cons]
        omega
      · simp at h
    · simp at h
  · simp at h

namespace Piece

/-- The text of a tag as a name and its parameters. -/
def ofTag (inside : List Char) : Piece :=
  let name := inside.takeWhile (· != '=')
  tag name (if name.length < inside.length then some (inside.drop (name.length + 1)) else none)

/-- A tag behind so many backslashes. -/
def escaped (slashes : Nat) (inside : List Char) : List Piece :=
  (if slashes / 2 = 0 then [] else [text (List.replicate (slashes / 2) '\\')]) ++
    [if slashes % 2 = 1 then text ('[' :: inside ++ [']']) else ofTag inside]

/-- A piece of text, if there is any. -/
def ofPlain (reversed : List Char) : List Piece := if reversed.isEmpty then [] else [text reversed.reverse]

/-- The pieces of a text; `seen` is the text before it since the last tag, from its end to its
start. -/
def scan (seen rest : List Char) : List Piece :=
  match rest with
  | [] => ofPlain seen
  | c :: more =>
    let slashes := (c :: more).takeWhile (· == '\\')
    match found : leadingTag? ((c :: more).drop slashes.length) with
    | some (inside, after) =>
      have : after.length < more.length + 1 := by
        have := length_lt_of_leadingTag? found
        simp only [List.length_drop, List.length_cons] at this
        omega
      ofPlain seen ++ escaped slashes.length inside ++ scan [] after
    | none => scan (c :: seen) more
termination_by rest.length

/-- A marked text as tags and the text between them. -/
def ofText (text : List Char) : List Piece := scan [] text

end Piece

/-! ### The text beside the tags -/

/-- A part of a text in a style, from one position up to another. -/
structure Span where
  start : Nat
  finish : Nat
  /-- The style, in words. -/
  style : List Char
  deriving DecidableEq, Repr

/-- The part of a text that a span covers. -/
def Span.part (span : Span) (text : List Char) : List Char := (text.take span.finish).drop span.start

/-- A text, and the styles of its parts. -/
structure Marked where
  text : List Char
  spans : List Span
  deriving DecidableEq, Repr

/-- A tag that was opened. -/
structure Opened where
  /-- The name, in normal form. -/
  name : String
  parameters : Option (List Char)
  /-- How many characters of the text beside the tags stand before it. -/
  start : Nat
  deriving DecidableEq, Repr

namespace Opened

/-- Whether a tag names an action. -/
def isAction (opened : Opened) : Bool := opened.name.startsWith "@"

/-- Whether the parameters of a tag can be understood, which matters when a tag that names an
action is closed. -/
def isSound (opened : Opened) : Bool :=
  !opened.isAction || (opened.parameters.getD []).isEmpty || areParameters (opened.parameters.getD [])

/-- What a tag that ends at a position covers. -/
def span (opened : Opened) (finish : Nat) : Span :=
  ⟨opened.start, finish, opened.name.toList ++ ((opened.parameters.map (' ' :: ·)).getD [])⟩

end Opened

/-- Takes the first tag of a name out of a list. -/
def takeOut (name : String) : List Opened → Option (Opened × List Opened)
  | [] => none
  | opened :: rest =>
    if opened.name = name then some (opened, rest)
    else (takeOut name rest).map fun (found, others) => (found, opened :: others)

/-- Takes the first tag out of a list. -/
def lastOf : List Opened → Option (Opened × List Opened)
  | [] => none
  | opened :: rest => some (opened, rest)

/-- Closes a tag, the last one opened being the first of the list: the one of a name, or without a
name the last one.  The answer is that tag, and the others. -/
def close (name : List Char) (live : List Opened) : Except Fault (Opened × List Opened) := do
  let wanted := trim name
  let found ← if wanted.isEmpty then pure (lastOf live) else do pure (takeOut (← normalForm wanted) live)
  match found with
  | none => .error (.markup "a tag is closed that is not open")
  | some (opened, rest) =>
    if opened.isSound then .ok (opened, rest) else .error (.markup "parameters that cannot be read")

/-- A text in which a bracket behind a backslash stands for itself. -/
def withoutEscapes : List Char → List Char
  | '\\' :: '[' :: rest => '[' :: withoutEscapes rest
  | c :: rest => c :: withoutEscapes rest
  | [] => []

/-- The marked text of pieces at a position, while some tags are open.  These end with the text. -/
def markedOf (position : Nat) (live : List Opened) : List Piece → Except Fault Marked
  | [] => .ok ⟨[], live.map (·.span position)⟩
  | .text chars :: rest => do
    let shown := clean (withPictograms (withoutEscapes chars))
    let marked ← markedOf (position + shown.length) live rest
    return { marked with text := shown ++ marked.text }
  | .tag ('/' :: name) _ :: rest => do
    let (opened, others) ← close name live
    let marked ← markedOf position others rest
    return if opened.isAction then marked else { marked with spans := opened.span position :: marked.spans }
  | .tag name parameters :: rest => do
    markedOf position (⟨← normalForm name, parameters, position⟩ :: live) rest

/-- The text beside the tags of a marked text, with pictograms in place of their names and without
control characters, and the styles of its parts. -/
def render (text : List Char) : Except Fault Marked := markedOf 0 [] (Piece.ofText text)

/-- Looks up the styles of the spans that are shown.  Words that do not describe a style are no fault,
but colours may be. -/
def Marked.lookUp (marked : Marked) (isShown : Span → Bool) : Except Fault Unit :=
  (marked.spans.filter isShown).forM fun span => do
    let _ ← Style.empty.addWords ((words span.style).map String.ofList)

end FixFirst.Markup
