import FixFirst.Markup.Literal.Token

/-!
# Levels of literals

A literal is read by rules that call each other: the rule for a value calls the one for sums, that
one the one for products, and so on down to the rule for what a single token may be; a value in
brackets is then read by the same rules again.  The level of a token is the number of rules that
are under way when it is looked at.  There is room for `maxLevel` of them.

A token is looked at wherever a value may start, also if it turns out to be the bracket that closes
what came before.

## Main definitions

* `Place.levels` — how many rules lie between the values inside a bracket and the bracket.
* `Descent.step` — where the next value may start, after one more token.
* `deepest` — the greatest level that is reached.
-/

namespace FixFirst.Markup

/-- How many rules may be under way. -/
def maxLevel : Nat := 6000

/-- How many rules lie between a value and its first token. -/
def valueLevels : Nat := 22

/-- How many more rules a quoted text takes. -/
def quotedLevels : Nat := 2

/-- What a value stands in. -/
inductive Place where
  | line
  | bracket (bracket : Bracket)
  /-- Brackets behind a word. -/
  | call
  deriving DecidableEq, Repr

/-- How many rules are called on the way to a value from the value that it stands in, by the number
of commas before it.  The members behind a comma are read by a rule of their own. -/
def Place.levels : Place → Nat → Nat
  | line, 0 => 3
  | line, _ => 5
  | bracket .round, 0 => 28
  | bracket .round, 1 => 30
  | bracket .round, _ => 31
  | bracket .curly, 0 => 29
  | bracket .curly, _ => 30
  | call, _ => 24

/-- A bracket that is open, or the line. -/
structure Frame where
  place : Place
  /-- The level of the value that the bracket opens. -/
  level : Nat
  /-- How many commas were read in it. -/
  commas : Nat
  deriving DecidableEq, Repr

/-- The line before anything is read. -/
def Frame.line : Frame := ⟨.line, 0, 0⟩

/-- The level of the next value. -/
def Frame.valueLevel (frame : Frame) : Nat := frame.level + frame.place.levels frame.commas

/-- What is known of levels after some tokens. -/
structure Descent where
  /-- The innermost frame. -/
  frame : Frame
  /-- The frames around it. -/
  outer : List Frame
  /-- Whether a value may start. -/
  starts : Bool
  /-- How many signs the value that may start has so far. -/
  signs : Nat
  /-- The greatest level that was reached. -/
  deepest : Nat
  deriving DecidableEq, Repr

namespace Descent

/-- Before any token. -/
def initial : Descent := ⟨.line, [], true, 0, 0⟩

/-- Goes into a bracket at a place. -/
def enter (descent : Descent) (place : Place) : Descent :=
  { descent with
    frame := ⟨place, descent.frame.valueLevel + descent.signs, 0⟩, outer := descent.frame :: descent.outer
    starts := true, signs := 0 }

/-- Leaves the innermost bracket. -/
def leave (descent : Descent) : Descent :=
  match descent.outer with
  | [] => descent
  | frame :: outer => { descent with frame := frame, outer := outer, starts := false, signs := 0 }

/-- Looks at a token where a value may start. -/
def look (descent : Descent) (token : Token) : Descent :=
  let extra := match token with
    | .quoted _ => quotedLevels
    | _ => 0
  { descent with
    deepest := max descent.deepest (descent.frame.valueLevel + descent.signs + valueLevels + extra) }

/-- One more token where a value may start. -/
def start (descent : Descent) : Token → Descent
  | .opening bracket => descent.enter (.bracket bracket)
  | .closing _ => descent.leave
  | .plus | .minus => { descent with signs := descent.signs + 1 }
  | _ => { descent with starts := false, signs := 0 }

/-- One more token behind a value. -/
def follow (descent : Descent) : Token → Descent
  | .opening _ => descent.enter .call
  | .closing _ => descent.leave
  | .comma => { descent with frame := { descent.frame with commas := descent.frame.commas + 1 }, starts := true }
  | .colon | .plus | .minus => { descent with starts := true }
  | _ => descent

/-- One more token. -/
def step (descent : Descent) (token : Token) : Descent :=
  if descent.starts then (descent.look token).start token else descent.follow token

end Descent

/-- The greatest level that is reached when tokens are read. -/
def deepest (tokens : List Token) : Nat := (tokens.foldl Descent.step .initial).deepest

end FixFirst.Markup
