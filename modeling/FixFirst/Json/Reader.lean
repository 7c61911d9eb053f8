import FixFirst.Decimal.Read
import FixFirst.Json.Basic

/-!
# Reading JSON

`Json.read` accepts one JSON document with white space around it.  Beyond the
standard it takes the words `NaN`, `Infinity` and `-Infinity` for numbers.  Of two
members with one key the last counts.  A control character in a text is refused.  A whole
number of more than `Text.maxDigits` digits is a failure of its own, and so are arrays and
objects that lie in one another deeper than there is room for.  An escape can stand for one
half of a pair that makes a character; a text with a half that stands alone has no characters
that it could be read as, which is a failure of its own, too.

The reader walks a list of characters.  Each of its nested calls follows a character
that was consumed, so a fuel of twice the length of the document is never used up.
-/

namespace FixFirst.Json

open Text

/-- Why a text is no JSON document. -/
inductive ReadFault where
  /-- The text does not follow the grammar. -/
  | malformed
  /-- A whole number has this many digits, which are too many. -/
  | oversized (digits : Nat)
  /-- An array lies too deep. -/
  | deepArray
  /-- An object lies too deep. -/
  | deepObject
  /-- In a text, half of a pair stands alone. -/
  | halved
  deriving DecidableEq, Repr

/-- White space between the parts of a document. -/
def isSpace (c : Char) : Bool := c = ' ' || c = '\t' || c = '\n' || c = '\r'

/-- The text after the white space it starts with. -/
def skipSpace (text : List Char) : List Char := text.dropWhile isSpace

/-- The value of a hexadecimal digit. -/
def hexValue? (c : Char) : Option Nat :=
  if '0' ≤ c && c ≤ '9' then some (c.toNat - '0'.toNat)
  else if 'a' ≤ c && c ≤ 'f' then some (c.toNat - 'a'.toNat + 10)
  else if 'A' ≤ c && c ≤ 'F' then some (c.toNat - 'A'.toNat + 10)
  else none

/-- The value of four hexadecimal digits. -/
def hexUnit? (a b c d : Char) : Option Nat := do
  return (((← hexValue? a) * 16 + (← hexValue? b)) * 16 + (← hexValue? c)) * 16 + (← hexValue? d)

/-- What a backslash and a letter stand for. -/
def escapeUnit? : Char → Option Nat
  | '"' => some 0x22
  | '\\' => some 0x5c
  | '/' => some 0x2f
  | 'b' => some 0x08
  | 'f' => some 0x0c
  | 'n' => some 0x0a
  | 'r' => some 0x0d
  | 't' => some 0x09
  | _ => none

/-- The code units of a text up to its closing quote, and what follows the quote. -/
def textUnits (units : List Nat) : List Char → Option (List Nat × List Char)
  | [] => none
  | '"' :: rest => some (units.reverse, rest)
  | '\\' :: 'u' :: a :: b :: c :: d :: rest =>
    match hexUnit? a b c d with
    | some unit => textUnits (unit :: units) rest
    | none => none
  | '\\' :: e :: rest =>
    match escapeUnit? e with
    | some unit => textUnits (unit :: units) rest
    | none => none
  | c :: rest => if c.toNat < 0x20 then none else textUnits (c.toNat :: units) rest

theorem textUnits_quote (units : List Nat) (rest : List Char) :
    textUnits units ('"' :: rest) = some (units.reverse, rest) := rfl

theorem textUnits_escape (units : List Nat) (a b c d : Char) (rest : List Char) :
    textUnits units ('\\' :: 'u' :: a :: b :: c :: d :: rest) =
      match hexUnit? a b c d with
      | some unit => textUnits (unit :: units) rest
      | none => none := rfl

/-- Whether a code unit is the first half of a pair. -/
def isHighHalf (unit : Nat) : Bool := 0xd800 ≤ unit && unit < 0xdc00

/-- Whether a code unit is the second half of a pair. -/
def isLowHalf (unit : Nat) : Bool := 0xdc00 ≤ unit && unit < 0xe000

/-- Whether a code unit is half of a pair. -/
def isHalf (unit : Nat) : Bool := isHighHalf unit || isLowHalf unit

/-- The characters of code units, the two halves of a pair being one character; none, if half of a
pair stands alone. -/
def joinUnits (done : List Char) : List Nat → Option (List Char)
  | [] => some done.reverse
  | high :: low :: rest =>
    if isHighHalf high && isLowHalf low then
      joinUnits (Char.ofNat (0x10000 + (high - 0xd800) * 0x400 + (low - 0xdc00)) :: done) rest
    else if isHalf high then none
    else joinUnits (Char.ofNat high :: done) (low :: rest)
  | [unit] => if isHalf unit then none else some (Char.ofNat unit :: done).reverse

theorem joinUnits_nil (done : List Char) : joinUnits done [] = some done.reverse := rfl

theorem joinUnits_one (done : List Char) (unit : Nat) :
    joinUnits done [unit] = if isHalf unit then none else some (Char.ofNat unit :: done).reverse := rfl

theorem joinUnits_two (done : List Char) (high low : Nat) (rest : List Nat) :
    joinUnits done (high :: low :: rest) =
      if isHighHalf high && isLowHalf low then
        joinUnits (Char.ofNat (0x10000 + (high - 0xd800) * 0x400 + (low - 0xdc00)) :: done) rest
      else if isHalf high then none
      else joinUnits (Char.ofNat high :: done) (low :: rest) := rfl

/-- The text after an opening quote, and what follows it. -/
def quotedText (input : List Char) : Except ReadFault (String × List Char) :=
  match textUnits [] input with
  | none => .error .malformed
  | some (units, rest) =>
    match joinUnits [] units with
    | none => .error .halved
    | some chars => .ok (String.ofList chars, rest)

/-- The whole part of a number: a zero alone, or digits that start with another one. -/
def wholeDigits? : List Char → Option (List Nat × List Char)
  | '0' :: rest => some ([0], rest)
  | text =>
    let (digits, rest) := plainDigits text
    if digits.isEmpty then none else some (digits, rest)

/-- The digits after a point; a point without digits does not belong to the number. -/
def placeDigits (text : List Char) : List Nat × List Char :=
  match text with
  | '.' :: rest =>
    let (digits, after) := plainDigits rest
    if digits.isEmpty then ([], text) else (digits, after)
  | _ => ([], text)

/-- The exponent; a mark without digits does not belong to the number. -/
def exponentPart (text : List Char) : Option Int × List Char :=
  match text with
  | mark :: rest =>
    if mark = 'e' || mark = 'E' then
      let (negative, body) := splitSign rest
      let (digits, after) := plainDigits body
      if digits.isEmpty then (none, text) else (some (signed negative (natOfDigits digits)), after)
    else (none, text)
  | [] => (none, text)

/-- A number: without places and exponent it is a whole one. -/
def number (text : List Char) : Except ReadFault (Json × List Char) :=
  let (negative, body) := match text with
    | '-' :: rest => (true, rest)
    | _ => (false, text)
  match wholeDigits? body with
  | none => .error .malformed
  | some (whole, afterWhole) =>
    let (places, afterPlaces) := placeDigits afterWhole
    let (exponent, rest) := exponentPart afterPlaces
    if places.isEmpty && exponent.isNone then
      if maxDigits < whole.length then .error (.oversized whole.length)
      else .ok (.int (signed negative (natOfDigits whole)), rest)
    else
      let shift := exponent.getD 0 - places.length
      .ok (.num (nearestDecimal negative (natOfDigits (whole ++ places)) shift), rest)

mutual

/-- One value at the start of a text, and the rest of the text; `room` is how deep arrays and
objects may lie in it. -/
def value : Nat → Nat → List Char → Except ReadFault (Json × List Char)
  | 0, _, _ => .error .malformed
  | fuel + 1, room, input =>
    match input with
    | '"' :: rest =>
      match quotedText rest with
      | .ok (body, after) => .ok (.str body, after)
      | .error fault => .error fault
    | '[' :: rest =>
      match room with
      | 0 => .error .deepArray
      | inside + 1 =>
        match skipSpace rest with
        | ']' :: after => .ok (.arr [], after)
        | start => elements fuel inside [] start
    | '\x7b' :: rest =>
      match room with
      | 0 => .error .deepObject
      | inside + 1 =>
        match skipSpace rest with
        | '\x7d' :: after => .ok (.obj [], after)
        | start => entries fuel inside [] start
    | 'n' :: 'u' :: 'l' :: 'l' :: rest => .ok (.null, rest)
    | 't' :: 'r' :: 'u' :: 'e' :: rest => .ok (.bool true, rest)
    | 'f' :: 'a' :: 'l' :: 's' :: 'e' :: rest => .ok (.bool false, rest)
    | 'N' :: 'a' :: 'N' :: rest => .ok (.num undefinedFloat, rest)
    | 'I' :: 'n' :: 'f' :: 'i' :: 'n' :: 'i' :: 't' :: 'y' :: rest =>
      .ok (.num (infiniteFloat false), rest)
    | '-' :: 'I' :: 'n' :: 'f' :: 'i' :: 'n' :: 'i' :: 't' :: 'y' :: rest =>
      .ok (.num (infiniteFloat true), rest)
    | _ => number input

/-- The items of an array up to its end, after those already `done`, newest first. -/
def elements : Nat → Nat → List Json → List Char → Except ReadFault (Json × List Char)
  | 0, _, _, _ => .error .malformed
  | fuel + 1, room, done, input =>
    match value fuel room input with
    | .error fault => .error fault
    | .ok (item, after) =>
      match skipSpace after with
      | ',' :: rest => elements fuel room (item :: done) (skipSpace rest)
      | ']' :: rest => .ok (.arr (item :: done).reverse, rest)
      | _ => .error .malformed

/-- The members of an object up to its end, after those already `done`. -/
def entries : Nat → Nat → Keyed Json → List Char → Except ReadFault (Json × List Char)
  | 0, _, _, _ => .error .malformed
  | fuel + 1, room, done, input =>
    match input with
    | '"' :: rest =>
      match quotedText rest with
      | .error fault => .error fault
      | .ok (key, afterKey) =>
        match skipSpace afterKey with
        | ':' :: body =>
          match value fuel room (skipSpace body) with
          | .error fault => .error fault
          | .ok (item, after) =>
            match skipSpace after with
            | ',' :: more => entries fuel room (done.put key item) (skipSpace more)
            | '\x7d' :: more => .ok (.obj (done.put key item), more)
            | _ => .error .malformed
        | _ => .error .malformed
    | _ => .error .malformed

end

section

variable (fuel room : Nat) (rest : List Char)

theorem value_quote : value (fuel + 1) room ('"' :: rest) =
    match quotedText rest with
    | .ok (body, after) => .ok (.str body, after)
    | .error fault => .error fault := rfl

theorem value_array : value (fuel + 1) (room + 1) ('[' :: rest) =
    match skipSpace rest with
    | ']' :: after => .ok (.arr [], after)
    | start => elements fuel room [] start := rfl

theorem value_deepArray : value (fuel + 1) 0 ('[' :: rest) = .error .deepArray := rfl

theorem value_object : value (fuel + 1) (room + 1) ('\x7b' :: rest) =
    match skipSpace rest with
    | '\x7d' :: after => .ok (.obj [], after)
    | start => entries fuel room [] start := rfl

theorem value_deepObject : value (fuel + 1) 0 ('\x7b' :: rest) = .error .deepObject := rfl

theorem value_null : value (fuel + 1) room ('n' :: 'u' :: 'l' :: 'l' :: rest) = .ok (.null, rest) := rfl

theorem value_true : value (fuel + 1) room ('t' :: 'r' :: 'u' :: 'e' :: rest) = .ok (.bool true, rest) := rfl

theorem value_false : value (fuel + 1) room ('f' :: 'a' :: 'l' :: 's' :: 'e' :: rest) = .ok (.bool false, rest) := rfl

theorem elements_item (done : List Json) (input : List Char) : elements (fuel + 1) room done input =
    match value fuel room input with
    | .error fault => .error fault
    | .ok (item, after) =>
      match skipSpace after with
      | ',' :: rest => elements fuel room (item :: done) (skipSpace rest)
      | ']' :: rest => .ok (.arr (item :: done).reverse, rest)
      | _ => .error .malformed := rfl

theorem entries_member (done : Keyed Json) : entries (fuel + 1) room done ('"' :: rest) =
    match quotedText rest with
    | .error fault => .error fault
    | .ok (key, afterKey) =>
      match skipSpace afterKey with
      | ':' :: body =>
        match value fuel room (skipSpace body) with
        | .error fault => .error fault
        | .ok (item, after) =>
          match skipSpace after with
          | ',' :: more => entries fuel room (done.put key item) (skipSpace more)
          | '\x7d' :: more => .ok (.obj (done.put key item), more)
          | _ => .error .malformed
      | _ => .error .malformed := rfl

end

/-- The value a document denotes; `room` is how deep arrays and objects may lie in it. -/
def read (room : Nat) (document : List Char) : Except ReadFault Json :=
  match value (2 * document.length + 2) room (skipSpace document) with
  | .error fault => .error fault
  | .ok (result, rest) => if (skipSpace rest).isEmpty then .ok result else .error .malformed

end FixFirst.Json
