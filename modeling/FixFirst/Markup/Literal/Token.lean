import FixFirst.Decimal.Read
import FixFirst.Text.CharName

/-!
# The tokens of literals

A literal is written with numbers, quoted texts, words, brackets and a few signs.  Blanks, comments
after `#` and lines that go on behind a backslash stand between them.  Inside brackets the end of a
line is a blank too; outside it is a token, unless nothing else stands on the line.

## Main definitions

* `number?`, `quoted?` — a number or a quoted text at the start of a text.
* `Token.ofText` — the tokens of a text.
-/

namespace FixFirst.Markup

open Text

/-! ### Numbers -/

/-- What matters of a number. -/
inductive Scalar where
  | whole (value : Nat)
  | real
  | imaginary
  deriving DecidableEq, Repr

/-- Whether a character may stand in a name. -/
def isNameChar (c : Char) : Bool := c.isAlphanum || c == '_' || 0x80 ≤ c.toNat

/-- The digits at the start of a text, without the single underscores between them, and the rest of
the text. -/
def digitRun? (isDigit : Char → Bool) : List Char → Option (List Char × List Char)
  | [] => none
  | c :: rest =>
    if !isDigit c then none
    else match rest with
      | [] => some ([c], [])
      | d :: after =>
        if d = '_' then (digitRun? isDigit after).map fun (digits, left) => (c :: digits, left)
        else if isDigit d then (digitRun? isDigit (d :: after)).map fun (digits, left) => (c :: digits, left)
        else some ([c], d :: after)

/-- The base that a letter after a zero stands for. -/
def baseOf? (mark : Char) : Option Nat :=
  match mark.toLower with
  | 'x' => some 16
  | 'o' => some 8
  | 'b' => some 2
  | _ => none

/-- The rest of a text after the exponent that it may start with. -/
def afterExponent? : List Char → Option (Bool × List Char)
  | [] => some (false, [])
  | mark :: rest =>
    if mark.toLower = 'e' then
      (digitRun? Char.isDigit (splitSign rest).2).map fun (_, after) => (true, after)
    else some (false, mark :: rest)

/-- A decimal number at the start of a text, and the rest of the text.  A whole number other than
zero does not start with a zero. -/
def decimalNumber? (text : List Char) : Option (Scalar × List Char) := do
  let (whole, afterWhole) ← if text.head? == some '.' then some ([], text) else digitRun? Char.isDigit text
  let (pointed, afterPlaces) ← match afterWhole with
    | '.' :: rest =>
      if rest.head?.any Char.isDigit then (digitRun? Char.isDigit rest).map fun (_, after) => (true, after)
      else if whole.isEmpty then none
      else some (true, rest)
    | _ => some (false, afterWhole)
  let (scaled, afterScale) ← afterExponent? afterPlaces
  match afterScale with
  | mark :: rest => if mark.toLower = 'j' then return (.imaginary, rest)
  | [] => pure ()
  if pointed || scaled then return (.real, afterScale)
  if whole.head? == some '0' then
    if whole.all (· == '0') then return (.whole 0, afterScale) else none
  else if maxDigits < whole.length then none
  else return (.whole (ofDigits 10 whole), afterScale)

/-- A number of base two, eight or sixteen at the start of a text, and the rest of the text. -/
def basedNumber? : List Char → Option (Scalar × List Char)
  | '0' :: mark :: rest => do
    let base ← baseOf? mark
    let (digits, after) ← digitRun? (isDigitOf base) (if rest.head? == some '_' then rest.drop 1 else rest)
    return (.whole (ofDigits base digits), after)
  | _ => none

/-- A number at the start of a text, and the rest of the text; no name follows right after it. -/
def number? (text : List Char) : Option (Scalar × List Char) :=
  ((basedNumber? text).or (decimalNumber? text)).filter fun (_, rest) => !rest.head?.any isNameChar

/-! ### Quoted texts -/

/-- What stands before the closing quote, which may be tripled, and the rest of the text.  A text
between single quotes ends on its line. -/
def quoteBody? (quote : Char) (triple : Bool) : List Char → Option (List Char × List Char)
  | [] => none
  | '\\' :: c :: rest => (quoteBody? quote triple rest).map fun (body, left) => ('\\' :: c :: body, left)
  | c :: rest =>
    if c = quote && (!triple || rest.take 2 == [quote, quote]) then
      some ([], if triple then rest.drop 2 else rest)
    else if c = '\n' && !triple then none
    else (quoteBody? quote triple rest).map fun (body, left) => (c :: body, left)

/-- The first characters of a text, if there are so many and all are digits of base sixteen. -/
def hexDigits? (count : Nat) (text : List Char) : Option (List Char) :=
  let digits := text.take count
  if digits.length = count && digits.all (isDigitOf 16) then some digits else none

/-- Whether a text starts with the name of a character in curly brackets. -/
def startsWithName : List Char → Bool
  | '{' :: rest =>
    let name := rest.takeWhile (· != '}')
    name.length < rest.length && isCharName name
  | _ => false

/-- Whether what stands behind backslashes can be understood.  Bytes know fewer of these ways to
write a character. -/
def isWellEscaped (bytes : Bool) : List Char → Bool
  | [] => true
  | '\\' :: mark :: rest =>
    (match mark with
      | 'x' => (hexDigits? 2 rest).isSome
      | 'u' => bytes || (hexDigits? 4 rest).isSome
      | 'U' => bytes || (hexDigits? 8 rest).any fun digits => ofDigits 16 digits ≤ 0x10ffff
      | 'N' => bytes || startsWithName rest
      | _ => true) && isWellEscaped bytes rest
  | _ :: rest => isWellEscaped bytes rest

/-- The letters that may stand before a quote. -/
def quoteMarks : List String := ["", "r", "u", "b", "br", "rb"]

/-- A quoted text at the start of a text, whether it is one of bytes, and the rest of the text. -/
def quoted? (text : List Char) : Option (Bool × List Char) := do
  let letters := text.takeWhile Char.isAlpha
  let marks := letters.map Char.toLower
  let bytes := marks.contains 'b'
  match text.drop letters.length with
  | quote :: rest =>
    if !(quote == '"' || quote == '\'') || !quoteMarks.contains (String.ofList marks) then none
    else
      let triple := rest.take 2 == [quote, quote]
      let (body, after) ← quoteBody? quote triple (if triple then rest.drop 2 else rest)
      if (bytes && body.any fun c => 0x80 ≤ c.toNat) || !(marks.contains 'r' || isWellEscaped bytes body) then none
      else return (bytes, after)
  | [] => none

/-! ### Tokens -/

/-- The brackets of literals. -/
inductive Bracket where
  | round
  | curly
  deriving DecidableEq, Repr

/-- A token of a literal. -/
inductive Token where
  | number (value : Scalar)
  | quoted (bytes : Bool)
  | word (name : String)
  | dots
  | opening (bracket : Bracket)
  | closing (bracket : Bracket)
  | comma
  | colon
  | plus
  | minus
  | lineEnd
  deriving DecidableEq, Repr

namespace Token

/-- The token of a sign. -/
def ofSign? : Char → Option Token
  | '(' => some (opening .round)
  | ')' => some (closing .round)
  | '{' => some (opening .curly)
  | '}' => some (closing .curly)
  | ',' => some comma
  | ':' => some colon
  | '+' => some plus
  | '-' => some minus
  | _ => none

/-- A word at the start of a text, and the rest of the text. -/
def word? (text : List Char) : Option (Token × List Char) :=
  let name := text.takeWhile isNameChar
  if name.isEmpty then none else some (word (String.ofList name), text.drop name.length)

/-- The token at the start of a text, and the rest of the text. -/
def next? (text : List Char) : Option (Token × List Char) :=
  match text with
  | [] => none
  | '.' :: '.' :: '.' :: rest => some (dots, rest)
  | c :: rest =>
    match ofSign? c with
    | some token => some (token, rest)
    | none =>
      if c.isDigit || c == '.' then (number? text).map fun (value, after) => (number value, after)
      else ((quoted? text).map fun (bytes, after) => (quoted bytes, after)).or (word? text)

/-- How deep brackets may be nested. -/
def maxDepth : Nat := 200

/-- How deep brackets are nested after a token, if that is allowed. -/
def depthAfter? (depth : Nat) : Token → Option Nat
  | opening _ => if depth < maxDepth then some (depth + 1) else none
  | closing _ => some (depth - 1)
  | _ => some depth

/-- Where a token may start. -/
structure Position where
  /-- How deep brackets are nested. -/
  depth : Nat
  /-- Whether the line has no token yet. -/
  fresh : Bool
  /-- Whether the line starts with blanks. -/
  indented : Bool

/-- The tokens of a text from a position on; the first line with a token is not indented. -/
def scan (position : Position) (text : List Char) : Option (List Token) :=
  match text with
  | [] => some []
  | c :: rest =>
    let go (position : Position) (left : List Char) : Option (List Token) :=
      if left.length < rest.length + 1 then scan position left else none
    if c = ' ' || c = '\t' then go { position with indented := true } rest
    else if c = '\x0c' then go { position with indented := false } rest
    else if c = '#' then go position (rest.dropWhile (· != '\n'))
    else if c = '\\' then
      match rest with
      | '\n' :: next :: after => go position (next :: after)
      | _ => none
    else if c = '\n' then
      if 0 < position.depth then go position rest
      else if position.fresh then go ⟨0, true, false⟩ rest
      else (go ⟨0, true, false⟩ rest).map (lineEnd :: ·)
    else if position.fresh && position.indented && position.depth = 0 then none
    else do
      let (token, after) ← next? (c :: rest)
      let depth ← depthAfter? position.depth token
      let others ← go ⟨depth, false, false⟩ after
      return token :: others
termination_by text.length

/-- A text in which every line ends in the same way. -/
def withLineEnds : List Char → List Char
  | '\r' :: '\n' :: rest => '\n' :: withLineEnds rest
  | '\r' :: rest => '\n' :: withLineEnds rest
  | c :: rest => c :: withLineEnds rest
  | [] => []

/-- The tokens of a text. -/
def ofText (text : List Char) : Option (List Token) :=
  if text.contains '\x00' then none else scan ⟨0, true, false⟩ (withLineEnds text)

end Token

end FixFirst.Markup
