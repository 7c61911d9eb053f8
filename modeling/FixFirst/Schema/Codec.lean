import FixFirst.Disk
import FixFirst.Json.Printer
import FixFirst.Json.Reader

/-!
# Reading and writing values

A `Codec` reads a value from JSON and writes it as JSON.  Reading is lenient where the
meaning is plain: a whole number may come as a text of digits, a truth value as `yes` or
`off`.  Reading does not stop at the first flaw; it collects all of them, each with its
place.

## Main definitions

* `Reading` — a value, the flaws found instead, or a fault that ends the reading.
* `Codec` — a reader and a writer.
-/

namespace FixFirst

open Text

/-- The sort of values that a value belongs to. -/
def Json.sort : Json → String
  | .null => "NoneType"
  | .bool _ => "bool"
  | .int _ => "int"
  | .num _ => "float"
  | .str _ => "str"
  | .arr _ => "list"
  | .obj _ => "dict"

/-- A value as it is shown when something is wrong with it. -/
def Json.exhibit (value : Json) : Exhibit := ⟨String.ofList value.nestedText, value.sort⟩

/-- What reading a value gives. -/
inductive Reading (α : Type) where
  /-- The value. -/
  | good (value : α)
  /-- The flaws that were found. -/
  | flawed (problems : List Problem)
  /-- A fault that ends the reading of everything around the value. -/
  | broken (fault : Fault)
  deriving Repr

namespace Reading

variable {α β : Type}

/-- The reading of a value that has a flaw. -/
def flaw (value : Json) (kind : Flaw) : Reading α := flawed [⟨[], kind, value.exhibit⟩]

/-- Applies `f` to the value. -/
def map (f : α → β) : Reading α → Reading β
  | good value => good (f value)
  | flawed problems => flawed problems
  | broken fault => broken fault

/-- Reads on from the value. -/
def andThen (reading : Reading α) (next : α → Reading β) : Reading β :=
  match reading with
  | good value => next value
  | flawed problems => flawed problems
  | broken fault => broken fault

/-- The reading of a part, its flaws placed inside the whole. -/
def under (step : Step) : Reading α → Reading α
  | flawed problems => flawed (problems.map fun problem => { problem with place := step :: problem.place })
  | reading => reading

/-- Puts the reading of a head and of a tail together: a fault wins, else flaws add up. -/
def prepend (head : Reading α) (tail : Reading (List α)) : Reading (List α) :=
  match head, tail with
  | broken fault, _ => broken fault
  | _, broken fault => broken fault
  | flawed first, flawed others => flawed (first ++ others)
  | flawed first, good _ => flawed first
  | good _, flawed others => flawed others
  | good value, good rest => good (value :: rest)

/-- All values of a list of readings, or all their flaws. -/
def collect : List (Reading α) → Reading (List α)
  | [] => good []
  | head :: rest => prepend head (collect rest)

/-- The value, or the fault of a record having flaws. -/
def result (title : String) : Reading α → Except Fault α
  | good value => .ok value
  | flawed problems => .error (.invalid title problems)
  | broken fault => .error fault

end Reading

/-- A reader and a writer of values. -/
structure Codec (α : Type) where
  decode : Json → Reading α
  encode : α → Json
  /-- How something is written that was taken for a value without being read.  In what is not of the
  kind that is expected, numbers are left out that are infinite or undefined. -/
  restate : Json → Json := Json.dropInfinite

namespace Codec

variable {α : Type}

/-- A text. -/
def text : Codec String where
  decode
    | .str value => .good value
    | value => .flaw value .notText
  encode := .str

/-- The digits at the start of a text and the rest of the text.  An underscore before a digit is
skipped where something came before it, which is told by `inside`. -/
def digitsFrom (inside : Bool) : List Char → List Nat × List Char
  | [] => ([], [])
  | '_' :: d :: rest =>
    if inside && d.isDigit then
      let (digits, after) := digitsFrom true rest
      (asciiDigit d :: digits, after)
    else ([], '_' :: d :: rest)
  | c :: rest =>
    if c.isDigit then
      let (digits, after) := digitsFrom true rest
      (asciiDigit c :: digits, after)
    else ([], c :: rest)

/-- The zeros that a text starts with, underscores among them, and the rest of the text. -/
def leadingZeros (text : List Char) : List Char × List Char :=
  match text with
  | '0' :: _ => text.span fun c => c == '0' || c == '_'
  | _ => ([], text)

/-- The text of an unsigned number from its first digit that counts.  Among the zeros before that
digit underscores may stand in any number; without such a digit, what stands last counts. -/
def skipZeros (text : List Char) : List Char :=
  let (zeros, rest) := leadingZeros text
  if rest.head?.any Char.isDigit then rest else zeros.getLast?.toList ++ rest

/-- The digits of a number without a sign: single underscores may stand between them, and a point
with zeros behind them.  There may be `maxDigits` digits.  Where something came before, which is
told by `inside`, an underscore may divide it from the digits. -/
def wholeDigits? (inside : Bool) (text : List Char) : Option (List Nat) :=
  let (digits, rest) := digitsFrom inside text
  let whole := match rest with
    | [] => true
    | c :: places => c == '.' && !places.isEmpty && places.all (· == '0')
  if whole && !digits.isEmpty && digits.length ≤ maxDigits then some digits else none

/-- The whole number in a text: white space around it, a sign, and digits.  Instead of the sign, a
minus may stand behind zeros; the digits after it do not start with a zero, unless that is all of
them. -/
def integerText? (chars : List Char) : Option Int :=
  let (negative, body) := splitSign (trimSpace chars)
  match leadingZeros body with
  | ('0' :: _, '-' :: late) => do
    let digits ← wholeDigits? true late
    if negative || (digits.head? == some 0 && digits.length != 1) then none
    else return signed true (natOfDigits digits)
  | _ => (wholeDigits? false (skipZeros body)).map fun digits => signed negative (natOfDigits digits)

/-- Whether a text starts, right after a minus if there is one, with more than `maxDigits` digits
of which the first is no zero. -/
def isOversized (chars : List Char) : Bool :=
  let body := match chars with
    | '-' :: rest => rest
    | _ => chars
  body.head? != some '0' && maxDigits < (body.takeWhile Char.isDigit).length

/-- The bound that whole numbers taken from binary ones stay below, whatever their sign. -/
def wordBound : Nat := 0x8000000000000000

/-- A whole number. -/
def integer : Codec Int where
  decode given := match given with
    | .int value => .good value
    | .bool value => .good (if value then 1 else 0)
    | .num value =>
      match Exact.ofFloat value with
      | .finite negative num den =>
        if num % den ≠ 0 then .flaw given .fractional
        else if num / den < wordBound then .good (signed negative (num / den))
        else .flaw given .oversizedInteger
      | _ => .flaw given .notFinite
    | .str value =>
      if isOversized value.toList then .flaw given .oversizedInteger
      else match integerText? value.toList with
        | some number => .good number
        | none => .flaw given .unreadableInteger
    | _ => .flaw given .notInteger
  encode := .int
  restate
    | .bool value => .int (if value then 1 else 0)
    | value => value.dropInfinite

/-- The binary number nearest to a whole number, unless it is beyond the largest one. -/
def numberOfInt? (value : Int) : Option Float :=
  let x := nearest (value < 0) value.natAbs 1
  match Exact.ofFloat x with
  | .finite .. => some x
  | _ => none

/-- A number. -/
def number : Codec Float where
  decode given := match given with
    | .num value => .good value
    | .int value =>
      match numberOfInt? value with
      | some x => .good x
      | none => .flaw given .notNumber
    | .bool value => .good (if value then 1 else 0)
    | .str value =>
      match lenientDecimal? value.toList with
      | some x => .good x
      | none => .flaw given .unreadableNumber
    | _ => .flaw given .notNumber
  encode := .num
  restate
    | .bool value => .num (if value then 1 else 0)
    | .int value => ((numberOfInt? value).map Json.num).getD (.int value)
    | .num value => .num value
    | value => value.dropInfinite

/-- The words for truth. -/
def trueWords : List String := ["1", "on", "t", "true", "y", "yes"]

/-- The words for falsehood. -/
def falseWords : List String := ["0", "off", "f", "false", "n", "no"]

/-- The truth value that a whole number stands for, if it is none or one.  Any other number is
unreadable, and beyond the range of a word it is no truth value at all. -/
def truthOf (given : Json) (value : Int) : Reading Bool :=
  if value = 1 then .good true
  else if value = 0 then .good false
  else if -(wordBound : Int) ≤ value && value < wordBound then .flaw given .unreadableBoolean
  else .flaw given .notBoolean

/-- A truth value. -/
def boolean : Codec Bool where
  decode given := match given with
    | .bool value => .good value
    | .int value => truthOf given value
    | .num value =>
      match Exact.ofFloat value with
      | .finite negative num den =>
        if num % den = 0 && num / den < wordBound then truthOf given (signed negative (num / den))
        else .flaw given .notBoolean
      | _ => .flaw given .notBoolean
    | .str value =>
      let word := String.ofList (lowerAscii value.toList)
      if trueWords.contains word then .good true
      else if falseWords.contains word then .good false
      else .flaw given .unreadableBoolean
    | _ => .flaw given .notBoolean
  encode := .bool

/-- One of a list of named values. -/
def choice (options : List α) (name : α → String) : Codec α where
  decode given :=
    match options.find? fun option => given.isText (name option) with
    | some option => .good option
    | none => .flaw given (.notChoice (options.map name))
  encode option := .str (name option)

/-- A path, without its empty names and dots. -/
def path : Codec Path where
  decode
    | .str value => .good (Path.ofText value)
    | value => .flaw value .notPath
  encode value := .str value.text

/-- A value that may be left out. -/
def optional (codec : Codec α) : Codec (Option α) where
  decode
    | .null => .good none
    | value => (codec.decode value).map some
  encode
    | none => .null
    | some value => codec.encode value
  restate
    | .null => .null
    | value => codec.restate value

/-- A list of values. -/
def list (codec : Codec α) : Codec (List α) where
  decode
    | .arr values =>
      .collect (values.zipIdx.map fun (value, position) => (codec.decode value).under (.index position))
    | value => .flaw value .notList
  encode values := .arr (values.map codec.encode)
  restate
    | .arr values => .arr (values.map codec.restate)
    | value => value.dropInfinite

/-- A map of values. -/
def map (codec : Codec α) : Codec (Keyed α) where
  decode
    | .obj members =>
      .collect (members.map fun (key, value) =>
        ((codec.decode value).under (.field key)).map fun entry => (key, entry))
    | value => .flaw value .notMap
  encode entries := .obj (entries.mapValues codec.encode)
  restate
    | .obj members => .obj (Keyed.mapValues codec.restate members)
    | value => value.dropInfinite

/-- A value that has to meet a condition. -/
def limited (codec : Codec α) (holds : α → Bool) (flaw : Flaw) : Codec α where
  decode value := (codec.decode value).andThen fun result =>
    if holds result then .good result else .flaw value flaw
  encode := codec.encode
  restate := codec.restate

/-- A whole number that is at least `least`, which is not negative. -/
def count (least : Nat) : Codec Nat where
  decode value := (integer.decode value).andThen fun result =>
    if (least : Int) ≤ result then .good result.toNat
    else .flaw value (.tooSmall (String.ofList (natText least)))
  encode value := .int value
  restate := integer.restate

/-- The text of a bound, without the places of a whole number. -/
def boundText (bound : Float) : String :=
  match Exact.ofFloat bound with
  | .finite negative num den =>
    if num % den = 0 then String.ofList (intText (signed negative (num / den)))
    else String.ofList (Json.plainStyle.text bound)
  | _ => String.ofList (Json.plainStyle.text bound)

/-- A number above `bound`. -/
def above (bound : Float) (codec : Codec Float) : Codec Float :=
  codec.limited (fun value => bound < value) (.notAbove (boundText bound))

/-- A number of at least `bound`. -/
def atLeast (bound : Float) (codec : Codec Float) : Codec Float :=
  codec.limited (fun value => bound ≤ value) (.tooSmall (boundText bound))

/-- A number of at most `bound`. -/
def atMost (bound : Float) (codec : Codec Float) : Codec Float :=
  codec.limited (fun value => value ≤ bound) (.tooLarge (boundText bound))

/-- A number below `bound`. -/
def below (bound : Float) (codec : Codec Float) : Codec Float :=
  codec.limited (fun value => value < bound) (.notBelow (boundText bound))

/-- The reading of a path that was normalised: a value out of its domain is a flaw, any other
fault ends the reading. -/
def ofNormal (given : Json) : Except Fault α → Reading α
  | .ok value => .good value
  | .error (.value reason) => .flaw given (.rejected reason)
  | .error fault => .broken fault

/-- The absolute path of a file that a value names. -/
def normalFile (disk : Disk) : Json → Except Fault String
  | .str text => disk.normalize text
  | value => .error (.type s!"expected str, bytes or os.PathLike object, not {value.sort}")

/-- The path of a file, made absolute. -/
def file (disk : Disk) : Codec String where
  decode value := ofNormal value (normalFile disk value)
  encode := .str

/-- The fault of going through a value that has no parts. -/
def notWalkable (value : Json) : Fault := .type s!"'{value.sort}' object is not iterable"

/-- The texts that are found by going through a value: the items of a list, the characters of
a text, the keys of a map.  A value that counts as nothing has none. -/
def walkTexts : Json → Except Fault (List Json)
  | .null => .ok []
  | .bool value => if value then .error (notWalkable (.bool value)) else .ok []
  | .int value => if value = 0 then .ok [] else .error (notWalkable (.int value))
  | .num value => if value == 0 then .ok [] else .error (notWalkable (.num value))
  | .str value => .ok (value.toList.map fun c => .str (String.ofList [c]))
  | .arr values => .ok values
  | .obj members => .ok (members.map fun entry => .str entry.1)

/-- The paths of files, made absolute and without repetitions. -/
def files (disk : Disk) : Codec (List String) where
  decode value := ofNormal value do
    return firsts (← (← walkTexts value).mapM (normalFile disk))
  encode := Json.ofTexts

end Codec

end FixFirst
