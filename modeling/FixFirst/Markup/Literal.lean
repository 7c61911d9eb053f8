import FixFirst.Markup.Literal.Level
import FixFirst.Schema.Codec
import FixFirst.Text.WordChar

/-!
# Literals

The parameters of a tag that names an action are a literal: a number, a quoted text, one of the
words for truth, falsehood and nothing, three dots, or a tuple, a set or a map of literals.  Only a
number has a sign, and only a number without an imaginary part is added to an imaginary one.  The
members of a set and the keys of a map cannot be sets or maps, nor hold any.

Brackets are read from the inside to the outside: what stands between two brackets is reduced to
what matters of its value before anything around it is looked at.

## Main definitions

* `Shape` — what matters of a value.
* `Stack.reduce` — the shape of what stands in brackets.
* `isLiteral` — whether a text is a literal.
* `areParameters` — whether a text may stand behind the equals sign of such a tag.
-/

namespace FixFirst.Markup

open Text

/-- What matters of a value. -/
inductive Shape where
  | number (value : Scalar)
  /-- A number with a sign. -/
  | signed (value : Scalar)
  /-- The word for sets, which becomes one only by the brackets after it. -/
  | setWord
  /-- Any other value that may be a key. -/
  | solid
  /-- A value that may not be a key. -/
  | changing
  deriving DecidableEq, Repr

namespace Shape

/-- Whether a shape is that of a value. -/
def isValue (shape : Shape) : Bool := shape != setWord

/-- Whether a shape is that of a value that may be a key. -/
def isKey (shape : Shape) : Bool := shape.isValue && shape != changing

/-- The shape of a tuple. -/
def ofTuple? (shapes : List Shape) : Option Shape :=
  if !shapes.all isValue then none else some (if shapes.all isKey then solid else changing)

/-- Whether an imaginary number can be added to a number. -/
def takesImaginary : Shape → Bool
  | number (.whole value) | signed (.whole value) => (Codec.numberOfInt? value).isSome
  | number .real | signed .real => true
  | _ => false

end Shape

/-- What stands between brackets. -/
inductive Item where
  | value (shape : Shape)
  | quoted (bytes : Bool)
  /-- A pair of round brackets with nothing in it. -/
  | unit
  | plus
  | minus
  | comma
  | colon
  deriving DecidableEq, Repr

namespace Item

/-- Whether an item is a sign. -/
def isSign (item : Item) : Bool := item == plus || item == minus

/-- Items cut at every one of a kind. -/
def cutAt (mark : Item) : List Item → List (List Item)
  | [] => [[]]
  | item :: rest =>
    if item = mark then [] :: cutAt mark rest
    else match cutAt mark rest with
      | [] => [[item]]
      | first :: others => (item :: first) :: others

/-- The shape of the value at the start of items, and the items left.  Quoted texts in a row are
one, if all of them are of bytes or none is. -/
def primary? : List Item → Option (Shape × List Item)
  | value .setWord :: unit :: rest => some (.changing, rest)
  | value shape :: rest => some (shape, rest)
  | unit :: rest => some (.solid, rest)
  | quoted bytes :: rest =>
    match rest.dropWhile (· == quoted bytes) with
    | quoted _ :: _ => none
    | left => some (.solid, left)
  | _ => none

/-- The shape of the value at the start of items, perhaps with a sign, and the items left. -/
def operand? : List Item → Option (Shape × List Item)
  | [] => none
  | item :: rest =>
    if item.isSign then
      match primary? rest with
      | some (.number scalar, left) => some (.signed scalar, left)
      | _ => none
    else primary? (item :: rest)

/-- The shape of the value that items write. -/
def shape? (items : List Item) : Option Shape := do
  let (first, rest) ← operand? items
  match rest with
  | [] => return first
  | sign :: more =>
    let (second, left) ← primary? more
    if sign.isSign && first.takesImaginary && second == .number .imaginary && left.isEmpty then return .solid
    else none

/-- Items cut at the commas, of which one may stand at the end. -/
def parts (items : List Item) : List (List Item) :=
  let cut := cutAt comma items
  if 1 < cut.length && cut.getLast? == some [] then cut.dropLast else cut

/-- Whether items are a key and its value. -/
def isEntry (items : List Item) : Bool :=
  match cutAt colon items with
  | [key, held] => (shape? key).any Shape.isKey && (shape? held).any Shape.isValue
  | _ => false

/-- The shape of items with commas between them, if there are any commas, or else of the items. -/
def shapeOfTuple? (items : List Item) : Option Shape := do
  if items.contains comma then Shape.ofTuple? (← (parts items).mapM shape?) else shape? items

/-- What round brackets and the items in them are. -/
def ofRound? (items : List Item) : Option Item :=
  if items.isEmpty then some unit else (shapeOfTuple? items).map value

/-- What curly brackets and the items in them are: a map, or a set. -/
def ofCurly? (items : List Item) : Option Item :=
  let parts := parts items
  if items.isEmpty || parts.all isEntry || parts.all (fun part => (shape? part).any Shape.isKey) then
    some (value .changing)
  else none

/-- What brackets and the items in them are. -/
def ofBracket? : Bracket → List Item → Option Item
  | .round => ofRound?
  | .curly => ofCurly?

/-- The styles of each letter of the word for sets. -/
def setLetters : List String :=
  ["sſˢₛｓ𝐬𝑠𝒔𝓈𝓼𝔰𝕤𝖘𝗌𝘀𝘴𝙨𝚜", "eᵉₑℯⅇｅ𝐞𝑒𝒆𝓮𝔢𝕖𝖊𝖾𝗲𝘦𝙚𝚎", "tᵗₜｔ𝐭𝑡𝒕𝓉𝓽𝔱𝕥𝖙𝗍𝘁𝘵𝙩𝚝"]

/-- Whether a word is the one for sets; its letters may be of any style. -/
def isSetWord (word : String) : Bool :=
  word.length == setLetters.length && (word.toList.zip setLetters).all fun (c, styles) => styles.contains c

/-- The words of literals. -/
def ofWord? (word : String) : Option Item :=
  if isSetWord word then some (value .setWord)
  else if ["True", "False", "None"].contains word then some (value .solid)
  else none

end Item

/-- The items since the innermost bracket that is open, and what stands before each bracket that is
open.  All items are in reverse order. -/
structure Stack where
  items : List Item
  outer : List (Bracket × List Item)
  deriving DecidableEq, Repr

namespace Stack

/-- The stack without items. -/
def empty : Stack := ⟨[], []⟩

/-- One more item. -/
def push (stack : Stack) (item : Item) : Stack := { stack with items := item :: stack.items }

/-- Puts one item in place of the innermost bracket and what stands in it. -/
def reduce (stack : Stack) (bracket : Bracket) : Option Stack := do
  let (opened, items) :: outer := stack.outer | none
  if opened = bracket then return ⟨(← Item.ofBracket? bracket stack.items.reverse) :: items, outer⟩ else none

/-- The stack after one more token. -/
def take (stack : Stack) : Token → Option Stack
  | .number value => some (stack.push (.value (.number value)))
  | .quoted bytes => some (stack.push (.quoted bytes))
  | .word name => (Item.ofWord? name).map stack.push
  | .dots => some (stack.push (.value .solid))
  | .opening bracket => some ⟨[], (bracket, stack.items) :: stack.outer⟩
  | .closing bracket => stack.reduce bracket
  | .comma => some (stack.push .comma)
  | .colon => some (stack.push .colon)
  | .plus => some (stack.push .plus)
  | .minus => some (stack.push .minus)
  | .lineEnd => none

end Stack

/-- Whether tokens are a literal, or several with commas between them.  The line may end after
it. -/
def areLiteral (tokens : List Token) : Bool :=
  let line := if tokens.getLast? == some .lineEnd then tokens.dropLast else tokens
  match line.foldlM Stack.take Stack.empty with
  | some ⟨items, []⟩ => (Item.shapeOfTuple? items.reverse).any Shape.isValue
  | _ => false

/-- Whether a text is a literal, or several with commas between them, and there is room for the rules
that read it. -/
def isLiteral (text : List Char) : Bool :=
  (Token.ofText text).any fun tokens => deepest tokens ≤ maxLevel && areLiteral tokens

/-- Whether a text may stand behind the equals sign of a tag that names an action: a name, a name
with a literal in brackets on the same line, or a literal. -/
def areParameters (text : List Char) : Bool :=
  let trimmed := trim text
  match trimmed.dropWhile fun c => isWordChar c || c == '.' with
  | [] => true
  | rest =>
    if rest.head? == some '(' && rest.getLast? == some ')' && !rest.contains '\n' then isLiteral rest
    else isLiteral trimmed

end FixFirst.Markup
