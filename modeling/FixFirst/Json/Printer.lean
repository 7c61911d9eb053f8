import FixFirst.Decimal.Layout
import FixFirst.Json.Basic
import FixFirst.Text.Quoted

/-!
# Writing JSON

A document is written compactly, or with one member a line and an indentation of
two; its characters are all ASCII, or those beyond ASCII stand for themselves.
`plainText` is the text of a value for a human reader.  A whole number of more than
`Text.maxDigits` digits cannot be written.
-/

namespace FixFirst.Json

open Text

/-- Numbers in a document: positional from 0.0001 up to 10 to the 16th. -/
def numberStyle : NumberStyle := ⟨-4, 16, 2, "Infinity", "NaN"⟩

/-- Numbers in a text for a human reader. -/
def plainStyle : NumberStyle := ⟨-4, 16, 2, "inf", "nan"⟩

/-- A code unit as an escape of four hexadecimal digits. -/
def unitEscape (unit : Nat) : List Char := '\\' :: 'u' :: hexText 4 unit

/-- The escapes of a character by its one or two code units. -/
def charEscape (c : Char) : List Char :=
  let point := c.toNat
  if point < 0x10000 then unitEscape point
  else
    let offset := point - 0x10000
    unitEscape (0xd800 + offset / 0x400) ++ unitEscape (0xdc00 + offset % 0x400)

/-- A character that has an escape of one letter. -/
def shortEscape? (c : Char) : Option (List Char) :=
  if c = '"' then some ['\\', '"']
  else if c = '\\' then some ['\\', '\\']
  else if c = '\n' then some ['\\', 'n']
  else if c = '\r' then some ['\\', 'r']
  else if c = '\t' then some ['\\', 't']
  else if c.toNat = 0x08 then some ['\\', 'b']
  else if c.toNat = 0x0c then some ['\\', 'f']
  else none

/-- A character of a text in a document of ASCII characters. -/
def asciiChar (c : Char) : List Char :=
  match shortEscape? c with
  | some escape => escape
  | none => if 0x20 ≤ c.toNat && c.toNat < 0x7f then [c] else charEscape c

/-- A character of a text in a document in which only control characters are escaped. -/
def openChar (c : Char) : List Char :=
  match shortEscape? c with
  | some escape => escape
  | none => if 0x20 ≤ c.toNat then [c] else charEscape c

/-- A text between quotes, each character written by `char`. -/
def textWith (char : Char → List Char) (text : String) : List Char :=
  '"' :: text.toList.flatMap char ++ ['"']

/-- Puts a separator between texts. -/
def separated (separator : List Char) : List (List Char) → List Char
  | [] => []
  | [last] => last
  | first :: rest => first ++ separator ++ separated separator rest

/-- How a document is laid out. -/
structure Style where
  /-- A character of a text. -/
  char : Char → List Char
  /-- What follows a key. -/
  afterKey : List Char
  /-- Whether each item and member has a line of its own. -/
  spread : Bool

/-- No space, and ASCII characters only. -/
def compactStyle : Style := ⟨asciiChar, [':'], false⟩

/-- No space, and characters beyond ASCII as they are. -/
def openStyle : Style := ⟨openChar, [':'], false⟩

/-- A line for each item and member, indented by two, and ASCII characters only. -/
def spreadStyle : Style := ⟨asciiChar, [':', ' '], true⟩

/-- The start of a line at a depth. -/
def Style.newLine (style : Style) (depth : Nat) : List Char :=
  if style.spread then '\n' :: List.replicate (2 * depth) ' ' else []

/-- Parts between two brackets; without parts the brackets touch. -/
def Style.bracket (style : Style) (opening closing : Char) (depth : Nat)
    (parts : List (List Char)) : List Char :=
  if parts.isEmpty then [opening, closing]
  else opening :: style.newLine (depth + 1) ++ separated (',' :: style.newLine (depth + 1)) parts ++
    style.newLine depth ++ [closing]

/-- The text of a truth value. -/
def boolText (value : Bool) : List Char := if value then "true".toList else "false".toList

mutual

/-- A value at a depth of nesting. -/
def write (style : Style) (depth : Nat) : Json → List Char
  | .null => "null".toList
  | .bool value => boolText value
  | .int value => intText value
  | .num value => numberStyle.text value
  | .str value => textWith style.char value
  | .arr values => style.bracket '[' ']' depth (writeItems style (depth + 1) values)
  | .obj members => style.bracket '\x7b' '\x7d' depth (writeMembers style (depth + 1) members)

/-- The items of an array. -/
def writeItems (style : Style) (depth : Nat) : List Json → List (List Char)
  | [] => []
  | value :: rest => write style depth value :: writeItems style depth rest

/-- The members of an object. -/
def writeMembers (style : Style) (depth : Nat) : List (String × Json) → List (List Char)
  | [] => []
  | (key, value) :: rest =>
    (textWith style.char key ++ style.afterKey ++ write style depth value) ::
      writeMembers style depth rest

end

mutual

/-- Whether every whole number of a value has few enough digits to be written. -/
def isWritable : Json → Bool
  | .int value => Text.isWritable value
  | .arr values => areItemsWritable values
  | .obj members => areMembersWritable members
  | _ => true

/-- `isWritable` on the items of an array. -/
def areItemsWritable : List Json → Bool
  | [] => true
  | value :: rest => isWritable value && areItemsWritable rest

/-- `isWritable` on the members of an object. -/
def areMembersWritable : List (String × Json) → Bool
  | [] => true
  | (_, value) :: rest => isWritable value && areMembersWritable rest

end

/-- A compact document of ASCII characters. -/
def compact (value : Json) : String := String.ofList (write compactStyle 0 value)

/-- A compact document in which only control characters are escaped. -/
def compactOpen (value : Json) : String := String.ofList (write openStyle 0 value)

/-- A document with a line for each item and member. -/
def spread (value : Json) : String := String.ofList (write spreadStyle 0 value)

mutual

/-- The text of a value inside a list or a map: a text is quoted. -/
def nestedText : Json → List Char
  | .null => "None".toList
  | .bool value => if value then "True".toList else "False".toList
  | .int value => intText value
  | .num value => plainStyle.text value
  | .str value => quoted value.toList
  | .arr values => '[' :: separated [',', ' '] (nestedItems values) ++ [']']
  | .obj members => '\x7b' :: separated [',', ' '] (nestedMembers members) ++ ['\x7d']

/-- `nestedText` on the items of a list. -/
def nestedItems : List Json → List (List Char)
  | [] => []
  | value :: rest => nestedText value :: nestedItems rest

/-- `nestedText` on the entries of a map. -/
def nestedMembers : List (String × Json) → List (List Char)
  | [] => []
  | (key, value) :: rest =>
    (quoted key.toList ++ ':' :: ' ' :: nestedText value) :: nestedMembers rest

end

/-- The text of a value: a text is itself, anything else is written as inside a list. -/
def plainText : Json → List Char
  | .str value => value.toList
  | value => nestedText value

end FixFirst.Json
