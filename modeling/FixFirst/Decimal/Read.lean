import FixFirst.Decimal.Nearest
import FixFirst.Text.Digit

/-!
# Reading decimal text

A decimal text is a sign, digits with a point among, before or after them, and an
exponent, or one of the words for the infinite and the undefined value.  It is read
as the nearest binary number.
-/

namespace FixFirst

open Text

/-- The value of one of the digits `0` to `9`. -/
def asciiDigit (c : Char) : Nat := c.toNat - '0'.toNat

/-- The digits `0` to `9` that a text starts with, and the rest of the text. -/
def plainDigits (text : List Char) : List Nat × List Char :=
  ((text.takeWhile Char.isDigit).map asciiDigit, text.dropWhile Char.isDigit)

/-- The exponent at the start of a text: a mark, a sign and at least one digit. -/
def leadingExponent? : List Char → Option (Int × List Char)
  | mark :: rest =>
    if mark = 'e' || mark = 'E' then
      let (negative, body) := splitSign rest
      match plainDigits body with
      | ([], _) => none
      | (digits, after) => some (signed negative (natOfDigits digits), after)
    else none
  | [] => none

/-- Reads an unsigned decimal text that has at least one digit. -/
def unsignedDecimal? (negative : Bool) (text : List Char) : Option Float :=
  let (whole, afterWhole) := plainDigits text
  let (places, afterPlaces) := match afterWhole with
    | '.' :: rest => plainDigits rest
    | _ => ([], afterWhole)
  if whole.isEmpty && places.isEmpty then none
  else
    let digits := natOfDigits (whole ++ places)
    let shift : Int := -(places.length : Int)
    if afterPlaces.isEmpty then some (nearestDecimal negative digits shift)
    else match leadingExponent? afterPlaces with
      | some (exponent, []) => some (nearestDecimal negative digits (shift + exponent))
      | _ => none

/-- The undefined value. -/
def undefinedFloat : Float := Float.ofBits 0x7ff8000000000000

/-- The infinite value of a sign. -/
def infiniteFloat (negative : Bool) : Float :=
  Float.ofBits (if negative then 0xfff0000000000000 else 0x7ff0000000000000)

/-- The number a text denotes. -/
def decimal? (text : List Char) : Option Float :=
  let (negative, body) := splitSign text
  let word := lowerAscii body
  if word = "inf".toList || word = "infinity".toList then some (infiniteFloat negative)
  else if word = "nan".toList then some undefinedFloat
  else unsignedDecimal? negative body

/-- A text without its underscores, if it has some and each stands between two other
characters. -/
def dropUnderscores? (text : List Char) : Option (List Char) :=
  let parts := fields '_' text
  if 1 < parts.length && parts.all (!·.isEmpty) then some parts.flatten else none

/-- The number a text denotes when white space around it is skipped, or else when single
underscores inside it are. -/
def lenientDecimal? (text : List Char) : Option Float :=
  (decimal? (trimSpace text)).or ((dropUnderscores? text).bind decimal?)

end FixFirst
