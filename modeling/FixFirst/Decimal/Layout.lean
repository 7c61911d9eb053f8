import FixFirst.Decimal.Shortest
import FixFirst.Text.Digit

/-!
# The text of a number

A `NumberStyle` holds the decisions of a number format: which numbers are written
positionally, how wide an exponent is at least, and the words for what is not a
finite number.  `NumberStyle.text` writes the fewest digits that read back in that
style, and `fixedText` writes a fixed number of places.
-/

namespace FixFirst

open Text

/-- The decisions of a number format. -/
structure NumberStyle where
  /-- The least exponent of the first digit that is written positionally. -/
  least : Int
  /-- The first exponent that is written with a power of ten again. -/
  limit : Int
  /-- The least number of digits of a written exponent. -/
  exponentWidth : Nat
  /-- The word for an infinite value, after its sign. -/
  infinite : String
  /-- The word for an undefined value. -/
  undefined : String
  deriving Repr

/-- Fills a text up with zeros on the left. -/
def zeroFill (width : Nat) (text : List Char) : List Char :=
  List.replicate (width - text.length) '0' ++ text

/-- The minus sign of a negative value. -/
def signText (negative : Bool) : List Char := if negative then ['-'] else []

/-- Positive digits in a style: positional with at least one place, or one digit, a
fraction if there are more, and a signed power of ten. -/
def NumberStyle.digitsText (style : NumberStyle) (value : Digits) : List Char :=
  let digits := natText value.digits
  let leading : Int := digits.length + value.exponent - 1
  if style.least ≤ leading && leading < style.limit then
    if 0 ≤ value.exponent then
      digits ++ List.replicate value.exponent.toNat '0' ++ ['.', '0']
    else if 0 ≤ leading then
      let whole := leading.toNat + 1
      digits.take whole ++ '.' :: digits.drop whole
    else
      ['0', '.'] ++ List.replicate (-leading - 1).toNat '0' ++ digits
  else
    let fraction := digits.drop 1
    digits.take 1 ++ (if fraction.isEmpty then [] else '.' :: fraction) ++
      'e' :: (if leading < 0 then '-' else '+') :: zeroFill style.exponentWidth (natText leading.natAbs)

/-- The text of a binary number in a style. -/
def NumberStyle.text (style : NumberStyle) (x : Float) : List Char :=
  match Exact.ofFloat x with
  | .undefined => style.undefined.toList
  | .infinite negative => signText negative ++ style.infinite.toList
  | .finite negative num _ =>
    signText negative ++
      (if num = 0 then ['0', '.', '0'] else style.digitsText (shortest (Scaled.ofBits x.toBits)))

/-- A value with a fixed number of places, a tie going to the even digit. -/
def fixedText (places : Nat) : Exact → List Char
  | .undefined => "nan".toList
  | .infinite negative => signText negative ++ "inf".toList
  | .finite negative num den =>
    let digits := zeroFill (places + 1) (natText (roundDiv (num * Nat.pow 10 places) den))
    let whole := digits.length - places
    signText negative ++ digits.take whole ++
      (if places = 0 then [] else '.' :: digits.drop whole)

/-- The binary number nearest to `x` rounded to `count` significant digits. -/
def roundSignificant (count : Nat) (x : Float) : Float :=
  match Exact.ofFloat x with
  | .finite negative num den =>
    if num = 0 then x
    else
      let value := rounded count num den
      nearestDecimal negative value.digits value.exponent
  | _ => x

end FixFirst
