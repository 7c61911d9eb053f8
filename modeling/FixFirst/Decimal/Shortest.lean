import FixFirst.Decimal.Nearest

/-!
# Decimal digits of a binary number

The reals that round to a binary number form an interval around it.  `shortest`
looks for the fewest decimal digits with a value in that interval: on the grid of
one digit, then of two, up to seventeen, it tests the two neighbours of the number
on the grid, takes the first grid with a hit, and of two hits the nearer.
`rounded` gives a chosen number of digits instead.

## Main definitions

* `Digits` — the value `digits * 10 ^ exponent`.
* `shortest` — the fewest digits that read back.
* `rounded` — a quotient rounded to a number of significant digits.
-/

namespace FixFirst

/-- The value `digits * 10 ^ exponent`. -/
structure Digits where
  digits : Nat
  exponent : Int
  deriving DecidableEq, Repr

/-- Moves the zeros at the end of the digits, at most `fuel` of them, into the exponent. -/
def Digits.dropZeros : Nat → Digits → Digits
  | 0, value => value
  | fuel + 1, value =>
    if value.digits ≠ 0 && value.digits % 10 == 0 then
      dropZeros fuel ⟨value.digits / 10, value.exponent + 1⟩
    else value

/-- The interval of reals that round to a binary number, over a common denominator. -/
structure Basin where
  low : Nat
  middle : Nat
  high : Nat
  den : Nat
  closed : Bool

/-- The interval around `significand * 2 ^ exponent`: half a unit to either side, a quarter
below a power of two; its ends round to the number if the significand is even. -/
def Basin.of (value : Scaled) : Basin :=
  let power := twoPower (value.exponent - 2)
  let below := if value.significand = Scaled.leastNormal && Scaled.leastExponent < value.exponent then 1 else 2
  { low := (4 * value.significand - below) * power.1
    middle := 4 * value.significand * power.1
    high := (4 * value.significand + 2) * power.1
    den := power.2
    closed := value.significand % 2 == 0 }

/-- Whether `digits * 10 ^ exponent` lies in the interval. -/
def Basin.holds (basin : Basin) (value : Digits) : Bool :=
  let power := Exact.tenPower value.exponent
  let point := value.digits * power.1 * basin.den
  let low := basin.low * power.2
  let high := basin.high * power.2
  if basin.closed then low ≤ point && point ≤ high else low < point && point < high

/-- The distance from the middle to `digits * 10 ^ exponent`, in units common to all values
with that exponent. -/
def Basin.distance (basin : Basin) (value : Digits) : Nat :=
  let power := Exact.tenPower value.exponent
  let point := value.digits * power.1 * basin.den
  let middle := basin.middle * power.2
  (point - middle) + (middle - point)

/-- The value of the grid of `count` digits that stands for the interval, if there is one. -/
def Basin.onGrid (basin : Basin) (count : Nat) : Option Digits :=
  let exponent := Exact.pointPosition basin.middle basin.den - count
  let power := Exact.tenPower exponent
  let below : Digits := ⟨basin.middle * power.2 / (basin.den * power.1), exponent⟩
  let above : Digits := ⟨below.digits + 1, exponent⟩
  match basin.holds below, basin.holds above with
  | false, false => none
  | true, false => some below
  | false, true => some above
  | true, true =>
    let down := basin.distance below
    let up := basin.distance above
    if down < up || (down == up && below.digits % 2 == 0) then some below else some above

/-- The number of digits that always suffices. -/
def enoughDigits : Nat := 17

/-- The fewest digits that read back as a positive binary number. -/
def shortest (value : Scaled) : Digits :=
  let basin := Basin.of value
  let found := (List.range enoughDigits).findSome? fun count => basin.onGrid (count + 1)
  Digits.dropZeros 400 (found.getD ⟨0, 0⟩)

/-- A positive quotient rounded to `count` significant digits, a tie going to the even one. -/
def rounded (count num den : Nat) : Digits :=
  let exponent := Exact.pointPosition num den - count
  let power := Exact.tenPower exponent
  ⟨roundDiv (num * power.2) (den * power.1), exponent⟩

end FixFirst
