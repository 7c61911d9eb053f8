/-!
# Exact values

Every finite binary number is a quotient of two whole numbers.  `Exact` is that
quotient with its sign, or the note that a value is infinite or undefined.  The
functions of this module compute on quotients only, so that rounding happens
where it is asked for and nowhere else.

## Main definitions

* `Exact` — a value as a signed quotient.
* `roundDiv` — a quotient rounded to the nearest whole number, a tie to the even one.
* `Exact.truncate?`, `Exact.leInt` — the whole part of a value, and its comparison
  with a whole number.
-/

namespace FixFirst

/-- A value as a signed quotient `num / den`, or what it is instead. -/
inductive Exact where
  | finite (negative : Bool) (num den : Nat)
  | infinite (negative : Bool)
  | undefined
  deriving DecidableEq, Repr

/-- `num / den` rounded to the nearest whole number, a tie going to the even one. -/
def roundDiv (num den : Nat) : Nat :=
  let quotient := num / den
  let twice := 2 * (num % den)
  if den < twice || (twice == den && quotient % 2 == 1) then quotient + 1 else quotient

namespace Exact

/-- The whole part of a finite value. -/
def truncate? : Exact → Option Int
  | finite negative num den =>
    some (if negative then -((num / den : Nat) : Int) else ((num / den : Nat) : Int))
  | _ => none

/-- Whether a value is at most the whole number `n`. -/
def leInt : Exact → Int → Bool
  | finite negative num den, n =>
    if negative then -(num : Int) ≤ n * den else (num : Int) ≤ n * den
  | infinite negative, _ => negative
  | undefined, _ => false

/-- The number of decimal digits of `n`. -/
def digitCount (n : Nat) : Nat := (Nat.toDigits 10 n).length

/-- A power of ten as a factor and a divisor, one of which is one. -/
def tenPower (exponent : Int) : Nat × Nat :=
  if exponent < 0 then (1, Nat.pow 10 exponent.natAbs) else (Nat.pow 10 exponent.natAbs, 1)

/-- How far the decimal point of `num / den` is looked for to the left. -/
def reach : Nat := 400

/-- The number of digits before the decimal point of `num / den`; it is not positive for a
value below one, and counts the zeros after the point then. -/
def pointPosition (num den : Nat) : Int :=
  (digitCount (num * Nat.pow 10 reach / den) : Int) - reach

end Exact

end FixFirst
