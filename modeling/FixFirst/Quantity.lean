import FixFirst.Decimal.Layout

/-!
# Quantities

Times and memory trends are computed on binary numbers when the program runs.  The same
definitions make sense for exact fractions, and what can be said about them is said there.
`Quantity` is what the two have in common: four operations, an order, the exact value of a
number, and the number nearest to an exact value.
-/

namespace FixFirst

/-- Numbers to measure time and memory with. -/
class Quantity (τ : Type) extends Add τ, Sub τ, Mul τ, Div τ, LE τ, LT τ where
  /-- The order can be decided. -/
  decidableLE : DecidableLE τ
  /-- The strict order can be decided. -/
  decidableLT : DecidableLT τ
  /-- The exact value of a number. -/
  exact : τ → Exact
  /-- The number nearest to a signed quotient. -/
  nearest : Bool → Nat → Nat → τ

namespace Quantity

variable {τ : Type} [Quantity τ]

instance : DecidableLE τ := decidableLE

instance : DecidableLT τ := decidableLT

/-- A small natural number. -/
def ofNat (n : Nat) : τ := nearest false n 1

/-- The number nearest to a whole number. -/
def ofInt (n : Int) : τ := nearest (n < 0) n.natAbs 1

/-- Zero. -/
def zero : τ := ofNat 0

/-- The lesser of two numbers; the first one, if they do not differ. -/
def least (x y : τ) : τ := if y < x then y else x

/-- The greater of two numbers; the first one, if they do not differ. -/
def greatest (x y : τ) : τ := if x < y then y else x

/-- Whether a number is zero. -/
def isZero (x : τ) : Bool := x ≤ zero && zero ≤ x

/-- Whether a number has an exact value. -/
def isFinite (x : τ) : Bool :=
  match exact x with
  | .finite .. => true
  | _ => false

/-- A number that was computed from finite ones, unless it is beyond the range. -/
def inRange? (x : τ) : Option τ := if isFinite x then some x else none

/-- The number nearest to a whole number, unless it is beyond the range. -/
def ofInt? (n : Int) : Option τ := inRange? (ofInt n)

/-- The number nearest to a quotient of whole numbers, unless it is beyond the range. -/
def ratio? (n : Int) (count : Nat) : Option τ := inRange? (nearest (n < 0) n.natAbs count)

/-- The square of a number, unless it is beyond the range while the number is not. -/
def square? (x : τ) : Option τ :=
  let result := x * x
  if isFinite x && !isFinite result then none else some result

/-- The whole part of a number. -/
def truncate? (x : τ) : Option Int := (exact x).truncate?

/-- Whether a number is at most a whole number. -/
def leInt (x : τ) (n : Int) : Bool := (exact x).leInt n

/-- A number with two places. -/
def twoPlaces (x : τ) : String := String.ofList (fixedText 2 (exact x))

/-- The sum of numbers, added from left to right. -/
def sum (values : List τ) : τ := values.foldl (· + ·) zero

end Quantity

/-- A number that was computed, or a whole number of any size. -/
inductive Amount (τ : Type) where
  | measured (value : τ)
  | whole (value : Int)
  deriving Repr

/-- The number nearest to an amount, unless it is beyond the range. -/
def Amount.value? {τ : Type} [Quantity τ] : Amount τ → Option τ
  | measured value => some value
  | whole value => Quantity.ofInt? value

instance : Quantity Float where
  decidableLE := inferInstance
  decidableLT := inferInstance
  exact := Exact.ofFloat
  nearest := nearest

/-- The exact value of a fraction. -/
def Exact.ofRat (x : Rat) : Exact := .finite (x.num < 0) x.num.natAbs x.den

instance : Quantity Rat where
  decidableLE := inferInstance
  decidableLT := inferInstance
  exact := Exact.ofRat
  nearest negative num den := (if negative then -(num : Rat) else (num : Rat)) / (den : Rat)

end FixFirst
