import FixFirst.Decimal.Exact

/-!
# Binary numbers and quotients

A binary number of 64 bits holds a sign, eleven bits of exponent and 52 bits of
significand.  `Exact.ofFloat` reads the quotient that such a number denotes, and
`nearest` gives the number closest to a quotient, a tie going to the even
significand and a quotient beyond the largest number to infinity.
-/

namespace FixFirst

/-- A power of two as a factor and a divisor, one of which is one. -/
def twoPower (exponent : Int) : Nat × Nat :=
  if exponent < 0 then (1, Nat.pow 2 exponent.natAbs) else (Nat.pow 2 exponent.natAbs, 1)

/-- A finite binary number is `significand * 2 ^ exponent`. -/
structure Scaled where
  significand : Nat
  exponent : Int
  deriving DecidableEq, Repr

/-- The least exponent of a binary number. -/
def Scaled.leastExponent : Int := -1074

/-- The least significand of a number above the ones with the least exponent: its first bit, which a
bit pattern leaves out. -/
def Scaled.leastNormal : Nat := 1 <<< 52

/-- The fields of the bit pattern of a number that is neither infinite nor undefined. -/
def Scaled.ofBits (bits : UInt64) : Scaled :=
  let field := ((bits >>> 52) &&& 0x7ff).toNat
  let fraction := (bits &&& 0xfffffffffffff).toNat
  if field = 0 then ⟨fraction, leastExponent⟩
  else ⟨fraction + leastNormal, (field : Int) + leastExponent - 1⟩

/-- Whether a bit pattern carries a minus sign. -/
def negativeBits (bits : UInt64) : Bool := bits >>> 63 == 1

/-- The exact value of a binary number. -/
def Exact.ofFloat (x : Float) : Exact :=
  let bits := x.toBits
  if (bits >>> 52) &&& 0x7ff == 0x7ff then
    if bits &&& 0xfffffffffffff == 0 then .infinite (negativeBits bits) else .undefined
  else
    let scaled := Scaled.ofBits bits
    let power := twoPower scaled.exponent
    .finite (negativeBits bits) (scaled.significand * power.1) power.2

/-- The pattern of the positive infinity. -/
def infinityBits : Nat := 0x7ff <<< 52

/-- The bit pattern, without sign, of the binary number nearest to `num / den`. -/
def nearestBits (num den : Nat) : Nat :=
  if num = 0 then 0
  else
    let guess : Int := (num.log2 : Int) - den.log2 - 52
    let scale (exponent : Int) : Nat × Nat :=
      let power := twoPower exponent
      (num * power.2, den * power.1)
    let trial := scale guess
    let normal := if trial.1 / trial.2 < Scaled.leastNormal then guess - 1 else guess
    let exponent := max normal Scaled.leastExponent
    let final := scale exponent
    let pattern := ((exponent - Scaled.leastExponent).toNat <<< 52) + roundDiv final.1 final.2
    min pattern infinityBits

/-- The binary number nearest to the signed quotient `num / den`. -/
def nearest (negative : Bool) (num den : Nat) : Float :=
  let bits := (nearestBits num den).toUInt64
  Float.ofBits (if negative then bits ||| 0x8000000000000000 else bits)

/-- The binary number nearest to `digits * 10 ^ exponent`. -/
def nearestDecimal (negative : Bool) (digits : Nat) (exponent : Int) : Float :=
  let size := (Exact.digitCount digits : Int) + exponent
  if digits = 0 || size < -Exact.reach then nearest negative 0 1
  else if (Exact.reach : Int) < size then Float.ofBits (if negative then 0xfff0000000000000 else 0x7ff0000000000000)
  else
    let power := Exact.tenPower exponent
    nearest negative (digits * power.1) power.2

end FixFirst
