import FixFirst.Pressure
import Mathlib.Algebra.Order.Ring.Rat
import Mathlib.Algebra.Order.Field.Basic
import Mathlib.Data.Rat.Cast.Order

/-!
# Exact numbers

What is computed on quantities, when these are fractions: the whole numbers and their quotients are in range, the
order is that of fractions, and sums are sums.

## Main statements

* `ofInt_exact`, `ofNat_exact`, `zero_rat` — the fractions that stand for whole numbers.
* `inRange_ofInt`, `inRange_ratio` — nothing is beyond the range of fractions.
* `greatest_zero`, `leInt_iff`, `sum_eq` — comparisons and sums.
-/

namespace FixFirst

theorem zero_rat : (Quantity.zero : Rat) = 0 := by
  simp [Quantity.zero, Quantity.ofNat, Quantity.nearest]

theorem ofNat_exact (n : Nat) : (Quantity.ofNat n : Rat) = n := by
  simp [Quantity.ofNat, Quantity.nearest]

theorem ofInt_exact (n : Int) : (Quantity.ofInt n : Rat) = n := by
  show (if decide (n < 0) = true then -(n.natAbs : Rat) else (n.natAbs : Rat)) / ((1 : Nat) : Rat) = n
  rw [Nat.cast_one, div_one]
  by_cases hn : n < 0
  · rw [if_pos (by simpa using hn), ← Int.cast_natCast, Int.ofNat_natAbs_of_nonpos (by omega), Int.cast_neg, neg_neg]
  · rw [if_neg (by simpa using hn), ← Int.cast_natCast, Int.natAbs_of_nonneg (by omega)]

/-- Whole numbers are in the range of exact numbers. -/
theorem inRange_ofInt (n : Int) : inRange (Quantity.ofInt? (τ := Rat) n) = .ok (n : Rat) := by
  show Except.ok (Quantity.ofInt n : Rat) = _
  rw [ofInt_exact]

/-- Quotients are in the range of exact numbers. -/
theorem inRange_ratio (n : Int) (count : Nat) : inRange (Quantity.ratio? (τ := Rat) n count) = .ok (n / count) := by
  have hwhole : (if decide (n < 0) = true then -(n.natAbs : Rat) else (n.natAbs : Rat)) / ((1 : Nat) : Rat) = n :=
    ofInt_exact n
  rw [Nat.cast_one, div_one] at hwhole
  show Except.ok ((if decide (n < 0) = true then -(n.natAbs : Rat) else (n.natAbs : Rat)) / (count : Rat)) = _
  rw [hwhole]

theorem greatest_zero (x : Rat) : Quantity.greatest Quantity.zero x = max 0 x := by
  unfold Quantity.greatest
  rw [zero_rat]
  split
  · rename_i hlt
    exact (max_eq_right (le_of_lt hlt)).symm
  · rename_i hle
    exact (max_eq_left (not_lt.mp hle)).symm

/-- The comparison of a fraction with a whole number is that of fractions. -/
theorem leInt_iff (x : Rat) (n : Int) : Quantity.leInt x n = true ↔ x ≤ n := by
  have hvalue : x ≤ n ↔ x.num ≤ n * x.den := by
    rw [Rat.le_iff, Rat.num_intCast, Rat.den_intCast, Nat.cast_one, mul_one]
  have hsigned : Quantity.leInt x n = if x.num < 0 then decide (-(x.num.natAbs : Int) ≤ n * x.den)
      else decide ((x.num.natAbs : Int) ≤ n * x.den) := by
    simp [Quantity.leInt, Quantity.exact, Exact.ofRat, Exact.leInt]
  rw [hvalue, hsigned]
  by_cases hneg : x.num < 0
  · rw [if_pos hneg, decide_eq_true_iff, Int.ofNat_natAbs_of_nonpos (by omega), neg_neg]
  · rw [if_neg hneg, decide_eq_true_iff, Int.natAbs_of_nonneg (by omega)]

/-- Numbers that are added from left to right come to their sum. -/
theorem sum_eq (values : List Rat) : Quantity.sum values = values.sum := by
  rw [Quantity.sum, zero_rat, List.sum_eq_foldl]

end FixFirst
