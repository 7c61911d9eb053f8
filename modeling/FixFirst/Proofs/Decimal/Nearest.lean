import Mathlib
import FixFirst.Decimal.Nearest

/-!
# Rounding to binary numbers

Every quotient in the interval around a binary number rounds to that number.  The interval reaches half a unit of
the significand to either side, and only a quarter below a power of two; its ends belong to it if the significand
is even.

## Main definitions

* `Scaled.value` — the number that a significand and an exponent denote.
* `Scaled.Proper` — significands and exponents that bit patterns have.
* `Scaled.pattern` — the bit pattern without its sign.
* `Scaled.Takes` — the interval of the numbers that round to a binary number.

## Main statements

* `roundDiv_eq` — what a quotient is rounded to.
* `nearestBits_of_takes` — quotients in the interval round to the number.
-/

namespace FixFirst

/-! ### Powers of two -/

theorem twoPower_pos (exponent : Int) : 0 < (twoPower exponent).1 ∧ 0 < (twoPower exponent).2 := by
  unfold twoPower
  split
  · exact ⟨Nat.one_pos, Nat.two_pow_pos _⟩
  · exact ⟨Nat.two_pow_pos _, Nat.one_pos⟩

theorem twoPower_div (exponent : Int) : ((twoPower exponent).1 : ℚ) / (twoPower exponent).2 = 2 ^ exponent := by
  unfold twoPower
  split
  · obtain ⟨n, rfl⟩ : ∃ n : ℕ, exponent = -n := ⟨exponent.natAbs, by omega⟩
    simp
  · obtain ⟨n, rfl⟩ : ∃ n : ℕ, exponent = n := ⟨exponent.natAbs, by omega⟩
    simp

theorem two_zpow_pos (exponent : Int) : (0 : ℚ) < 2 ^ exponent := zpow_pos two_pos exponent

/-- A value between two powers of two is between them as its scale is. -/
theorem le_of_brackets {value : ℚ} {first second : Int} {low high : ℕ} (hlow : 2 ^ low * (2 : ℚ) ^ first ≤ value)
    (hhigh : value < 2 ^ high * (2 : ℚ) ^ second) : first + low < second + high := by
  have hpow : (2 : ℚ) ^ (first + low) < 2 ^ (second + high) := by
    rw [zpow_add₀ two_ne_zero, zpow_add₀ two_ne_zero, zpow_natCast, zpow_natCast]
    linarith
  exact (zpow_lt_zpow_iff_right₀ one_lt_two).mp hpow

/-! ### Rounding a quotient -/

/-- A quotient rounds to the whole number that it is nearest to, a tie going to the even one. -/
theorem roundDiv_eq {num den whole : ℕ} (hden : 0 < den) (hlow : 2 * whole * den ≤ 2 * num + den)
    (hhigh : 2 * num ≤ 2 * whole * den + den)
    (htie : whole % 2 ≠ 0 → 2 * whole * den < 2 * num + den ∧ 2 * num < 2 * whole * den + den) :
    roundDiv num den = whole := by
  have hsplit : den * (num / den) + num % den = num := Nat.div_add_mod num den
  have hsmall : num % den < den := Nat.mod_lt num hden
  set quotient := num / den
  set rest := num % den
  have hbelow : whole ≤ quotient + 1 := by
    by_contra hmore
    nlinarith
  have habove : quotient ≤ whole := by
    by_contra hless
    nlinarith
  obtain rfl | rfl : whole = quotient ∨ whole = quotient + 1 := by omega
  · have hrest : 2 * rest ≤ den := by nlinarith
    unfold roundDiv
    rw [if_neg]
    simp only [Bool.or_eq_true, decide_eq_true_eq, Bool.and_eq_true, beq_iff_eq, not_or, not_and]
    refine ⟨not_lt.mpr hrest, fun hequal hodd => ?_⟩
    obtain ⟨-, hstrict⟩ := htie (Nat.mod_two_ne_zero.mpr hodd)
    have htwice : 2 * rest = den := hequal
    nlinarith
  · have hrest : den ≤ 2 * rest := by nlinarith
    unfold roundDiv
    rw [if_pos]
    simp only [Bool.or_eq_true, decide_eq_true_eq, Bool.and_eq_true, beq_iff_eq]
    rcases hrest.lt_or_eq with hmore | hequal
    · exact Or.inl hmore
    · refine Or.inr ⟨hequal.symm, ?_⟩
      by_contra hodd
      obtain ⟨hstrict, -⟩ := htie (by omega)
      nlinarith

/-- `roundDiv_eq`, for the value of a quotient. -/
theorem roundDiv_of_near {num den whole : ℕ} (hden : 0 < den) (hlow : (whole : ℚ) - 1 / 2 ≤ num / den)
    (hhigh : (num : ℚ) / den ≤ whole + 1 / 2)
    (htie : whole % 2 ≠ 0 → (whole : ℚ) - 1 / 2 < num / den ∧ (num : ℚ) / den < whole + 1 / 2) :
    roundDiv num den = whole := by
  have hden' : (0 : ℚ) < den := Nat.cast_pos.mpr hden
  rw [le_div_iff₀ hden'] at hlow
  rw [div_le_iff₀ hden'] at hhigh
  simp only [lt_div_iff₀ hden', div_lt_iff₀ hden'] at htie
  refine roundDiv_eq hden ?_ ?_ fun hodd => ?_
  · exact_mod_cast (by linarith : (2 : ℚ) * whole * den ≤ 2 * num + den)
  · exact_mod_cast (by linarith : (2 : ℚ) * num ≤ 2 * whole * den + den)
  · obtain ⟨hbelow, habove⟩ := htie hodd
    exact ⟨by exact_mod_cast (by linarith : (2 : ℚ) * whole * den < 2 * num + den),
      by exact_mod_cast (by linarith : (2 : ℚ) * num < 2 * whole * den + den)⟩

/-! ### The pattern of a quotient -/

/-- The lengths of a numerator and a denominator tell a quotient up to a factor of four. -/
theorem guess_brackets {num den : ℕ} (hnum : num ≠ 0) (hden : 0 < den) :
    2 ^ 51 * (2 : ℚ) ^ ((num.log2 : Int) - den.log2 - 52) < (num : ℚ) / den ∧
      (num : ℚ) / den < 2 ^ 53 * (2 : ℚ) ^ ((num.log2 : Int) - den.log2 - 52) := by
  have hden' : (0 : ℚ) < den := Nat.cast_pos.mpr hden
  have hnumLow : (2 : ℚ) ^ num.log2 ≤ num := by exact_mod_cast Nat.log2_self_le hnum
  have hnumHigh : (num : ℚ) < 2 ^ (num.log2 + 1) := by exact_mod_cast Nat.lt_log2_self
  have hdenLow : (2 : ℚ) ^ den.log2 ≤ den := by exact_mod_cast Nat.log2_self_le hden.ne'
  have hdenHigh : (den : ℚ) < 2 ^ (den.log2 + 1) := by exact_mod_cast Nat.lt_log2_self
  have hscale : (2 : ℚ) ^ ((num.log2 : Int) - den.log2 - 52) = 2 ^ num.log2 / 2 ^ den.log2 / 2 ^ 52 := by
    rw [zpow_sub₀ two_ne_zero, zpow_sub₀ two_ne_zero, zpow_natCast, zpow_natCast]
    norm_num
  have hpow : (0 : ℚ) < 2 ^ den.log2 := by positivity
  rw [hscale, lt_div_iff₀ hden', div_lt_iff₀ hden']
  constructor
  · calc 2 ^ 51 * ((2 : ℚ) ^ num.log2 / 2 ^ den.log2 / 2 ^ 52) * den
        < 2 ^ 51 * ((2 : ℚ) ^ num.log2 / 2 ^ den.log2 / 2 ^ 52) * 2 ^ (den.log2 + 1) := by gcongr
      _ = 2 ^ num.log2 := by field_simp; ring
      _ ≤ num := hnumLow
  · calc (num : ℚ) < 2 ^ (num.log2 + 1) := hnumHigh
      _ = 2 ^ 53 * ((2 : ℚ) ^ num.log2 / 2 ^ den.log2 / 2 ^ 52) * 2 ^ den.log2 := by field_simp; ring
      _ ≤ 2 ^ 53 * ((2 : ℚ) ^ num.log2 / 2 ^ den.log2 / 2 ^ 52) * den := by gcongr

/-- The pattern of a quotient, by the exponent that gives it 53 bits. -/
theorem nearestBits_eq {num den : ℕ} (hnum : num ≠ 0) (hden : 0 < den) {normal : Int}
    (hlow : 2 ^ 52 * (2 : ℚ) ^ normal ≤ (num : ℚ) / den) (hhigh : (num : ℚ) / den < 2 ^ 53 * (2 : ℚ) ^ normal) :
    nearestBits num den =
      min (((max normal Scaled.leastExponent - Scaled.leastExponent).toNat <<< 52) +
        roundDiv (num * (twoPower (max normal Scaled.leastExponent)).2)
          (den * (twoPower (max normal Scaled.leastExponent)).1)) infinityBits := by
  have hden' : (0 : ℚ) < den := Nat.cast_pos.mpr hden
  set guess : Int := (num.log2 : Int) - den.log2 - 52 with hguess
  obtain ⟨hbelow, habove⟩ : 2 ^ 51 * (2 : ℚ) ^ guess < (num : ℚ) / den ∧ (num : ℚ) / den < 2 ^ 53 * (2 : ℚ) ^ guess :=
    guess_brackets hnum hden
  have htrial : num * (twoPower guess).2 / (den * (twoPower guess).1) < Scaled.leastNormal ↔
      (num : ℚ) / den < 2 ^ 52 * (2 : ℚ) ^ guess := by
    obtain ⟨hfirst, hsecond⟩ := twoPower_pos guess
    have hsecond' : (0 : ℚ) < (twoPower guess).2 := Nat.cast_pos.mpr hsecond
    rw [Nat.div_lt_iff_lt_mul (Nat.mul_pos hden hfirst), ← twoPower_div, div_lt_iff₀ hden', mul_div_assoc', div_mul_eq_mul_div,
      lt_div_iff₀ hsecond', ← Nat.cast_lt (α := ℚ)]
    push_cast [Scaled.leastNormal]
    constructor <;> intro h <;> linarith
  have hnormal : (if num * (twoPower guess).2 / (den * (twoPower guess).1) < Scaled.leastNormal then guess - 1 else guess) =
      normal := by
    split
    · rename_i hless
      have hless' := htrial.mp hless
      have := le_of_brackets hlow hless'
      have := le_of_brackets hbelow.le hhigh
      omega
    · rename_i hmore
      have hmore' := not_lt.mp (htrial.not.mp hmore)
      have := le_of_brackets hlow habove
      have := le_of_brackets hmore' hhigh
      omega
  unfold nearestBits
  rw [if_neg hnum]
  simp only [← hguess, hnormal]

/-! ### The interval around a number -/

namespace Scaled

/-- The number that a significand and an exponent denote. -/
def value (scaled : Scaled) : ℚ := scaled.significand * 2 ^ scaled.exponent

/-- Whether a significand has 53 bits, or fewer together with the least exponent. -/
structure Proper (scaled : Scaled) : Prop where
  exponent : leastExponent ≤ scaled.exponent
  significand : scaled.significand < 2 ^ 53
  normal : leastExponent < scaled.exponent → 2 ^ 52 ≤ scaled.significand

/-- The bit pattern of a number, without its sign. -/
def pattern (scaled : Scaled) : ℕ :=
  ((scaled.exponent - leastExponent).toNat <<< 52) + scaled.significand

/-- How far the interval reaches below the significand: numbers below a power of two lie twice as dense. -/
def reachBelow (scaled : Scaled) : ℚ :=
  if scaled.significand = leastNormal ∧ leastExponent < scaled.exponent then 1 / 4 else 1 / 2

/-- Whether a number lies in the interval around a binary number; the ends belong to it if the significand is
even. -/
structure Takes (scaled : Scaled) (number : ℚ) : Prop where
  low : (scaled.significand - scaled.reachBelow) * 2 ^ scaled.exponent ≤ number
  high : number ≤ (scaled.significand + 1 / 2) * 2 ^ scaled.exponent
  inside : scaled.significand % 2 ≠ 0 →
    (scaled.significand - scaled.reachBelow) * 2 ^ scaled.exponent < number ∧
      number < (scaled.significand + 1 / 2) * 2 ^ scaled.exponent

theorem reachBelow_le (scaled : Scaled) : scaled.reachBelow ≤ 1 / 2 := by
  unfold reachBelow
  split <;> norm_num

theorem reachBelow_pos (scaled : Scaled) : 0 < scaled.reachBelow := by
  unfold reachBelow
  split <;> norm_num

variable {scaled : Scaled} {number : ℚ}

/-- A number in the interval, in units of the significand. -/
theorem Takes.near (h : scaled.Takes number) : ∃ x : ℚ, number = x * 2 ^ scaled.exponent ∧
    scaled.significand - scaled.reachBelow ≤ x ∧ x ≤ scaled.significand + 1 / 2 ∧
    (scaled.significand % 2 ≠ 0 → scaled.significand - scaled.reachBelow < x ∧ x < scaled.significand + 1 / 2) := by
  have hunit : (0 : ℚ) < 2 ^ scaled.exponent := two_zpow_pos _
  refine ⟨number / 2 ^ scaled.exponent, (div_mul_cancel₀ _ hunit.ne').symm, (le_div_iff₀ hunit).mpr h.low,
    (div_le_iff₀ hunit).mpr h.high, fun hodd => ?_⟩
  exact ⟨(lt_div_iff₀ hunit).mpr (h.inside hodd).1, (div_lt_iff₀ hunit).mpr (h.inside hodd).2⟩

theorem Takes.pos (h : scaled.Takes number) (hsome : scaled.significand ≠ 0) : 0 < number := by
  have hunit : (0 : ℚ) < 2 ^ scaled.exponent := two_zpow_pos _
  have hone : (1 : ℚ) ≤ scaled.significand := by exact_mod_cast Nat.one_le_iff_ne_zero.mpr hsome
  have hreach := scaled.reachBelow_le
  calc (0 : ℚ) < (scaled.significand - scaled.reachBelow) * 2 ^ scaled.exponent := mul_pos (by linarith) hunit
    _ ≤ number := h.low

/-- A number below 53 bits, in units of the significand, is taken by a power of two only, and lies close to it. -/
theorem Proper.power_of_below (h : scaled.Proper) (hleast : leastExponent < scaled.exponent) {x : ℚ}
    (hlow : scaled.significand - scaled.reachBelow ≤ x) (hless : x < 2 ^ 52) :
    scaled.significand = 2 ^ 52 ∧ 2 ^ 52 - 1 / 4 ≤ x := by
  have hreach := scaled.reachBelow_le
  have hpower : scaled.significand = 2 ^ 52 := by
    have hleast52 : 2 ^ 52 ≤ scaled.significand := h.normal hleast
    by_contra hother
    have hmore : (2 ^ 52 : ℚ) + 1 ≤ scaled.significand := by
      exact_mod_cast (by omega : 2 ^ 52 + 1 ≤ scaled.significand)
    linarith
  have hquarter : scaled.reachBelow = 1 / 4 := if_pos ⟨hpower, hleast⟩
  have hcast : (scaled.significand : ℚ) = 2 ^ 52 := by exact_mod_cast hpower
  rw [hquarter, hcast] at hlow
  exact ⟨hpower, hlow⟩

/-- The pattern of a power of two is that of a significand of one more bit at the exponent below. -/
theorem pattern_power (hpower : scaled.significand = 2 ^ 52) (hleast : leastExponent < scaled.exponent) :
    ((scaled.exponent - 1 - leastExponent).toNat <<< 52) + 2 ^ 53 = scaled.pattern := by
  obtain ⟨count, hcount⟩ : ∃ count : ℕ, scaled.exponent - leastExponent = count + 1 :=
    ⟨(scaled.exponent - leastExponent - 1).toNat, by omega⟩
  have hone : (scaled.exponent - 1 - leastExponent).toNat = count := by omega
  have htwo : (scaled.exponent - leastExponent).toNat = count + 1 := by omega
  rw [pattern, hone, htwo, hpower, Nat.shiftLeft_eq, Nat.shiftLeft_eq]
  ring

end Scaled

/-- Every positive number has an exponent that gives it 53 bits before the point. -/
theorem exists_normal {number : ℚ} (hpos : 0 < number) :
    ∃ normal : Int, 2 ^ 52 * (2 : ℚ) ^ normal ≤ number ∧ number < 2 ^ 53 * (2 : ℚ) ^ normal := by
  refine ⟨Int.log 2 number - 52, ?_, ?_⟩
  · have hlow := Int.zpow_log_le_self (b := 2) one_lt_two hpos
    rw [zpow_sub₀ two_ne_zero]
    push_cast at hlow
    calc (2 : ℚ) ^ 52 * (2 ^ Int.log 2 number / 2 ^ (52 : ℤ)) = 2 ^ Int.log 2 number := by
          rw [zpow_ofNat]
          field_simp
      _ ≤ number := hlow
  · have hhigh := Int.lt_zpow_succ_log_self (b := 2) one_lt_two number
    rw [zpow_sub₀ two_ne_zero]
    push_cast at hhigh
    calc number < 2 ^ (Int.log 2 number + 1) := hhigh
      _ = 2 ^ 53 * (2 ^ Int.log 2 number / 2 ^ (52 : ℤ)) := by
          rw [zpow_add₀ two_ne_zero]
          norm_num
          ring

/-- The value of a quotient that is brought to an exponent. -/
theorem scaled_div {num den : ℕ} (exponent : Int) {x : ℚ} (hvalue : (num : ℚ) / den = x * 2 ^ exponent) :
    ((num * (twoPower exponent).2 : ℕ) : ℚ) / (den * (twoPower exponent).1 : ℕ) = x := by
  obtain ⟨hfirst, hsecond⟩ := twoPower_pos exponent
  have hfirst' : ((twoPower exponent).1 : ℚ) ≠ 0 := Nat.cast_ne_zero.mpr hfirst.ne'
  have hsecond' : ((twoPower exponent).2 : ℚ) ≠ 0 := Nat.cast_ne_zero.mpr hsecond.ne'
  push_cast
  rw [mul_div_mul_comm, hvalue, ← twoPower_div]
  field_simp

/-- Every quotient in the interval around a number rounds to the number. -/
theorem nearestBits_of_takes {scaled : Scaled} (hproper : scaled.Proper) (hsome : scaled.significand ≠ 0) {num den : ℕ}
    (hden : 0 < den) (htakes : scaled.Takes ((num : ℚ) / den)) :
    nearestBits num den = min scaled.pattern infinityBits := by
  have hnum : num ≠ 0 := by
    rintro rfl
    simpa using htakes.pos hsome
  obtain ⟨x, hvalue, hlow, hhigh, hinside⟩ := htakes.near
  obtain ⟨normal, hnormalLow, hnormalHigh⟩ := exists_normal (htakes.pos hsome)
  have hunit : (0 : ℚ) < 2 ^ scaled.exponent := two_zpow_pos _
  have hsignificand : (scaled.significand : ℚ) + 1 ≤ 2 ^ 53 := by exact_mod_cast hproper.significand
  have hreach := scaled.reachBelow_le
  have hbelow : normal ≤ scaled.exponent := by
    have hless : (num : ℚ) / den < 2 ^ 53 * 2 ^ scaled.exponent := by
      rw [hvalue]
      gcongr
      linarith
    have := le_of_brackets hnormalLow hless
    omega
  rw [nearestBits_eq hnum hden hnormalLow hnormalHigh]
  by_cases hexponent : max normal Scaled.leastExponent = scaled.exponent
  · -- The quotient has the exponent of the number, and rounds to its significand.
    obtain ⟨hfirst, -⟩ := twoPower_pos scaled.exponent
    have hround : roundDiv (num * (twoPower scaled.exponent).2) (den * (twoPower scaled.exponent).1) = scaled.significand := by
      refine roundDiv_of_near (Nat.mul_pos hden hfirst) ?_ ?_ fun hodd => ?_ <;> rw [scaled_div _ hvalue]
      · linarith
      · exact hhigh
      · obtain ⟨hmore, hless⟩ := hinside hodd
        exact ⟨by linarith, hless⟩
    rw [hexponent, hround, Scaled.pattern]
  · -- The number is a power of two and the quotient lies below it, so it has one more bit at the same precision.
    have hleast : Scaled.leastExponent < scaled.exponent := by
      have := hproper.exponent
      omega
    have hless : x < 2 ^ 52 := by
      by_contra hmore
      have hmore' : 2 ^ 52 * (2 : ℚ) ^ scaled.exponent ≤ (num : ℚ) / den := by
        rw [hvalue]
        gcongr
        exact not_lt.mp hmore
      have := le_of_brackets hmore' hnormalHigh
      omega
    obtain ⟨hpower, hclose⟩ := hproper.power_of_below hleast hlow hless
    have hnormal : normal = scaled.exponent - 1 := by
      have hmore : 2 ^ 51 * (2 : ℚ) ^ scaled.exponent ≤ (num : ℚ) / den := by
        rw [hvalue]
        gcongr
        linarith
      have := le_of_brackets hmore hnormalHigh
      omega
    have hmax : max normal Scaled.leastExponent = scaled.exponent - 1 := by omega
    have hdouble : (num : ℚ) / den = 2 * x * 2 ^ (scaled.exponent - 1) := by
      rw [hvalue, zpow_sub₀ two_ne_zero, zpow_one]
      ring
    obtain ⟨hfirst, -⟩ := twoPower_pos (scaled.exponent - 1)
    have hround : roundDiv (num * (twoPower (scaled.exponent - 1)).2) (den * (twoPower (scaled.exponent - 1)).1) = 2 ^ 53 := by
      refine roundDiv_of_near (Nat.mul_pos hden hfirst) ?_ ?_ fun hodd => absurd rfl hodd <;> rw [scaled_div _ hdouble]
      · push_cast
        linarith
      · push_cast
        linarith
    rw [hmax, hround, Scaled.pattern_power hpower hleast]

end FixFirst
