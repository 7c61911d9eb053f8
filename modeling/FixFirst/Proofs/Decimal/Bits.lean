import FixFirst.Proofs.Decimal.Shortest
import FixFirst.Quantity

/-!
# Bit patterns of binary numbers

A binary number is its sign and the pattern of its significand and exponent, and the quotient nearest to a number in
its interval has that pattern.

## Main statements

* `nearest_of_takes` — the binary number nearest to a quotient in the interval around a number, with the sign of the
  number, is the number.
* `nearestDecimal_of_takes` — so are digits in the interval read as the number.
-/

namespace FixFirst

variable (bits : UInt64)

theorem toNat_field : ((bits >>> 52) &&& 0x7ff).toNat = bits.toNat / 2 ^ 52 % 2 ^ 11 := by
  rw [UInt64.toNat_and, UInt64.toNat_shiftRight, Nat.shiftRight_eq_div_pow]
  exact Nat.and_two_pow_sub_one_eq_mod _ 11

theorem toNat_fraction : (bits &&& 0xfffffffffffff).toNat = bits.toNat % 2 ^ 52 := by
  rw [UInt64.toNat_and]
  exact Nat.and_two_pow_sub_one_eq_mod _ 52

theorem negativeBits_iff : negativeBits bits = true ↔ bits.toNat / 2 ^ 63 = 1 := by
  unfold negativeBits
  rw [beq_iff_eq, ← UInt64.toNat_inj, UInt64.toNat_shiftRight, Nat.shiftRight_eq_div_pow]
  rfl

/-- The pattern without its sign has 63 bits: eleven for the exponent and 52 for the significand. -/
theorem mod_pattern : bits.toNat % 2 ^ 63 = bits.toNat / 2 ^ 52 % 2 ^ 11 * 2 ^ 52 + bits.toNat % 2 ^ 52 := by
  omega

theorem proper_ofBits : (Scaled.ofBits bits).Proper := by
  have hfraction : (bits &&& 0xfffffffffffff).toNat < 2 ^ 52 := by
    rw [toNat_fraction]
    exact Nat.mod_lt _ (Nat.two_pow_pos 52)
  have hnormal : Scaled.leastNormal = 2 ^ 52 := rfl
  unfold Scaled.ofBits
  dsimp only
  split
  · exact ⟨le_rfl, by dsimp only; omega, fun hless => absurd hless (lt_irrefl _)⟩
  · exact ⟨by dsimp only; omega, by dsimp only; omega, fun _ => by dsimp only; omega⟩

theorem pattern_ofBits : (Scaled.ofBits bits).pattern = bits.toNat % 2 ^ 63 := by
  have hfield := toNat_field bits
  have hfraction := toNat_fraction bits
  have hnormal : Scaled.leastNormal = 2 ^ 52 := rfl
  unfold Scaled.pattern Scaled.ofBits
  dsimp only
  rw [mod_pattern, ← hfield, ← hfraction, Nat.shiftLeft_eq]
  split
  · rename_i hzero
    simp [hzero]
  · rename_i hsome
    have hexponent : (((((bits >>> 52) &&& 0x7ff).toNat : ℕ) : ℤ) + Scaled.leastExponent - 1 - Scaled.leastExponent).toNat =
        ((bits >>> 52) &&& 0x7ff).toNat - 1 := by omega
    rw [hexponent, hnormal, Nat.sub_mul]
    dsimp only
    omega

variable {x : Float}

/-- A finite number is a quotient by its significand and exponent. -/
theorem ofFloat_of_finite (h : Quantity.isFinite x = true) : Exact.ofFloat x =
    .finite (negativeBits x.toBits)
      ((Scaled.ofBits x.toBits).significand * (twoPower (Scaled.ofBits x.toBits).exponent).1)
      (twoPower (Scaled.ofBits x.toBits).exponent).2 ∧ ((x.toBits >>> 52) &&& 0x7ff).toNat ≠ 0x7ff := by
  have hexact : Exact.ofFloat x = Quantity.exact x := rfl
  unfold Quantity.isFinite at h
  rw [← hexact] at h
  unfold Exact.ofFloat at h ⊢
  dsimp only at h ⊢
  split
  · rename_i hfield
    rw [if_pos hfield] at h
    split at h
    · rename_i hfinite
      split at hfinite <;> cases hfinite
    · cases h
  · rename_i hfield
    exact ⟨rfl, fun hsame => hfield (beq_iff_eq.mpr (UInt64.toNat_inj.mp hsame))⟩

theorem pattern_lt (h : Quantity.isFinite x = true) : x.toBits.toNat % 2 ^ 63 < infinityBits := by
  have hfield := (ofFloat_of_finite h).2
  have hinfinity : infinityBits = 0x7ff * 2 ^ 52 := rfl
  rw [toNat_field] at hfield
  rw [mod_pattern, hinfinity]
  omega

/-- The number of a sign and a pattern. -/
theorem ofBits_pattern (x : Float) : Float.ofBits (if negativeBits x.toBits then
      (x.toBits.toNat % 2 ^ 63).toUInt64 ||| 0x8000000000000000 else (x.toBits.toNat % 2 ^ 63).toUInt64) = x := by
  have hsmall : x.toBits.toNat < 2 ^ 64 := UInt64.toNat_lt _
  have hmagnitude : ((x.toBits.toNat % 2 ^ 63).toUInt64).toNat = x.toBits.toNat % 2 ^ 63 :=
    UInt64.toNat_ofNat_of_lt' ((Nat.mod_le _ _).trans_lt hsmall)
  conv => rhs; rw [← Float.ofBits_toBits x]
  congr 1
  rw [← UInt64.toNat_inj]
  split
  · rename_i hnegative
    have hsign := (negativeBits_iff _).mp hnegative
    have hor : x.toBits.toNat % 2 ^ 63 ||| 2 ^ 63 * 1 = 2 ^ 63 * 1 + x.toBits.toNat % 2 ^ 63 := by
      rw [Nat.lor_comm, Nat.two_pow_add_eq_or_of_lt (Nat.mod_lt _ (Nat.two_pow_pos 63))]
    have hconst : (0x8000000000000000 : UInt64).toNat = 2 ^ 63 * 1 := rfl
    rw [UInt64.toNat_or, hmagnitude, hconst, hor]
    omega
  · rename_i hpositive
    have hsign := (negativeBits_iff _).not.mp hpositive
    rw [hmagnitude]
    omega

/-- The binary number nearest to a quotient in the interval around a number is the number. -/
theorem nearest_of_takes (h : Quantity.isFinite x = true) (hsome : (Scaled.ofBits x.toBits).significand ≠ 0) {num den : ℕ}
    (hden : 0 < den) (htakes : (Scaled.ofBits x.toBits).Takes ((num : ℚ) / den)) :
    nearest (negativeBits x.toBits) num den = x := by
  have hbits : nearestBits num den = x.toBits.toNat % 2 ^ 63 := by
    rw [nearestBits_of_takes (proper_ofBits _) hsome hden htakes, pattern_ofBits, min_eq_left (pattern_lt h).le]
  rw [nearest, hbits]
  exact ofBits_pattern x

/-- Zero keeps its sign. -/
theorem nearest_zero (hzero : (Scaled.ofBits x.toBits).significand = 0) : nearest (negativeBits x.toBits) 0 1 = x := by
  have hleast : (Scaled.ofBits x.toBits).exponent = Scaled.leastExponent := by
    by_contra hother
    have hproper := proper_ofBits x.toBits
    have := hproper.normal (lt_of_le_of_ne hproper.exponent (Ne.symm hother))
    omega
  have hpattern : x.toBits.toNat % 2 ^ 63 = 0 := by
    rw [← pattern_ofBits, Scaled.pattern, hzero, hleast, sub_self]
    rfl
  have hbits : nearestBits 0 1 = x.toBits.toNat % 2 ^ 63 := by
    rw [hpattern]
    rfl
  rw [nearest, hbits]
  exact ofBits_pattern x

/-! ### Digits in the interval -/

/-- The exponents of bit patterns keep numbers within reach. -/
theorem exponent_lt (h : Quantity.isFinite x = true) : (Scaled.ofBits x.toBits).exponent ≤ 972 := by
  have hpattern := pattern_lt h
  have hinfinity : infinityBits = 0x7ff * 2 ^ 52 := rfl
  have hleast : Scaled.leastExponent = -1074 := rfl
  rw [← pattern_ofBits, Scaled.pattern, Nat.shiftLeft_eq, hinfinity] at hpattern
  omega

/-- A number in an interval has a magnitude that the exponent bounds. -/
theorem Scaled.Takes.between {scaled : Scaled} (hproper : scaled.Proper) (hsome : scaled.significand ≠ 0) {number : ℚ}
    (htakes : scaled.Takes number) {size reach : ℕ} (hsize : (2 : ℚ) ^ size ≤ 10 ^ reach)
    (hlow : -(size : ℤ) ≤ scaled.exponent - 1) (hhigh : 53 + scaled.exponent ≤ size) :
    (10 : ℚ) ^ (-(reach : ℤ)) ≤ number ∧ number < 10 ^ (reach : ℤ) := by
  have hone : (1 : ℚ) ≤ scaled.significand := by exact_mod_cast Nat.one_le_iff_ne_zero.mpr hsome
  have hsignificand : (scaled.significand : ℚ) + 1 ≤ 2 ^ 53 := by exact_mod_cast hproper.significand
  have hreach := scaled.reachBelow_le
  have hunit : (0 : ℚ) < 2 ^ scaled.exponent := two_zpow_pos _
  constructor
  · calc (10 : ℚ) ^ (-(reach : ℤ)) = (10 ^ reach)⁻¹ := by rw [zpow_neg, zpow_natCast]
      _ ≤ (2 ^ size)⁻¹ := inv_anti₀ (by positivity) hsize
      _ = 2 ^ (-(size : ℤ)) := by rw [zpow_neg, zpow_natCast]
      _ ≤ 2 ^ (scaled.exponent - 1) := zpow_le_zpow_right₀ one_le_two hlow
      _ = 1 / 2 * 2 ^ scaled.exponent := by rw [zpow_sub₀ two_ne_zero]; ring
      _ ≤ (scaled.significand - scaled.reachBelow) * 2 ^ scaled.exponent := by gcongr; linarith
      _ ≤ number := htakes.low
  · calc number ≤ (scaled.significand + 1 / 2) * 2 ^ scaled.exponent := htakes.high
      _ < 2 ^ 53 * 2 ^ scaled.exponent := by gcongr; linarith
      _ = 2 ^ (53 + scaled.exponent) := by rw [zpow_add₀ two_ne_zero]; norm_cast
      _ ≤ 2 ^ (size : ℤ) := zpow_le_zpow_right₀ one_le_two hhigh
      _ = 2 ^ size := zpow_natCast _ _
      _ ≤ 10 ^ reach := hsize
      _ = 10 ^ (reach : ℤ) := (zpow_natCast _ _).symm

/-- Digits in the interval around a number are read as the number. -/
theorem nearestDecimal_of_takes (h : Quantity.isFinite x = true) (hsome : (Scaled.ofBits x.toBits).significand ≠ 0)
    {digits : Digits} (htakes : (Scaled.ofBits x.toBits).Takes digits.value) :
    nearestDecimal (negativeBits x.toBits) digits.digits digits.exponent = x := by
  have hproper := proper_ofBits x.toBits
  have hleast : -1074 ≤ (Scaled.ofBits x.toBits).exponent := hproper.exponent
  have hmost := exponent_lt h
  obtain ⟨size, hsize⟩ : ∃ size, size = 1200 := ⟨_, rfl⟩
  have hpowers : (2 : ℚ) ^ size ≤ 10 ^ Exact.reach := by exact_mod_cast two_pow_le_reach hsize.le
  obtain ⟨hlow, hhigh⟩ := htakes.between hproper hsome hpowers (by omega) (by omega)
  have hpos : 0 < digits.value := htakes.pos hsome
  have hdigits : digits.digits ≠ 0 := by
    intro hzero
    simp [Digits.value, hzero] at hpos
  have hunit : (0 : ℚ) < 10 ^ digits.exponent := ten_zpow_pos _
  have hcount : 0 < Exact.digitCount digits.digits := List.length_pos_iff.mpr Nat.toDigits_ne_nil
  have hsmall : ¬ ((Exact.digitCount digits.digits : ℤ) + digits.exponent < -(Exact.reach : ℤ)) := by
    intro hsize
    have hless : digits.value < 10 ^ ((Exact.digitCount digits.digits : ℤ) + digits.exponent) := by
      rw [zpow_add₀ (by norm_num), zpow_natCast]
      exact mul_lt_mul_of_pos_right (by exact_mod_cast lt_pow_digitCount _) hunit
    have hpower : (10 : ℚ) ^ (-(Exact.reach : ℤ)) < 10 ^ ((Exact.digitCount digits.digits : ℤ) + digits.exponent) :=
      hlow.trans_lt hless
    have := (zpow_lt_zpow_iff_right₀ (by norm_num : (1 : ℚ) < 10)).mp hpower
    omega
  have hlarge : ¬ ((Exact.reach : ℤ) < (Exact.digitCount digits.digits : ℤ) + digits.exponent) := by
    intro hsize
    have hmore : (10 : ℚ) ^ (((Exact.digitCount digits.digits - 1 : ℕ) : ℤ) + digits.exponent) ≤ digits.value := by
      rw [zpow_add₀ (by norm_num), zpow_natCast]
      exact mul_le_mul_of_nonneg_right (by exact_mod_cast pow_digitCount_le hdigits) hunit.le
    have hpower : (10 : ℚ) ^ (((Exact.digitCount digits.digits - 1 : ℕ) : ℤ) + digits.exponent) < 10 ^ (Exact.reach : ℤ) :=
      hmore.trans_lt hhigh
    have := (zpow_lt_zpow_iff_right₀ (by norm_num : (1 : ℚ) < 10)).mp hpower
    omega
  unfold nearestDecimal
  dsimp only
  rw [if_neg (by simpa [hdigits] using hsmall), if_neg hlarge]
  refine nearest_of_takes h hsome (tenPower_pos _).2 ?_
  rw [← Digits.value_eq_div]
  exact htakes

end FixFirst
