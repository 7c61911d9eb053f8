import FixFirst.Decimal.Shortest
import FixFirst.Proofs.Decimal.Nearest

/-!
# Shortest digits read back

The digits that are chosen for a binary number lie in the interval around it.  Seventeen digits always suffice: two
neighbours on their grid are closer to each other than the ends of the interval.

## Main definitions

* `Digits.value` — the number that digits and a power of ten denote.

## Main statements

* `Basin.holds_iff` — what it means to lie in the interval.
* `takes_shortest` — the shortest digits lie in the interval.
-/

namespace FixFirst

/-! ### Powers of ten -/

theorem tenPower_pos (exponent : Int) : 0 < (Exact.tenPower exponent).1 ∧ 0 < (Exact.tenPower exponent).2 := by
  unfold Exact.tenPower
  split
  · exact ⟨Nat.one_pos, Nat.pow_pos (by decide)⟩
  · exact ⟨Nat.pow_pos (by decide), Nat.one_pos⟩

theorem tenPower_div (exponent : Int) :
    ((Exact.tenPower exponent).1 : ℚ) / (Exact.tenPower exponent).2 = 10 ^ exponent := by
  unfold Exact.tenPower
  split
  · obtain ⟨n, rfl⟩ : ∃ n : ℕ, exponent = -n := ⟨exponent.natAbs, by omega⟩
    simp
  · obtain ⟨n, rfl⟩ : ∃ n : ℕ, exponent = n := ⟨exponent.natAbs, by omega⟩
    simp

theorem ten_zpow_pos (exponent : Int) : (0 : ℚ) < 10 ^ exponent := zpow_pos (by norm_num) exponent

/-- The number that digits and a power of ten denote. -/
def Digits.value (digits : Digits) : ℚ := digits.digits * 10 ^ digits.exponent

/-- Zeros at the end may stand in the exponent. -/
theorem Digits.value_dropZeros (fuel : ℕ) (digits : Digits) : (Digits.dropZeros fuel digits).value = digits.value := by
  induction fuel generalizing digits with
  | zero => rfl
  | succ fuel ih =>
      unfold dropZeros
      split
      · rename_i hzero
        obtain ⟨-, hmod⟩ : digits.digits ≠ 0 ∧ digits.digits % 10 = 0 := by simpa using hzero
        have hten : (digits.digits : ℚ) = 10 * (digits.digits / 10 : ℕ) := by
          exact_mod_cast (by omega : digits.digits = 10 * (digits.digits / 10))
        rw [ih, Digits.value, Digits.value, zpow_add₀ (by norm_num), hten]
        ring
      · rfl

/-! ### The interval -/

theorem Basin.den_pos (scaled : Scaled) : 0 < (Basin.of scaled).den := (twoPower_pos _).2

/-- A numerator of the interval, in units of the significand. -/
theorem Basin.quarters_div (scaled : Scaled) (quarters : ℕ) :
    ((quarters * (twoPower (scaled.exponent - 2)).1 : ℕ) : ℚ) / (Basin.of scaled).den = quarters / 4 * 2 ^ scaled.exponent := by
  have hunit : (2 : ℚ) ^ (scaled.exponent - 2) = 2 ^ scaled.exponent / 4 := by
    rw [zpow_sub₀ two_ne_zero]
    norm_num
  have hpower : ((twoPower (scaled.exponent - 2)).1 : ℚ) / (Basin.of scaled).den = 2 ^ scaled.exponent / 4 :=
    (twoPower_div _).trans hunit
  rw [Nat.cast_mul, mul_div_assoc, hpower]
  ring

theorem Basin.low_div {scaled : Scaled} (hsome : scaled.significand ≠ 0) :
    ((Basin.of scaled).low : ℚ) / (Basin.of scaled).den =
      (scaled.significand - scaled.reachBelow) * 2 ^ scaled.exponent := by
  refine (Basin.quarters_div scaled _).trans ?_
  unfold Scaled.reachBelow
  simp only [Bool.and_eq_true, decide_eq_true_eq]
  split
  · rw [Nat.cast_sub (by omega)]
    push_cast
    ring
  · rw [Nat.cast_sub (by omega)]
    push_cast
    ring

theorem Basin.high_div (scaled : Scaled) :
    ((Basin.of scaled).high : ℚ) / (Basin.of scaled).den = (scaled.significand + 1 / 2) * 2 ^ scaled.exponent := by
  refine (Basin.quarters_div scaled _).trans ?_
  push_cast
  ring

theorem Basin.middle_div (scaled : Scaled) : ((Basin.of scaled).middle : ℚ) / (Basin.of scaled).den = scaled.value := by
  refine (Basin.quarters_div scaled _).trans ?_
  rw [Scaled.value]
  push_cast
  ring

theorem Digits.value_eq_div (digits : Digits) : digits.value =
    (digits.digits * (Exact.tenPower digits.exponent).1 : ℕ) / ((Exact.tenPower digits.exponent).2 : ℚ) := by
  rw [Digits.value, ← tenPower_div, Nat.cast_mul, mul_div_assoc]

/-- Whether a point of a grid lies in the interval. -/
theorem Basin.holds_iff {scaled : Scaled} (hsome : scaled.significand ≠ 0) (digits : Digits) :
    (Basin.of scaled).holds digits = true ↔ scaled.Takes digits.value := by
  have hden : (0 : ℚ) < (Basin.of scaled).den := Nat.cast_pos.mpr (Basin.den_pos scaled)
  have hten : (0 : ℚ) < (Exact.tenPower digits.exponent).2 := Nat.cast_pos.mpr (tenPower_pos _).2
  have hlow : (scaled.significand - scaled.reachBelow) * 2 ^ scaled.exponent ≤ digits.value ↔
      (Basin.of scaled).low * (Exact.tenPower digits.exponent).2 ≤
        digits.digits * (Exact.tenPower digits.exponent).1 * (Basin.of scaled).den := by
    rw [← Basin.low_div hsome, Digits.value_eq_div, div_le_div_iff₀ hden hten]
    norm_cast
  have hhigh : digits.value ≤ (scaled.significand + 1 / 2) * 2 ^ scaled.exponent ↔
      digits.digits * (Exact.tenPower digits.exponent).1 * (Basin.of scaled).den ≤
        (Basin.of scaled).high * (Exact.tenPower digits.exponent).2 := by
    rw [← Basin.high_div, Digits.value_eq_div, div_le_div_iff₀ hten hden]
    norm_cast
  have hlow' : (scaled.significand - scaled.reachBelow) * 2 ^ scaled.exponent < digits.value ↔
      (Basin.of scaled).low * (Exact.tenPower digits.exponent).2 <
        digits.digits * (Exact.tenPower digits.exponent).1 * (Basin.of scaled).den := by
    rw [← Basin.low_div hsome, Digits.value_eq_div, div_lt_div_iff₀ hden hten]
    norm_cast
  have hhigh' : digits.value < (scaled.significand + 1 / 2) * 2 ^ scaled.exponent ↔
      digits.digits * (Exact.tenPower digits.exponent).1 * (Basin.of scaled).den <
        (Basin.of scaled).high * (Exact.tenPower digits.exponent).2 := by
    rw [← Basin.high_div, Digits.value_eq_div, div_lt_div_iff₀ hten hden]
    norm_cast
  have hclosed : (Basin.of scaled).closed = true ↔ scaled.significand % 2 = 0 := beq_iff_eq
  unfold Basin.holds
  dsimp only
  split
  · rename_i heven
    rw [Bool.and_eq_true, decide_eq_true_eq, decide_eq_true_eq, ← hlow, ← hhigh]
    exact ⟨fun ⟨hmore, hless⟩ => ⟨hmore, hless, fun hodd => absurd (hclosed.mp heven) hodd⟩, fun h => ⟨h.low, h.high⟩⟩
  · rename_i hodd
    rw [Bool.and_eq_true, decide_eq_true_eq, decide_eq_true_eq, ← hlow', ← hhigh']
    exact ⟨fun ⟨hmore, hless⟩ => ⟨hmore.le, hless.le, fun _ => ⟨hmore, hless⟩⟩,
      fun h => h.inside fun heven => hodd (hclosed.mpr heven)⟩

/-- What a grid gives for the interval lies in it. -/
theorem Basin.holds_of_onGrid {basin : Basin} {count : ℕ} {digits : Digits} (h : basin.onGrid count = some digits) :
    basin.holds digits = true := by
  unfold onGrid at h
  dsimp only at h
  split at h
  · cases h
  · rename_i hbelow _
    cases h
    exact hbelow
  · rename_i habove
    cases h
    exact habove
  · rename_i hbelow habove
    split at h
    · cases h
      exact hbelow
    · cases h
      exact habove

/-- A grid that gives nothing has neither neighbour of the number in the interval. -/
theorem Basin.not_holds_of_onGrid {basin : Basin} {count : ℕ} (h : basin.onGrid count = none) :
    let exponent := Exact.pointPosition basin.middle basin.den - count
    let quotient := basin.middle * (Exact.tenPower exponent).2 / (basin.den * (Exact.tenPower exponent).1)
    basin.holds ⟨quotient, exponent⟩ = false ∧ basin.holds ⟨quotient + 1, exponent⟩ = false := by
  unfold onGrid at h
  dsimp only at h ⊢
  split at h
  · rename_i hbelow habove
    exact ⟨hbelow, habove⟩
  · cases h
  · cases h
  · split at h <;> cases h

/-! ### Seventeen digits -/

theorem pow_digitCount_le {n : ℕ} (hn : n ≠ 0) : 10 ^ (Exact.digitCount n - 1) ≤ n := by
  by_contra hless
  have hpos : 0 < Exact.digitCount n := List.length_pos_iff.mpr Nat.toDigits_ne_nil
  rcases Nat.eq_or_lt_of_le hpos with hone | hmore
  · rw [← hone] at hless
    simp at hless
    omega
  · have hshort := (Nat.length_toDigits_le_iff (b := 10) (by decide) (by omega : 0 < Exact.digitCount n - 1)).mpr (not_le.mp hless)
    have : Exact.digitCount n ≤ Exact.digitCount n - 1 := hshort
    omega

theorem lt_pow_digitCount (n : ℕ) : n < 10 ^ Exact.digitCount n := by
  have hpos : 0 < Exact.digitCount n := List.length_pos_iff.mpr Nat.toDigits_ne_nil
  exact (Nat.length_toDigits_le_iff (by decide) hpos).mp le_rfl

/-- The first digit of a quotient stands where its position says. -/
theorem pow_pointPosition_le {num den : ℕ} (hden : 0 < den) (hreach : den ≤ num * 10 ^ Exact.reach) :
    (10 : ℚ) ^ (Exact.pointPosition num den - 1) ≤ num / den := by
  have hden' : (0 : ℚ) < den := Nat.cast_pos.mpr hden
  set shifted := num * 10 ^ Exact.reach / den with hshifted
  have hsome : shifted ≠ 0 := (Nat.div_pos hreach hden).ne'
  have hpos : 0 < Exact.digitCount shifted := List.length_pos_iff.mpr Nat.toDigits_ne_nil
  have hexponent : Exact.pointPosition num den - 1 = ((Exact.digitCount shifted - 1 : ℕ) : ℤ) - (Exact.reach : ℕ) := by
    rw [Exact.pointPosition, Nat.pow_eq, ← hshifted]
    omega
  have hfloor : (shifted : ℚ) ≤ num * 10 ^ Exact.reach / den := by
    rw [le_div_iff₀ hden']
    have hmul : shifted * den ≤ num * 10 ^ Exact.reach := Nat.div_mul_le_self _ _
    exact_mod_cast hmul
  have hfirst : (10 : ℚ) ^ (Exact.digitCount shifted - 1) ≤ shifted := by exact_mod_cast pow_digitCount_le hsome
  have hten : (0 : ℚ) < 10 ^ Exact.reach := by positivity
  rw [hexponent, zpow_sub₀ (by norm_num), zpow_natCast, zpow_natCast, div_le_iff₀ hten, div_mul_eq_mul_div]
  exact hfirst.trans hfloor

/-- Powers of two that bit patterns have are within reach. -/
theorem two_pow_le_reach {n : ℕ} (hn : n ≤ 1200) : 2 ^ n ≤ 10 ^ Exact.reach :=
  calc 2 ^ n ≤ 2 ^ (3 * Exact.reach) := Nat.pow_le_pow_right (by decide) hn
    _ = (2 ^ 3) ^ Exact.reach := pow_mul 2 3 Exact.reach
    _ ≤ 10 ^ Exact.reach := Nat.pow_le_pow_left (by decide) _

/-- The numbers with bit patterns are large enough for their first digit to be found. -/
theorem Basin.den_le {scaled : Scaled} (hproper : scaled.Proper) (hsome : scaled.significand ≠ 0) :
    (Basin.of scaled).den ≤ (Basin.of scaled).middle * 10 ^ Exact.reach := by
  have hmiddle : 0 < (Basin.of scaled).middle :=
    Nat.mul_pos (Nat.mul_pos (by decide) (Nat.pos_of_ne_zero hsome)) (twoPower_pos _).1
  have hden : (twoPower (scaled.exponent - 2)).2 ≤ 10 ^ Exact.reach := by
    have hexponent : -1074 ≤ scaled.exponent := hproper.exponent
    unfold twoPower
    split
    · exact two_pow_le_reach (by omega)
    · exact Nat.one_le_pow _ _ (by decide)
  calc (Basin.of scaled).den ≤ 10 ^ Exact.reach := hden
    _ ≤ (Basin.of scaled).middle * 10 ^ Exact.reach := Nat.le_mul_of_pos_left _ hmiddle

/-- Two neighbours on the grid of seventeen digits are closer to each other than the ends of the interval. -/
theorem spacing_lt {scaled : Scaled} (hproper : scaled.Proper) (hsome : scaled.significand ≠ 0) :
    (10 : ℚ) ^ (Exact.pointPosition (Basin.of scaled).middle (Basin.of scaled).den - 17) <
      (1 / 2 + scaled.reachBelow) * 2 ^ scaled.exponent := by
  have hfirst := pow_pointPosition_le (Basin.den_pos scaled) (Basin.den_le hproper hsome)
  rw [Basin.middle_div, Scaled.value] at hfirst
  have hunit : (0 : ℚ) < 2 ^ scaled.exponent := two_zpow_pos _
  have hwidth : (scaled.significand : ℚ) < (1 / 2 + scaled.reachBelow) * 10 ^ 16 := by
    have hsignificand : (scaled.significand : ℚ) < 2 ^ 53 := by exact_mod_cast hproper.significand
    unfold Scaled.reachBelow
    split
    · rename_i hpower
      have hcast : (scaled.significand : ℚ) = 2 ^ 52 := by exact_mod_cast hpower.1
      rw [hcast]
      norm_num
    · linarith
  set position := Exact.pointPosition (Basin.of scaled).middle (Basin.of scaled).den
  have hshift : (10 : ℚ) ^ (position - 17) * 10 ^ 16 = 10 ^ (position - 1) := by
    rw [← zpow_natCast, ← zpow_add₀ (by norm_num)]
    congr 1
    push_cast
    ring
  have hscaled : (10 : ℚ) ^ (position - 17) * 10 ^ 16 < (1 / 2 + scaled.reachBelow) * 2 ^ scaled.exponent * 10 ^ 16 := by
    rw [hshift]
    calc (10 : ℚ) ^ (position - 1) ≤ scaled.significand * 2 ^ scaled.exponent := hfirst
      _ < (1 / 2 + scaled.reachBelow) * 10 ^ 16 * 2 ^ scaled.exponent := mul_lt_mul_of_pos_right hwidth hunit
      _ = (1 / 2 + scaled.reachBelow) * 2 ^ scaled.exponent * 10 ^ 16 := by ring
  exact lt_of_mul_lt_mul_right hscaled (by norm_num)

/-- Seventeen digits suffice. -/
theorem exists_onGrid {scaled : Scaled} (hproper : scaled.Proper) (hsome : scaled.significand ≠ 0) :
    ∃ digits, (Basin.of scaled).onGrid enoughDigits = some digits := by
  set basin := Basin.of scaled with hbasin
  have hden : 0 < basin.den := Basin.den_pos scaled
  set exponent : Int := Exact.pointPosition basin.middle basin.den - enoughDigits with hexponent
  obtain ⟨hfirst, hsecond⟩ := tenPower_pos exponent
  set quotient := basin.middle * (Exact.tenPower exponent).2 / (basin.den * (Exact.tenPower exponent).1) with hquotient
  have hvalue : ∀ digits : ℕ, (Digits.mk digits exponent).value = digits * 10 ^ exponent := fun _ => rfl
  have hden' : (0 : ℚ) < basin.den := Nat.cast_pos.mpr hden
  have hsecond' : (0 : ℚ) < (Exact.tenPower exponent).2 := Nat.cast_pos.mpr hsecond
  have hbelow : (Digits.mk quotient exponent).value ≤ scaled.value := by
    have hfloor : quotient * (basin.den * (Exact.tenPower exponent).1) ≤ basin.middle * (Exact.tenPower exponent).2 :=
      Nat.div_mul_le_self _ _
    rw [Digits.value_eq_div, ← Basin.middle_div, div_le_div_iff₀ hsecond' hden']
    exact_mod_cast (by linarith : quotient * (Exact.tenPower exponent).1 * basin.den ≤ _)
  have habove : scaled.value < (Digits.mk (quotient + 1) exponent).value := by
    have hfloor : basin.middle * (Exact.tenPower exponent).2 < basin.den * (Exact.tenPower exponent).1 * (quotient + 1) :=
      Nat.lt_mul_div_succ _ (Nat.mul_pos hden hfirst)
    rw [Digits.value_eq_div, ← Basin.middle_div, div_lt_div_iff₀ hden' hsecond']
    exact_mod_cast (by linarith : _ < (quotient + 1) * (Exact.tenPower exponent).1 * basin.den)
  have hunit : (0 : ℚ) < 2 ^ scaled.exponent := two_zpow_pos _
  by_contra hnone
  have hneither : ¬scaled.Takes (Digits.mk quotient exponent).value ∧ ¬scaled.Takes (Digits.mk (quotient + 1) exponent).value := by
    have hgrid : basin.onGrid enoughDigits = none := Option.eq_none_iff_forall_ne_some.mpr fun digits hsome => hnone ⟨digits, hsome⟩
    rw [← Basin.holds_iff hsome, ← Basin.holds_iff hsome, Bool.not_eq_true, Bool.not_eq_true]
    exact Basin.not_holds_of_onGrid hgrid
  have hlow : (Digits.mk quotient exponent).value ≤ (scaled.significand - scaled.reachBelow) * 2 ^ scaled.exponent := by
    by_contra hmore
    have hless : (Digits.mk quotient exponent).value < (scaled.significand + 1 / 2) * 2 ^ scaled.exponent := by
      refine hbelow.trans_lt ?_
      rw [Scaled.value]
      gcongr
      linarith
    exact hneither.1 ⟨(not_le.mp hmore).le, hless.le, fun _ => ⟨not_le.mp hmore, hless⟩⟩
  have hhigh : (scaled.significand + 1 / 2) * 2 ^ scaled.exponent ≤ (Digits.mk (quotient + 1) exponent).value := by
    by_contra hless
    have hmore : (scaled.significand - scaled.reachBelow) * 2 ^ scaled.exponent < (Digits.mk (quotient + 1) exponent).value := by
      refine lt_of_le_of_lt ?_ habove
      rw [Scaled.value]
      gcongr
      linarith [scaled.reachBelow_pos]
    exact hneither.2 ⟨hmore.le, (not_le.mp hless).le, fun _ => ⟨hmore, not_le.mp hless⟩⟩
  have hspacing := spacing_lt hproper hsome
  rw [hvalue] at hlow hhigh
  push_cast at hhigh
  have hsame : (10 : ℚ) ^ exponent < (1 / 2 + scaled.reachBelow) * 2 ^ scaled.exponent := hspacing
  linarith

/-- The shortest digits lie in the interval. -/
theorem takes_shortest {scaled : Scaled} (hproper : scaled.Proper) (hsome : scaled.significand ≠ 0) :
    scaled.Takes (shortest scaled).value := by
  obtain ⟨last, hlast⟩ := exists_onGrid hproper hsome
  obtain ⟨digits, hdigits⟩ : ∃ digits,
      ((List.range enoughDigits).findSome? fun count => (Basin.of scaled).onGrid (count + 1)) = some digits := by
    rw [← Option.isSome_iff_exists, List.findSome?_isSome_iff]
    exact ⟨16, by decide, Option.isSome_iff_exists.mpr ⟨last, hlast⟩⟩
  obtain ⟨count, -, hcount⟩ := List.exists_of_findSome?_eq_some hdigits
  unfold shortest
  dsimp only
  rw [hdigits, Option.getD_some, Digits.value_dropZeros, ← Basin.holds_iff hsome]
  exact Basin.holds_of_onGrid hcount

end FixFirst
