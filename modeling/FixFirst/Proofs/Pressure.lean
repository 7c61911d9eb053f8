import FixFirst.Proofs.Fault
import FixFirst.Proofs.Quantity
import Mathlib.Tactic.Linarith
import Mathlib.Tactic.Positivity

/-!
# More memory pressure, less work at once

On exact numbers a level is told by two projections: how much memory will be in use after the horizon, and after three
times the horizon, if it goes on growing at its rate.  No quotient is left in them, and each of them grows with the
memory in use and with the rate.  So the level never falls when one of the two rises, and what may be done at once never
rises with the level.

## Main definitions

* `ResourceConfig.Valid` — settings that keep to their bounds.
* `Amount.exact` — a rate of growth as a fraction.
* `projected` — the memory in use after some time.
* `ResourceConfig.levelAt` — the level that projections tell.

## Main statements

* `ResourceConfig.classify_eq` — every reading has a level, and projections tell which.
* `Level.batchSize_le`, `Level.concurrency_le` — what may be done at once under a higher level.
* `pressure_monotone` — more memory in use and faster growth never mean more work at once.
-/

namespace FixFirst

/-! ### What may be done at once -/

namespace Level

variable {low high : Level} {target minimum jobs : Int}

theorem batchSize_le_max (level : Level) (hminimum : 1 ≤ minimum) :
    level.batchSize target minimum ≤ max minimum target := by
  cases level <;> simp only [batchSize, Int.fdiv_eq_ediv_of_nonneg target (show (0 : Int) ≤ 2 by decide)] <;> omega

theorem concurrency_le_max (level : Level) : level.concurrency jobs ≤ max 1 jobs := by
  cases level <;> simp only [concurrency, Int.fdiv_eq_ediv_of_nonneg jobs (show (0 : Int) ≤ 2 by decide)] <;> omega

/-- Batches do not grow with the level. -/
theorem batchSize_le (h : low.rank ≤ high.rank) (hminimum : 1 ≤ minimum) :
    high.batchSize target minimum ≤ low.batchSize target minimum := by
  cases low <;> cases high <;>
    simp only [rank, batchSize, Int.fdiv_eq_ediv_of_nonneg target (show (0 : Int) ≤ 2 by decide)] at h ⊢ <;> omega

/-- Concurrency does not grow with the level. -/
theorem concurrency_le (h : low.rank ≤ high.rank) : high.concurrency jobs ≤ low.concurrency jobs := by
  cases low <;> cases high <;>
    simp only [rank, concurrency, Int.fdiv_eq_ediv_of_nonneg jobs (show (0 : Int) ≤ 2 by decide)] at h ⊢ <;> omega

end Level

/-! ### Levels by projections -/

/-- An amount as a fraction. -/
def Amount.exact : Amount Rat → Rat
  | .measured value => value
  | .whole value => value

/-- Whether the settings of the resource section keep to their bounds. -/
structure ResourceConfig.Valid (config : ResourceConfig Rat) : Prop where
  memoryLimit : 0 < config.memoryLimit
  elevatedRatio : 0 < config.elevatedRatio ∧ config.elevatedRatio ≤ 1
  horizon : 0 < config.horizon
  interval : 0 < config.interval
  window : 2 ≤ config.window

/-- The memory in use after some time, if it goes on growing at a rate. -/
def projected (bytes : Int) (rate seconds : Rat) : Rat := bytes + seconds * max 0 rate

theorem projected_le {less more : Int} {slow fast seconds : Rat} (hbytes : less ≤ more) (hrate : slow ≤ fast)
    (hseconds : 0 ≤ seconds) : projected less slow seconds ≤ projected more fast seconds := by
  have hgrowth : max 0 slow ≤ max 0 fast := max_le_max le_rfl hrate
  unfold projected
  gcongr

namespace Amount

theorem isGrowth_iff (rate : Amount Rat) : rate.isGrowth = true ↔ 0 < rate.exact := by
  cases rate with
  | measured value => simp [isGrowth, exact, zero_rat]
  | whole value => simp [isGrowth, exact]

/-- A positive rate divides without a loss. -/
theorem seconds_eq {rate : Amount Rat} (h : 0 < rate.exact) (bytes : Int) :
    rate.seconds bytes = .ok (bytes / rate.exact) := by
  cases rate with
  | measured value =>
      simp only [seconds, inRange_ofInt, exact]
      rfl
  | whole value =>
      have hpositive : 0 < value := by simpa [exact] using h
      have hvalue : ((value.toNat : Nat) : Rat) = value := by
        rw [← Int.cast_natCast, Int.toNat_of_nonneg hpositive.le]
      rw [seconds, inRange_ratio, hvalue, exact]

end Amount

namespace ResourceConfig

variable {config : ResourceConfig Rat} {bytes limit : Int} {rate : Amount Rat}

/-- A limit that is a fraction has a whole part. -/
theorem exists_limitBytes (config : ResourceConfig Rat) : ∃ limit, config.limitBytes = .ok limit := ⟨_, rfl⟩

theorem exhaustion_eq (hlimit : config.limitBytes = .ok limit) :
    config.exhaustion bytes rate =
      .ok (if 0 < rate.exact then some (max 0 (((limit - bytes : Int) : Rat) / rate.exact)) else none) := by
  by_cases hgrowth : 0 < rate.exact
  · rw [exhaustion, if_neg (by simp [rate.isGrowth_iff.mpr hgrowth]), hlimit, if_pos hgrowth]
    show (rate.seconds (limit - bytes) >>= _) = _
    rw [Amount.seconds_eq hgrowth]
    show Except.ok (some (Quantity.greatest Quantity.zero _)) = _
    rw [greatest_zero]
  · have hnone : rate.isGrowth = false := Bool.eq_false_iff.mpr (mt rate.isGrowth_iff.mp hgrowth)
    rw [exhaustion, hnone, if_pos (by rfl), if_neg hgrowth]
    rfl

/-- The limit is reached within some time if the projection reaches it.  Below the limit, a rate that does not grow
projects to what is in use already. -/
theorem any_exhaustion {seconds rate : Rat} (hbelow : bytes < limit) (hseconds : 0 < seconds) :
    ((if 0 < rate then some (max 0 (((limit - bytes : Int) : Rat) / rate)) else none).any
      fun left => decide (left ≤ seconds)) = decide ((limit : Rat) ≤ projected bytes rate seconds) := by
  have hleft : (bytes : Rat) < limit := by exact_mod_cast hbelow
  rw [Bool.eq_iff_iff, decide_eq_true_iff, projected]
  by_cases hgrowth : 0 < rate
  · simp only [hgrowth, if_true, Option.any_some, decide_eq_true_iff, max_le_iff, hseconds.le, true_and,
      max_eq_right hgrowth.le, div_le_iff₀ hgrowth, Int.cast_sub]
    exact sub_le_iff_le_add'
  · simp only [hgrowth, if_false, Option.any_none, Bool.false_eq_true, max_eq_left (not_lt.mp hgrowth), mul_zero,
      add_zero, false_iff, not_le]
    exact hleft

/-- The level that two projections and the memory in use tell. -/
def levelAt (config : ResourceConfig Rat) (limit bytes : Int) (rate : Rat) : Level :=
  if (limit : Rat) ≤ projected bytes rate config.horizon then .critical
  else if config.elevatedRatio * limit ≤ bytes ∨ (limit : Rat) ≤ projected bytes rate (3 * config.horizon) then .elevated
  else .normal

/-- Every reading has a level, and projections tell which. -/
theorem classify_eq (hvalid : config.Valid) (henabled : config.enabled = true) (hlimit : config.limitBytes = .ok limit) :
    config.classify bytes rate = .ok (config.levelAt limit bytes rate.exact) := by
  have hhorizon := hvalid.horizon
  rw [classify, henabled, hlimit]
  show (if limit ≤ bytes then Except.ok Level.critical else _) = _
  by_cases hfull : limit ≤ bytes
  · have hused : (limit : Rat) ≤ projected bytes rate.exact config.horizon :=
      calc (limit : Rat) ≤ bytes := by exact_mod_cast hfull
        _ ≤ bytes + config.horizon * max 0 rate.exact := le_add_of_nonneg_right (by positivity)
    rw [if_pos hfull, levelAt, if_pos hused]
  · have hbelow : bytes < limit := not_le.mp hfull
    rw [if_neg hfull, exhaustion_eq hlimit]
    show (if (Option.any _ _) = true then Except.ok Level.critical else _) = _
    rw [any_exhaustion hbelow hhorizon, inRange_ofInt]
    show (if _ then _ else if Quantity.leInt (config.elevatedRatio * (limit : Rat)) bytes = true then Except.ok Level.elevated
      else Except.ok (if Option.any _ _ = true then Level.elevated else Level.normal)) = _
    rw [any_exhaustion hbelow (by rw [ofNat_exact]; positivity), ofNat_exact, levelAt]
    simp only [decide_eq_true_iff, leInt_iff, Nat.cast_ofNat]
    split
    · rfl
    · by_cases hmuch : config.elevatedRatio * (limit : Rat) ≤ bytes
      · simp [hmuch]
      · simp only [hmuch, if_false, false_or]

/-- The level never falls when more memory is in use or it grows faster. -/
theorem levelAt_le (hvalid : config.Valid) {less more : Int} {slow fast : Rat} (hbytes : less ≤ more) (hrate : slow ≤ fast) :
    (config.levelAt limit less slow).rank ≤ (config.levelAt limit more fast).rank := by
  have hhorizon := hvalid.horizon
  have hsoon := projected_le hbytes hrate hhorizon.le
  have hlater := projected_le hbytes hrate (show (0 : Rat) ≤ 3 * config.horizon by positivity)
  have hused : (less : Rat) ≤ more := by exact_mod_cast hbytes
  unfold levelAt
  by_cases hcritical : (limit : Rat) ≤ projected more fast config.horizon
  · rw [if_pos hcritical]
    split_ifs <;> decide
  · have hsafe : ¬(limit : Rat) ≤ projected less slow config.horizon := fun h => hcritical (h.trans hsoon)
    rw [if_neg hcritical, if_neg hsafe]
    by_cases helevated : config.elevatedRatio * limit ≤ more ∨ (limit : Rat) ≤ projected more fast (3 * config.horizon)
    · rw [if_pos helevated]
      split_ifs <;> decide
    · have hnormal : ¬(config.elevatedRatio * limit ≤ less ∨ (limit : Rat) ≤ projected less slow (3 * config.horizon)) :=
        fun h => helevated (h.imp hused.trans' hlater.trans')
      rw [if_neg helevated, if_neg hnormal]

/-- Every reading has a level, which never falls when more memory is in use or it grows faster. -/
theorem classify_le (hvalid : config.Valid) {less more : Int} {slow fast : Amount Rat} (hbytes : less ≤ more)
    (hrate : slow.exact ≤ fast.exact) :
    ∃ low high, config.classify less slow = .ok low ∧ config.classify more fast = .ok high ∧ low.rank ≤ high.rank := by
  obtain ⟨limit, hlimit⟩ := exists_limitBytes config
  by_cases henabled : config.enabled = true
  · exact ⟨_, _, classify_eq hvalid henabled hlimit, classify_eq hvalid henabled hlimit, levelAt_le hvalid hbytes hrate⟩
  · have hnormal : ∀ bytes rate, config.classify bytes rate = .ok .normal := by
      intro bytes rate
      rw [classify, if_pos (by simpa using henabled)]
      rfl
    exact ⟨_, _, hnormal less slow, hnormal more fast, le_rfl⟩

end ResourceConfig

/-! ### Pressure and work -/

/-- **More memory pressure never means more work at once.**  With valid settings and exact numbers every reading has a
level, which does not fall when more memory is in use and it grows faster; and whatever the target, the least size and
the number of jobs, a higher level allows neither larger batches nor more engines at once.  Sizes stay between the least
size and the target, engines between one and the number of jobs. -/
theorem pressure_monotone {config : ResourceConfig Rat} (hvalid : config.Valid) {less more : Int} {slow fast : Amount Rat}
    (hbytes : less ≤ more) (hrate : slow.exact ≤ fast.exact) :
    (∃ low high, config.classify less slow = .ok low ∧ config.classify more fast = .ok high ∧ low.rank ≤ high.rank) ∧
      ∀ target minimum jobs : Int, 1 ≤ minimum →
        (∀ low high : Level, low.rank ≤ high.rank →
          high.batchSize target minimum ≤ low.batchSize target minimum ∧ high.concurrency jobs ≤ low.concurrency jobs) ∧
        ∀ level : Level, minimum ≤ level.batchSize target minimum ∧ level.batchSize target minimum ≤ max minimum target ∧
          1 ≤ level.concurrency jobs ∧ level.concurrency jobs ≤ max 1 jobs := by
  refine ⟨ResourceConfig.classify_le hvalid hbytes hrate, ?_⟩
  intro target minimum jobs hminimum
  constructor
  · intro low high hlevels
    exact ⟨Level.batchSize_le hlevels hminimum, Level.concurrency_le hlevels⟩
  · intro level
    exact ⟨level.minimum_le_batchSize target minimum, level.batchSize_le_max hminimum, level.one_le_concurrency jobs,
      level.concurrency_le_max⟩

/-- Half of the memory in use is normal while use is steady, and critical when it grows by a tenth of the limit each
second. -/
theorem pressure_monotone_growing :
    let config : ResourceConfig Rat := ⟨true, 100, 7 / 10, 5, 1 / 10, 10⟩
    (config.Valid ∧ (52428800 : Int) ≤ 52428800 ∧ (Amount.measured (0 : Rat)).exact ≤ (Amount.whole 10485760).exact) ∧
      config.classify 52428800 (.measured 0) = .ok .normal ∧ config.classify 52428800 (.whole 10485760) = .ok .critical ∧
        Level.critical.batchSize 100 1 ≤ Level.normal.batchSize 100 1 := by
  intro config
  have hvalid : config.Valid := by constructor <;> norm_num [config]
  have hrate : (Amount.measured (0 : Rat)).exact ≤ (Amount.whole 10485760).exact := by norm_num [Amount.exact]
  have hlimit : config.limitBytes = .ok 104857600 := by decide +kernel
  obtain ⟨-, hwork⟩ := pressure_monotone hvalid (le_refl (52428800 : Int)) hrate
  refine ⟨⟨hvalid, le_rfl, hrate⟩, ?_, ?_, ((hwork 100 1 1 (by decide)).1 .normal .critical (by decide)).1⟩
  · rw [ResourceConfig.classify_eq hvalid rfl hlimit]
    norm_num [ResourceConfig.levelAt, projected, Amount.exact, config]
  · rw [ResourceConfig.classify_eq hvalid rfl hlimit]
    norm_num [ResourceConfig.levelAt, projected, Amount.exact, config]

end FixFirst
