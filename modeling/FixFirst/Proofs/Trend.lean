import FixFirst.Monitor
import FixFirst.Proofs.Pressure
import Mathlib.Algebra.BigOperators.Fin
import Mathlib.Algebra.Order.Chebyshev
import Mathlib.Tactic.FieldSimp
import Mathlib.Tactic.Ring

/-!
# The trend of memory readings

A monitor keeps the last readings, and the rate of growth of a new one is the slope of the line that fits these best.
On exact numbers the slope is a quotient of two sums over the window: the products of the deviations from the means, and
the squares of the deviations of the times.  The second is positive as soon as the window lasts, and the sign of the first
is that of Chebyshev's inequality.

## Main definitions

* `covariation`, `variation` — the sums above and below the line of the quotient.
* `latestOf` — the last readings, as many as a window holds.
* `Monitor.reads` — a monitor after readings.

## Main statements

* `leastSquares_eq` — the slope is the quotient of the two sums.
* `variation_pos` — a window that lasts has different times.
* `covariation_nonneg`, `covariation_nonpos` — the sign of the trend of readings in order.
* `Monitor.window_reads` — a monitor keeps the last readings.
* `growth_follows_trend` — the rate of growth is a sound trend, at every reading.
-/

namespace FixFirst

variable {window : List (Point Rat)}

/-! ### Sums over a window -/

/-- The mean of the times. -/
def meanTime (window : List (Point Rat)) : Rat := (window.map (·.time)).sum / window.length

/-- The mean of the memory in use. -/
def meanBytes (window : List (Point Rat)) : Rat := (window.map fun point => (point.bytes : Rat)).sum / window.length

/-- The products of the deviations from both means, summed up. -/
def covariation (window : List (Point Rat)) : Rat :=
  (window.map fun point => (point.time - meanTime window) * (point.bytes - meanBytes window)).sum

/-- The squares of the deviations from the mean time, summed up. -/
def variation (window : List (Point Rat)) : Rat :=
  (window.map fun point => (point.time - meanTime window) * (point.time - meanTime window)).sum

theorem cast_foldr_add (values : List Int) :
    ((values.foldr (· + ·) 0 : Int) : Rat) = (values.map (Int.cast : Int → Rat)).sum := by
  induction values with
  | nil => simp
  | cons value rest ih => rw [List.foldr_cons, Int.cast_add, ih, List.map_cons, List.sum_cons]

/-- The slope is the quotient of the two sums.  A quotient by zero is zero, which is what the slope is then. -/
theorem leastSquares_eq (window : List (Point Rat)) :
    leastSquares window = .ok (covariation window / variation window) := by
  have htime : (Quantity.sum (window.map (·.time)) : Rat) / Quantity.ofNat window.length = meanTime window := by
    rw [sum_eq, ofNat_exact, meanTime]
  have hbytes : inRange (Quantity.ratio? (τ := Rat) ((window.map (·.bytes)).foldr (· + ·) 0) window.length) =
      .ok (meanBytes window) := by
    rw [inRange_ratio, cast_foldr_add, List.map_map, meanBytes]
    rfl
  have hproducts : (window.mapM fun point => do
      return (point.time - meanTime window) * ((← inRange (Quantity.ofInt? point.bytes)) - meanBytes window) :
        Except Fault (List Rat)) =
        .ok (window.map fun point => (point.time - meanTime window) * (point.bytes - meanBytes window)) := by
    refine mapM_ok fun point _ => ?_
    rw [inRange_ofInt]
    rfl
  have hsquares : (window.mapM fun point => inRange (Quantity.square? (point.time - meanTime window))) =
      .ok (window.map fun point => (point.time - meanTime window) * (point.time - meanTime window)) :=
    mapM_ok fun point _ => rfl
  have hguard : Quantity.isZero (variation window) = true ↔ variation window = 0 := by
    simp only [Quantity.isZero, zero_rat, Bool.and_eq_true, decide_eq_true_iff]
    exact ⟨fun h => le_antisymm h.1 h.2, fun h => ⟨h.le, h.ge⟩⟩
  rw [leastSquares, htime, hbytes]
  change (List.mapM (m := Except Fault) _ window >>= _) = _
  rw [hproducts]
  change (List.mapM (m := Except Fault) _ window >>= _) = _
  rw [hsquares]
  change Except.ok (if Quantity.isZero (Quantity.sum _) = true then Quantity.zero else Quantity.sum _ / Quantity.sum _) = _
  rw [sum_eq, sum_eq, ← variation, ← covariation, zero_rat]
  by_cases hzero : variation window = 0
  · rw [if_pos (hguard.mpr hzero), hzero, div_zero]
  · rw [if_neg (mt hguard.mp hzero)]

/-! ### What the sums are -/

/-- Multiplied by the number of readings, the covariation compares the sum of the products with the product of the
sums. -/
theorem length_mul_covariation (window : List (Point Rat)) :
    window.length * covariation window =
      Fintype.card (Fin window.length) * ∑ i : Fin window.length, window[i].time * (window[i].bytes : Rat) -
        (∑ i : Fin window.length, window[i].time) * ∑ i : Fin window.length, (window[i].bytes : Rat) := by
  have hplaces : ∀ f : Point Rat → Rat, ∑ i : Fin window.length, f window[i] = (window.map f).sum :=
    fun f => Fin.sum_univ_fun_getElem window f
  rw [Fintype.card_fin, hplaces (·.time), hplaces fun point => (point.bytes : Rat),
    hplaces fun point => point.time * (point.bytes : Rat)]
  by_cases hsome : window = []
  · simp [hsome]
  have hlength : (window.length : Rat) ≠ 0 := by simpa using hsome
  have hexpand : ∀ point : Point Rat, (point.time - meanTime window) * (point.bytes - meanBytes window) =
      point.time * point.bytes + (-meanBytes window * point.time + (-meanTime window * point.bytes +
        meanTime window * meanBytes window)) := fun point => by ring
  simp only [covariation, hexpand, List.sum_map_add, List.sum_map_mul_left, List.map_const', List.sum_replicate,
    nsmul_eq_mul]
  simp only [meanTime, meanBytes]
  field_simp
  ring

section Order

variable (htimes : window.Pairwise fun before after => before.time ≤ after.time)

include htimes

theorem time_le_of_le {i j : Fin window.length} (h : i ≤ j) : window[i].time ≤ window[j].time := by
  rcases h.lt_or_eq with hlt | rfl
  · exact List.pairwise_iff_getElem.mp htimes i j i.isLt j.isLt hlt
  · exact le_rfl

/-- Readings that never decrease have no falling trend: this is Chebyshev's sum inequality. -/
theorem covariation_nonneg (hbytes : window.Pairwise fun before after => before.bytes ≤ after.bytes) :
    0 ≤ covariation window := by
  by_cases hsome : window = []
  · simp [hsome, covariation]
  have hlength : 0 < (window.length : Rat) := by exact_mod_cast List.length_pos_iff.mpr hsome
  have hmonovary : Monovary (fun i : Fin window.length => window[i].time) (fun i => (window[i].bytes : Rat)) := by
    intro i j hlt
    refine time_le_of_le htimes (le_of_not_gt fun hback => ?_)
    have hle := List.pairwise_iff_getElem.mp hbytes j i j.isLt i.isLt hback
    exact absurd (Int.cast_lt.mp hlt) (not_lt.mpr hle)
  have hscaled : 0 ≤ window.length * covariation window := by
    rw [length_mul_covariation]
    exact sub_nonneg.mpr hmonovary.sum_mul_sum_le_card_mul_sum
  exact nonneg_of_mul_nonneg_right hscaled hlength

/-- Readings that never increase have no rising trend. -/
theorem covariation_nonpos (hbytes : window.Pairwise fun before after => after.bytes ≤ before.bytes) :
    covariation window ≤ 0 := by
  by_cases hsome : window = []
  · simp [hsome, covariation]
  have hlength : 0 < (window.length : Rat) := by exact_mod_cast List.length_pos_iff.mpr hsome
  have hantivary : Antivary (fun i : Fin window.length => window[i].time) (fun i => (window[i].bytes : Rat)) := by
    intro i j hlt
    refine time_le_of_le htimes (le_of_not_gt fun hback => ?_)
    have hle := List.pairwise_iff_getElem.mp hbytes i j i.isLt j.isLt hback
    exact absurd (Int.cast_lt.mp hlt) (not_lt.mpr hle)
  have hscaled : window.length * covariation window ≤ 0 := by
    rw [length_mul_covariation]
    exact sub_nonpos.mpr hantivary.card_mul_sum_le_sum_mul_sum
  exact nonpos_of_mul_nonpos_right hscaled hlength

end Order

/-- Two readings at different times do not both lie at the mean. -/
theorem variation_pos {first last : Point Rat} (hfirst : first ∈ window) (hlast : last ∈ window)
    (hlater : first.time < last.time) : 0 < variation window := by
  have hsquare : ∀ point ∈ window, (point.time - meanTime window) * (point.time - meanTime window) ≤ variation window := by
    intro point hin
    refine List.single_le_sum (fun value hvalue => ?_) _ (List.mem_map_of_mem hin)
    obtain ⟨other, -, rfl⟩ := List.mem_map.mp hvalue
    exact mul_self_nonneg _
  by_cases hmean : first.time = meanTime window
  · have hoff : last.time - meanTime window ≠ 0 := sub_ne_zero.mpr (hmean ▸ hlater.ne')
    exact (mul_self_pos.mpr hoff).trans_le (hsquare last hlast)
  · exact (mul_self_pos.mpr (sub_ne_zero.mpr hmean)).trans_le (hsquare first hfirst)

/-- On a line the readings deviate from their mean as the times do from theirs, times the slope. -/
theorem covariation_of_line {start rate : Rat} (hline : ∀ point ∈ window, (point.bytes : Rat) = start + rate * point.time) :
    covariation window = rate * variation window := by
  by_cases hsome : window = []
  · simp [hsome, covariation, variation]
  have hlength : (window.length : Rat) ≠ 0 := by simpa using hsome
  have hmean : meanBytes window = start + rate * meanTime window := by
    rw [meanBytes, List.map_congr_left hline, List.sum_map_add, List.sum_map_mul_left, List.map_const', List.sum_replicate,
      nsmul_eq_mul, meanTime]
    field_simp
  rw [covariation, variation, ← List.sum_map_mul_left]
  congr 1
  refine List.map_congr_left fun point hin => ?_
  rw [hline point hin, hmean]
  ring

/-! ### Readings that are shifted -/

/-- A reading at a time that is counted from elsewhere, of so many bytes more. -/
def Point.shifted (seconds : Rat) (bytes : Int) (point : Point Rat) : Point Rat :=
  ⟨point.time + seconds, point.bytes + bytes⟩

section Shifted

variable (seconds : Rat) (bytes : Int)

theorem meanTime_shifted (hsome : window ≠ []) :
    meanTime (window.map (Point.shifted seconds bytes)) = meanTime window + seconds := by
  have hlength : (window.length : Rat) ≠ 0 := by simpa using hsome
  simp only [meanTime, List.map_map, List.length_map, Function.comp_def, Point.shifted, List.sum_map_add, List.map_const',
    List.sum_replicate, nsmul_eq_mul]
  field_simp

theorem meanBytes_shifted (hsome : window ≠ []) :
    meanBytes (window.map (Point.shifted seconds bytes)) = meanBytes window + bytes := by
  have hlength : (window.length : Rat) ≠ 0 := by simpa using hsome
  simp only [meanBytes, List.map_map, List.length_map, Function.comp_def, Point.shifted, Int.cast_add, List.sum_map_add,
    List.map_const', List.sum_replicate, nsmul_eq_mul]
  field_simp

theorem covariation_shifted : covariation (window.map (Point.shifted seconds bytes)) = covariation window := by
  by_cases hsome : window = []
  · simp [hsome]
  rw [covariation, meanTime_shifted seconds bytes hsome, meanBytes_shifted seconds bytes hsome, List.map_map, covariation]
  congr 1
  refine List.map_congr_left fun point _ => ?_
  simp only [Function.comp_apply, Point.shifted, Int.cast_add]
  ring

theorem variation_shifted : variation (window.map (Point.shifted seconds bytes)) = variation window := by
  by_cases hsome : window = []
  · simp [hsome]
  rw [variation, meanTime_shifted seconds bytes hsome, List.map_map, variation]
  congr 1
  refine List.map_congr_left fun point _ => ?_
  simp only [Function.comp_apply, Point.shifted]
  ring

theorem span?_shifted : span? (window.map (Point.shifted seconds bytes)) = span? window := by
  simp only [span?, List.head?_map, List.getLast?_map]
  cases window.head? <;> cases window.getLast? <;> simp [Point.shifted]

end Shifted

/-! ### The rate of growth -/

theorem exists_span? (hsome : window ≠ []) : ∃ first ∈ window, ∃ last ∈ window, span? window = some (last.time - first.time) := by
  refine ⟨window.head hsome, List.head_mem hsome, window.getLast hsome, List.getLast_mem hsome, ?_⟩
  rw [span?, List.head?_eq_some_head hsome, List.getLast?_eq_some_getLast hsome]

/-- The trend of a window: none below the least span, else the slope. -/
theorem slope_eq {least width : Rat} (hleast : 0 < least) (hspan : span? window = some width) :
    slope window least = .ok (if width < least then 0 else covariation window / variation window) := by
  cases window with
  | nil => cases hspan
  | cons first rest =>
      cases rest with
      | nil =>
          have hwidth : width = 0 := by simpa [span?] using hspan.symm
          rw [hwidth, if_pos hleast]
          simp only [slope, zero_rat]
      | cons second rest =>
          simp only [slope, hspan, zero_rat, leastSquares_eq]
          split_ifs <;> rfl

/-- The last readings, as many as a window of a size holds. -/
def latestOf (size : Nat) (points : List (Point Rat)) : List (Point Rat) :=
  points.drop (points.length - min size points.length)

theorem latestOf_ne_nil {size : Nat} {points : List (Point Rat)} (hsize : 0 < size) (hsome : points ≠ []) :
    latestOf size points ≠ [] := by
  have hlength := List.length_pos_iff.mpr hsome
  rw [ne_eq, latestOf, List.drop_eq_nil_iff]
  omega

theorem latestOf_map (size : Nat) (points : List (Point Rat)) (f : Point Rat → Point Rat) :
    latestOf size (points.map f) = (latestOf size points).map f := by
  rw [latestOf, latestOf, List.length_map, List.map_drop]

namespace Monitor

variable {config : ResourceConfig Rat} {monitor : Monitor Rat}

/-- A monitor after readings. -/
def reads (monitor : Monitor Rat) (points : List (Point Rat)) : Monitor Rat :=
  points.foldl (fun monitor point => (monitor.sample point.time point.bytes).2) monitor

theorem window_sample (monitor : Monitor Rat) (time : Rat) (bytes : Int) :
    (monitor.sample time bytes).2.window = push monitor.config.window monitor.window ⟨time, bytes⟩ := by
  simp only [sample]
  split <;> rfl

/-- A reading is classified by its growth, which is the trend of what the window then holds. -/
theorem sample_eq {time growth : Rat} {bytes : Int} {level : Level}
    (hgrowth : slope (push monitor.config.window monitor.window ⟨time, bytes⟩) monitor.config.interval = .ok growth)
    (hlevel : monitor.config.classify bytes (.measured growth) = .ok level) :
    (monitor.sample time bytes).1 = .ok ⟨time, bytes, growth, level⟩ := by
  have hclassified : (monitor.note time bytes).judge time bytes = .ok ⟨time, bytes, growth, level⟩ := by
    change (slope (push monitor.config.window monitor.window ⟨time, bytes⟩) monitor.config.interval >>= _) = _
    rw [hgrowth]
    change (monitor.config.classify bytes (.measured growth) >>= _) = _
    rw [hlevel]
    rfl
  simp only [sample, hclassified]

/-- A window that takes one more reading drops the ones before the last. -/
theorem push_latestOf (size : Nat) (points : List (Point Rat)) (point : Point Rat) :
    push size (latestOf size points) point = latestOf size (points ++ [point]) := by
  have hfront : latestOf size points ++ [point] = (points ++ [point]).drop (points.length - min size points.length) :=
    (List.drop_append_of_le_length (by omega)).symm
  rw [push, hfront, List.drop_drop, latestOf]
  congr 1
  simp only [List.length_drop, List.length_append, List.length_singleton]
  omega

/-- A monitor keeps the last readings. -/
theorem window_reads (hmade : make config = .ok monitor) (points : List (Point Rat)) :
    (monitor.reads points).config = config ∧ (monitor.reads points).window = latestOf config.window points := by
  have hstart : monitor = ⟨config, [], none, none, false⟩ := by
    rw [make] at hmade
    split at hmade
    · cases hmade
    · exact (Except.ok.inj hmade).symm
  induction points using List.reverseRecOn with
  | nil => simp [hstart, reads, latestOf]
  | append_singleton points point ih =>
      obtain ⟨hconfig, hwindow⟩ := ih
      rw [reads, List.foldl_append, List.foldl_cons, List.foldl_nil, config_sample, window_sample]
      change (monitor.reads points).config = config ∧ push (monitor.reads points).config.window (monitor.reads points).window
        ⟨point.time, point.bytes⟩ = _
      rw [hconfig, hwindow]
      exact ⟨rfl, push_latestOf config.window points point⟩

/-- Every reading gives a sample, with the trend of the last readings for its growth. -/
theorem exists_sample (hvalid : config.Valid) (hmade : make config = .ok monitor) (before : List (Point Rat))
    (point : Point Rat) {width : Rat} (hspan : span? (latestOf config.window (before ++ [point])) = some width) :
    ∃ sample, ((monitor.reads before).sample point.time point.bytes).1 = .ok sample ∧ sample.time = point.time ∧
      sample.bytes = point.bytes ∧
      sample.growth = if width < config.interval then 0 else
        covariation (latestOf config.window (before ++ [point])) / variation (latestOf config.window (before ++ [point])) := by
  obtain ⟨hconfig, hwindow⟩ := window_reads hmade before
  have hkept : push (monitor.reads before).config.window (monitor.reads before).window ⟨point.time, point.bytes⟩ =
      latestOf config.window (before ++ [point]) := by
    rw [hconfig, hwindow]
    exact push_latestOf config.window before point
  have hgrowth := slope_eq hvalid.interval hspan
  rw [← hkept, ← congrArg ResourceConfig.interval hconfig] at hgrowth
  obtain ⟨level, -, hlevel, -⟩ := ResourceConfig.classify_le hvalid (le_refl point.bytes) (le_refl (Amount.measured _).exact)
  rw [← hconfig] at hlevel
  refine ⟨_, sample_eq hgrowth hlevel, rfl, rfl, ?_⟩
  rw [hkept, hconfig]

end Monitor

/-- **The rate of growth is a sound trend.**  Take readings by a clock that never goes back, with a monitor made from valid
settings.  Every reading gives a sample, whose growth is computed from exactly the last readings, as many as the window
holds.  It is zero if these span less than the interval.  Otherwise their times differ, it is the slope of the line that
fits best, it is not negative if the readings never decrease, not positive if they never increase, and the slope of the
line if they lie on one.  Counting all times, or all sizes, from elsewhere does not change it. -/
theorem growth_follows_trend {config : ResourceConfig Rat} (hvalid : config.Valid) {monitor : Monitor Rat}
    (hmade : Monitor.make config = .ok monitor) {before : List (Point Rat)} {point : Point Rat}
    (hclock : (before ++ [point]).Pairwise fun early late => early.time ≤ late.time) :
    let kept := latestOf config.window (before ++ [point])
    kept.length = min config.window (before ++ [point]).length ∧ kept <:+ before ++ [point] ∧
      ∃ sample width, ((monitor.reads before).sample point.time point.bytes).1 = .ok sample ∧ span? kept = some width ∧
        (width < config.interval → sample.growth = 0) ∧
        (config.interval ≤ width →
          0 < variation kept ∧ sample.growth = covariation kept / variation kept ∧
          ((kept.Pairwise fun early late => early.bytes ≤ late.bytes) → 0 ≤ sample.growth) ∧
          ((kept.Pairwise fun early late => late.bytes ≤ early.bytes) → sample.growth ≤ 0) ∧
          ∀ start rate : Rat, (∀ reading ∈ kept, (reading.bytes : Rat) = start + rate * reading.time) →
            sample.growth = rate) ∧
        ∀ (seconds : Rat) (bytes : Int), ∃ other,
          ((monitor.reads (before.map (Point.shifted seconds bytes))).sample (point.time + seconds) (point.bytes + bytes)).1 =
            .ok other ∧ other.growth = sample.growth := by
  intro kept
  have hsome : kept ≠ [] := latestOf_ne_nil (by have := hvalid.window; omega) (by simp)
  have htimes : kept.Pairwise fun early late => early.time ≤ late.time := hclock.sublist (List.drop_sublist _ _)
  obtain ⟨first, hfirst, last, hlast, hspan⟩ := exists_span? hsome
  obtain ⟨sample, hsample, -, -, hgrowth⟩ := Monitor.exists_sample hvalid hmade before point hspan
  refine ⟨?_, List.drop_suffix _ _, sample, _, hsample, hspan, ?_, ?_, ?_⟩
  · simp only [kept, latestOf, List.length_drop]
    omega
  · intro hshort
    rw [hgrowth, if_pos hshort]
  · intro hlong
    have hpositive : 0 < variation kept :=
      variation_pos hfirst hlast (sub_pos.mp (hvalid.interval.trans_le hlong))
    rw [if_neg (not_lt.mpr hlong)] at hgrowth
    refine ⟨hpositive, hgrowth, ?_, ?_, ?_⟩
    · intro hrising
      rw [hgrowth]
      exact div_nonneg (covariation_nonneg htimes hrising) hpositive.le
    · intro hfalling
      rw [hgrowth]
      exact div_nonpos_of_nonpos_of_nonneg (covariation_nonpos htimes hfalling) hpositive.le
    · intro start rate hline
      rw [hgrowth, covariation_of_line hline, mul_div_cancel_right₀ _ hpositive.ne']
  · intro seconds bytes
    have hmoved : latestOf config.window (before.map (Point.shifted seconds bytes) ++ [point.shifted seconds bytes]) =
        kept.map (Point.shifted seconds bytes) := by
      rw [← latestOf_map, List.map_append, List.map_singleton]
    have hspan' : span? (latestOf config.window (before.map (Point.shifted seconds bytes) ++ [point.shifted seconds bytes])) =
        some (last.time - first.time) := by rw [hmoved, span?_shifted, hspan]
    obtain ⟨other, hother, -, -, hsame⟩ := Monitor.exists_sample hvalid hmade _ _ hspan'
    refine ⟨other, hother, ?_⟩
    rw [hsame, hgrowth, hmoved, covariation_shifted, variation_shifted]

/-- In a window of two readings the first of three no longer counts: the other two lie on a line. -/
theorem growth_follows_trend_line :
    let config : ResourceConfig Rat := ⟨true, 100, 7 / 10, 5, 1 / 10, 2⟩
    let monitor : Monitor Rat := ⟨config, [], none, none, false⟩
    (config.Valid ∧ Monitor.make config = .ok monitor ∧
      ([⟨0, 900⟩, ⟨1, 100⟩] ++ [⟨3, 110⟩] : List (Point Rat)).Pairwise fun early late => early.time ≤ late.time) ∧
      ∃ sample, ((monitor.reads [⟨0, 900⟩, ⟨1, 100⟩]).sample 3 110).1 = .ok sample ∧ sample.growth = 5 := by
  intro config monitor
  have hvalid : config.Valid := by constructor <;> norm_num [config]
  have hmade : Monitor.make config = .ok monitor := rfl
  have hclock : ([⟨0, 900⟩, ⟨1, 100⟩] ++ [⟨3, 110⟩] : List (Point Rat)).Pairwise fun early late => early.time ≤ late.time := by
    norm_num
  obtain ⟨-, -, sample, width, hsample, hspan, -, hlong, -⟩ := growth_follows_trend hvalid hmade hclock
  have hkept : latestOf config.window ([⟨0, 900⟩, ⟨1, 100⟩] ++ [⟨3, 110⟩]) = [⟨1, 100⟩, ⟨3, 110⟩] := rfl
  rw [hkept] at hspan hlong
  have hwidth : width = 2 := by
    rw [← Option.some.inj hspan]
    norm_num
  obtain ⟨-, -, -, -, hline⟩ := hlong (by norm_num [hwidth, config])
  refine ⟨⟨hvalid, hmade, hclock⟩, sample, hsample, hline 95 5 ?_⟩
  intro reading hin
  rcases List.mem_pair.mp hin with rfl | rfl <;> norm_num

end FixFirst
