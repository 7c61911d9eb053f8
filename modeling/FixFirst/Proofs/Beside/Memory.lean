import FixFirst.Proofs.Beside.Worlds
import FixFirst.Proofs.Token.Calm
import FixFirst.Proofs.Trend

/-!
# Memory in constant use

The level of a reading depends on the readings before it, by their trend.  Readings of one size have none, at
whatever times they are taken, so they all come to the level of that size: memory in constant use is under
constant pressure.

## Main statements

* `leastSquares_constant` — the line through readings of one size is flat.
* `Monitor.Pressed.of_constant` — memory in constant use is under constant pressure.
-/

namespace FixFirst

variable {bytes : Int} {window : List (Point Rat)}

/-! ### The trend -/

/-- The line through readings of one size is flat. -/
theorem leastSquares_constant (h : ∀ point ∈ window, point.bytes = bytes) : leastSquares window = .ok 0 := by
  have hline : ∀ point ∈ window, (point.bytes : Rat) = bytes + 0 * point.time := by
    intro point hin
    rw [h point hin, zero_mul, add_zero]
  rw [leastSquares_eq, covariation_of_line hline, zero_mul, zero_div]

/-- Readings of one size have no trend. -/
theorem slope_constant (h : ∀ point ∈ window, point.bytes = bytes) (least : Rat) : slope window least = .ok 0 := by
  unfold slope
  split
  · split
    · rw [zero_rat]
    · exact leastSquares_constant h
  · rw [zero_rat]

/-! ### The pressure -/

namespace Monitor

variable {monitor : Monitor Rat} {level : Level} {memory : Nat → Int} {count : Nat}

/-- A reading of the size of the ones before comes to the level of that size. -/
theorem sample_constant (hlevel : monitor.config.classify bytes (.measured 0) = .ok level)
    (h : ∀ point ∈ monitor.window, point.bytes = bytes) (time : Rat) :
    ∃ taken, (monitor.sample time bytes).1 = .ok taken ∧ taken.level = level ∧
      ∀ point ∈ (monitor.sample time bytes).2.window, point.bytes = bytes := by
  have hwindow : ∀ point ∈ push monitor.config.window monitor.window ⟨time, bytes⟩, point.bytes = bytes := by
    intro point hin
    rcases List.mem_append.mp (List.mem_of_mem_drop hin) with hbefore | hnew
    · exact h point hbefore
    · rw [List.mem_singleton.mp hnew]
  refine ⟨_, sample_eq (slope_constant hwindow _) hlevel, rfl, ?_⟩
  rw [window_sample]
  exact hwindow

/-- Memory in constant use is under constant pressure. -/
theorem Pressed.of_constant (hlevel : monitor.config.classify bytes (.measured 0) = .ok level)
    (h : ∀ point ∈ monitor.window, point.bytes = bytes) (hmemory : ∀ index, memory index = bytes) :
    monitor.Pressed level memory count := by
  intro times
  induction times generalizing monitor count with
  | nil => exact fun outcome hin => absurd hin List.not_mem_nil
  | cons time rest ih =>
      obtain ⟨taken, htaken, hknown, hwindow⟩ := sample_constant hlevel h time
      have hconfig := config_sample monitor time bytes
      intro outcome hin
      unfold readings at hin
      rw [hmemory count] at hin
      rcases List.mem_cons.mp hin with rfl | hrest
      · exact ⟨taken, htaken, hknown⟩
      · exact ih (hconfig ▸ hlevel) hwindow outcome hrest

end Monitor

end FixFirst
