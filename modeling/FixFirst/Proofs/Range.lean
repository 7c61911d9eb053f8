import FixFirst.Run

/-!
# Faults of computations

Computations on numbers fail only where a number has no exact value, and paths only where a name
cannot be read.  A set of faults is given; a result is confined to it when it is a value, or one of
these faults.

## Main definitions

* `Confined` — a result that is a value or one of some faults.

## Main statements

* `Confined.judge`, `Confined.milliseconds` — what computes on numbers is confined to the
  faults of numbers without an exact value.
* `Confined.normalize` — what reads paths is confined to the faults of names.
-/

namespace FixFirst

variable {α β : Type}

/-- Whether a result is a value, or one of some faults. -/
def Confined (known : Fault → Prop) (result : Except Fault α) : Prop := ∀ fault, result = .error fault → known fault

namespace Confined

variable {known : Fault → Prop}

theorem ok (value : α) : Confined known (.ok value : Except Fault α) := by
  intro fault h
  cases h

theorem error {fault : Fault} (h : known fault) : Confined known (.error fault : Except Fault α) := by
  intro other heq
  cases heq
  exact h

theorem mono {wider : Fault → Prop} {result : Except Fault α} (h : Confined known result)
    (hwider : ∀ fault, known fault → wider fault) : Confined wider result :=
  fun fault herror => hwider fault (h fault herror)

theorem bind {result : Except Fault α} {next : α → Except Fault β} (h : Confined known result)
    (hnext : ∀ value, result = .ok value → Confined known (next value)) : Confined known (result >>= next) := by
  cases result with
  | ok value => exact hnext value rfl
  | error fault =>
      intro other heq
      cases heq
      exact h fault rfl

theorem mapM {f : α → Except Fault β} {items : List α} (h : ∀ item ∈ items, Confined known (f item)) :
    Confined known (items.mapM f) := by
  induction items with
  | nil => exact ok []
  | cons item rest ih =>
      rw [List.mapM_cons]
      refine (h item List.mem_cons_self).bind fun value _ => ?_
      refine bind (ih fun other hin => h other (List.mem_cons_of_mem _ hin)) fun values _ => ?_
      exact ok (value :: values)

/-! ### Names -/

/-- Reading paths fails at names that cannot be read, or at the name of an unknown user. -/
theorem normalize (hvalue : ∀ text, known (.value text)) (hruntime : ∀ text, known (.runtime text)) (disk : Disk)
    (text : String) : Confined known (disk.normalize text) := by
  unfold Disk.normalize Disk.normalizePath
  refine bind ?_ fun expanded _ => ?_
  · unfold Disk.expandHome
    split
    · exact ok _
    · split
      · split
        · exact ok _
        · split
          · exact ok _
          · split
            · exact error (hvalue _)
            · split
              · exact ok _
              · exact error (hruntime _)
      · exact ok _
  · split
    · exact ok _
    · exact error (hvalue _)
    · exact ok _

theorem normalizeAll {disk : Disk} {texts : List String} (h : ∀ text ∈ texts, Confined known (disk.normalize text)) :
    Confined known (disk.normalizeAll texts) :=
  bind (mapM h) fun all _ => ok (firsts all)

theorem order {disk : Disk} {files : List String} {critical : Option (List String)}
    (hfiles : Confined known (disk.normalizeAll files))
    (hcritical : ∀ marked ∈ critical, Confined known (disk.normalizeAll marked)) :
    Confined known (FixFirst.order disk files critical) := by
  unfold FixFirst.order
  refine bind hfiles fun input _ => ?_
  cases critical with
  | none => exact ok _
  | some marked => exact bind (hcritical marked rfl) fun named _ => ok _

/-! ### Numbers -/

section

variable {τ : Type} [Quantity τ]

/-- Whether the faults of numbers without an exact value are known, if there are such numbers. -/
def Covers (τ : Type) [Quantity τ] (known : Fault → Prop) : Prop :=
  ∀ x : τ, Quantity.isFinite x = false → ∀ text, known (.overflow text) ∧ known (.value text)

variable (h : Covers τ known)

include h

theorem inRange? (x : τ) : Confined known (FixFirst.inRange (Quantity.inRange? x)) := by
  unfold Quantity.inRange?
  cases hx : Quantity.isFinite x with
  | true => exact ok x
  | false => exact error (h x hx _).1

theorem square? (x : τ) : Confined known (FixFirst.inRange (Quantity.square? x)) := by
  unfold Quantity.square?
  simp only
  split
  · rename_i hout
    have hinfinite : Quantity.isFinite (x * x) = false := by
      rw [Bool.and_eq_true, Bool.not_eq_true'] at hout
      exact hout.2
    exact error (h (x * x) hinfinite _).1
  · exact ok (x * x)

theorem slope (window : List (Point τ)) (least : τ) : Confined known (FixFirst.slope window least) := by
  unfold FixFirst.slope
  split
  · split
    · exact ok _
    · unfold leastSquares
      refine bind (inRange? h _) fun meanBytes _ => bind (mapM fun point _ => ?_) fun products _ => ?_
      · exact bind (inRange? h _) fun bytes _ => ok _
      · exact bind (mapM fun point _ => square? h _) fun squares _ => ok _
  · exact ok _

theorem limitBytes (config : ResourceConfig τ) : Confined known config.limitBytes := by
  unfold ResourceConfig.limitBytes
  split
  · exact ok _
  · rename_i hnone
    refine error (h (config.memoryLimit * Quantity.ofNat 1024 * Quantity.ofNat 1024) ?_ _).1
    unfold Quantity.truncate? at hnone
    unfold Quantity.isFinite
    split
    · rename_i hfinite
      rw [hfinite] at hnone
      cases hnone
    · rfl

theorem classify (config : ResourceConfig τ) (bytes : Int) (rate : Amount τ) : Confined known (config.classify bytes rate) := by
  have hseconds : ∀ room, Confined known (rate.seconds room) := by
    intro room
    cases rate with
    | measured value => exact bind (inRange? h _) fun room _ => ok _
    | whole value => exact inRange? h _
  have hexhaustion : Confined known (config.exhaustion bytes rate) := by
    unfold ResourceConfig.exhaustion
    split
    · exact ok _
    · exact bind (limitBytes h config) fun limit _ => bind (hseconds _) fun time _ => ok _
  unfold ResourceConfig.classify
  split
  · exact ok _
  · refine bind (limitBytes h config) fun limit _ => ?_
    split
    · exact ok _
    · refine bind hexhaustion fun left _ => ?_
      simp only
      split
      · exact ok _
      · refine bind (inRange? h _) fun size _ => ?_
        split
        · exact ok _
        · exact ok _

/-- A reading of the memory. -/
theorem judge (monitor : Monitor τ) (time : τ) (bytes : Int) : Confined known (monitor.judge time bytes) :=
  bind (slope h _ _) fun _ _ => bind (classify h _ _ _) fun _ _ => ok _

theorem milliseconds (moment : τ) : Confined known (FixFirst.milliseconds moment) := by
  unfold FixFirst.milliseconds
  split
  · exact ok _
  · rename_i hexact
    refine error (h (moment * Quantity.ofNat 1000) ?_ _).1
    unfold Quantity.isFinite
    rw [hexact]
  · rename_i hexact
    refine error (h (moment * Quantity.ofNat 1000) ?_ _).2
    unfold Quantity.isFinite
    rw [hexact]

end

end Confined

end FixFirst
