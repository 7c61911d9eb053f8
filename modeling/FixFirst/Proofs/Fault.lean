import FixFirst.Fault
import Mathlib.Data.List.Forall2

/-!
# Operations that may fail

What is known of the parts of an operation that gave a result.

## Main statements

* `bind_ok_iff`, `map_ok_iff` — one operation after the other, and a function of a result.
* `mapM_ok_iff`, `mapM_ok`, `mapM_eq_map_iff` — the results of all items of a list.
-/

namespace FixFirst

theorem bind_ok_iff {α β : Type} {first : Except Fault α} {next : α → Except Fault β} {result : β} :
    (first >>= next) = .ok result ↔ ∃ value, first = .ok value ∧ next value = .ok result := by
  cases first with
  | error fault => simp [bind, Except.bind]
  | ok value => simp [bind, Except.bind]

theorem map_ok_iff {α β : Type} {first : Except Fault α} {f : α → β} {result : β} :
    first.map f = .ok result ↔ ∃ value, first = .ok value ∧ result = f value := by
  cases first with
  | error fault => simp [Except.map]
  | ok value => simp [Except.map, eq_comm]

theorem mapM_ok_iff {α β : Type} {f : α → Except Fault β} {items : List α} {results : List β} :
    items.mapM f = .ok results ↔ List.Forall₂ (fun item result => f item = .ok result) items results := by
  induction items generalizing results with
  | nil => cases results <;> simp [pure, Except.pure]
  | cons item items ih =>
      rw [List.mapM_cons]
      cases hitem : f item with
      | error fault => cases results <;> simp [bind, Except.bind, hitem]
      | ok result =>
          cases hitems : items.mapM f with
          | error fault => cases results <;> simp [bind, Except.bind, ← ih, hitems, hitem]
          | ok others => cases results <;> simp [bind, Except.bind, pure, Except.pure, ← ih, hitems, hitem]

/-- What succeeds for each item comes to all the values. -/
theorem mapM_ok {α β : Type} {f : α → Except Fault β} {g : α → β} {items : List α}
    (h : ∀ item ∈ items, f item = .ok (g item)) : items.mapM f = .ok (items.map g) := by
  induction items with
  | nil => rfl
  | cons item rest ih =>
      rw [List.mapM_cons, h item List.mem_cons_self, ih fun other hin => h other (List.mem_cons_of_mem _ hin)]
      rfl

/-- The results of items on which a function succeeds under a condition, with a known value. -/
theorem mapM_eq_map_iff {α β : Type} {f : α → Except Fault β} {P : α → Prop} {g : α → β} {items : List α}
    (h : ∀ item ∈ items, ∀ result, f item = .ok result ↔ P item ∧ result = g item) {results : List β} :
    items.mapM f = .ok results ↔ (∀ item ∈ items, P item) ∧ results = items.map g := by
  rw [mapM_ok_iff]
  induction items generalizing results with
  | nil => cases results <;> simp
  | cons item items ih =>
      obtain ⟨hitem, hitems⟩ := List.forall_mem_cons.mp h
      cases results with
      | nil => simp
      | cons result results =>
          rw [List.forall₂_cons, hitem, ih hitems, List.forall_mem_cons, List.map_cons, List.cons.injEq]
          exact and_and_and_comm

end FixFirst
