/-!
# Insertion-ordered maps

A `Keyed α` holds one value per key and remembers in which order the keys came.
Putting a value under a key that is already there keeps the key's place.

## Main statements

* `holds_iff` — a map holds what is among its keys.
* `get?_put` — what a map holds after a value is put.
* `keys_put` — putting adds a new key at the end and moves none.
* `nodup_firsts`, `mem_firsts` — the first occurrences are the elements, each once.
-/

namespace FixFirst

/-- A map from names to values, in the order in which the names were first put. -/
abbrev Keyed (α : Type) := List (String × α)

namespace Keyed

variable {α β : Type}

/-- The keys in order. -/
def keys (entries : Keyed α) : List String := entries.map (·.1)

/-- The values in the order of their keys. -/
def values (entries : Keyed α) : List α := entries.map (·.2)

/-- The value under `key`. -/
def get? (entries : Keyed α) (key : String) : Option α :=
  (entries.find? fun entry => entry.1 == key).map (·.2)

/-- Whether there is a value under `key`. -/
def holds (entries : Keyed α) (key : String) : Bool := (entries.get? key).isSome

/-- Puts `value` under `key`: in the key's place if it has one, else at the end. -/
def put : Keyed α → String → α → Keyed α
  | [], key, value => [(key, value)]
  | entry :: rest, key, value =>
    if entry.1 = key then (key, value) :: rest else entry :: put rest key value

/-- Removes what is under `key`. -/
def erase (entries : Keyed α) (key : String) : Keyed α := entries.filter fun entry => entry.1 != key

/-- Applies `f` to every value. -/
def mapValues (f : α → β) (entries : Keyed α) : Keyed β := entries.map fun entry => (entry.1, f entry.2)

/-- A map with the pairs of a list, the last one of a key winning. -/
def ofPairs (pairs : List (String × α)) : Keyed α :=
  pairs.foldl (fun entries pair => entries.put pair.1 pair.2) []

@[simp] theorem get?_nil (key : String) : get? ([] : Keyed α) key = none := rfl

theorem get?_cons (entry : String × α) (rest : Keyed α) (key : String) :
    get? (entry :: rest) key = if entry.1 = key then some entry.2 else get? rest key := by
  by_cases h : entry.1 = key <;> simp [get?, h]

theorem holds_iff (entries : Keyed α) (key : String) : entries.holds key = true ↔ key ∈ entries.keys := by
  induction entries with
  | nil => simp [holds, keys]
  | cons entry rest ih =>
    unfold holds at ih ⊢
    rw [get?_cons]
    by_cases h : entry.1 = key
    · simp [keys, h]
    · have away : key ≠ entry.1 := fun e => h e.symm
      rw [if_neg h, ih]
      simp [keys, away]

theorem get?_put (entries : Keyed α) (key other : String) (value : α) :
    (entries.put key value).get? other = if key = other then some value else entries.get? other := by
  induction entries with
  | nil => simp [put, get?_cons]
  | cons entry rest ih =>
    unfold put
    by_cases h : entry.1 = key
    · rw [if_pos h, get?_cons, get?_cons]
      by_cases same : key = other
      · simp [same]
      · simp [same, h]
    · rw [if_neg h, get?_cons, get?_cons, ih]
      by_cases same : entry.1 = other
      · have away : key ≠ other := fun e => h (same.trans e.symm)
        simp [same, away]
      · simp [same]

/-- Putting what is already there changes nothing. -/
theorem put_eq_self {entries : Keyed α} {key : String} {value : α} (h : entries.get? key = some value) :
    entries.put key value = entries := by
  induction entries with
  | nil => cases h
  | cons entry rest ih =>
    rw [get?_cons] at h
    unfold put
    by_cases same : entry.1 = key
    · rw [if_pos same] at h ⊢
      cases h
      rw [← same]
    · rw [if_neg same] at h ⊢
      rw [ih h]

theorem keys_put (entries : Keyed α) (key : String) (value : α) :
    (entries.put key value).keys =
      if key ∈ entries.keys then entries.keys else entries.keys ++ [key] := by
  induction entries with
  | nil => simp [put, keys]
  | cons entry rest ih =>
    unfold put
    simp only [keys, List.map_cons, List.mem_cons] at ih ⊢
    by_cases h : entry.1 = key
    · simp [h]
    · have away : key ≠ entry.1 := fun e => h e.symm
      simp only [h, away, if_false, List.map_cons, false_or, ih]
      by_cases present : key ∈ List.map (fun x => x.1) rest <;> simp [present]

theorem get?_erase (entries : Keyed α) (key other : String) :
    (entries.erase key).get? other = if key = other then none else entries.get? other := by
  induction entries with
  | nil => simp [erase]
  | cons entry rest ih =>
    simp only [erase] at ih
    by_cases gone : entry.1 = key
    · simp only [erase, gone, bne_self_eq_false, Bool.false_eq_true, not_false_eq_true,
        List.filter_cons_of_neg, ih, get?_cons]
      split <;> rfl
    · have kept : (entry.1 != key) = true := by simpa using gone
      simp only [erase, kept, List.filter_cons_of_pos, get?_cons, ih]
      by_cases same : entry.1 = other
      · have away : key ≠ other := fun e => gone (same.trans e.symm)
        simp [same, away]
      · simp [same]

end Keyed

/-- The elements of a list without repetitions, in the order of their first occurrence. -/
def firsts {α : Type} [BEq α] (items : List α) : List α :=
  items.foldl (fun seen item => if seen.contains item then seen else seen ++ [item]) []

section

variable {α : Type} [BEq α] [LawfulBEq α]

theorem foldl_firsts (items seen : List α) (h : seen.Nodup) :
    let result := items.foldl (fun seen item => if seen.contains item then seen else seen ++ [item]) seen
    result.Nodup ∧ ∀ item, item ∈ result ↔ item ∈ seen ∨ item ∈ items := by
  induction items generalizing seen with
  | nil => simp [h]
  | cons first rest ih =>
    simp only [List.foldl_cons, List.contains_eq_mem, decide_eq_true_eq]
    by_cases known : first ∈ seen
    · have step := ih seen h
      simp only [List.contains_eq_mem, decide_eq_true_eq] at step
      simp only [known, if_true]
      refine ⟨step.1, fun item => ?_⟩
      rw [step.2, List.mem_cons]
      grind
    · have fresh : (seen ++ [first]).Nodup := by
        rw [List.nodup_append]
        refine ⟨h, by simp, ?_⟩
        intro a ha b hb e
        rw [List.mem_singleton.mp hb] at e
        exact known (e ▸ ha)
      have step := ih (seen ++ [first]) fresh
      simp only [List.contains_eq_mem, decide_eq_true_eq] at step
      simp only [known, if_false]
      refine ⟨step.1, fun item => ?_⟩
      rw [step.2, List.mem_append, List.mem_singleton, List.mem_cons, or_assoc]

theorem nodup_firsts (items : List α) : (firsts items).Nodup := (foldl_firsts items [] List.nodup_nil).1

@[simp] theorem mem_firsts (items : List α) (item : α) : item ∈ firsts items ↔ item ∈ items := by
  rw [firsts, (foldl_firsts items [] List.nodup_nil).2 item]
  simp

end

end FixFirst
