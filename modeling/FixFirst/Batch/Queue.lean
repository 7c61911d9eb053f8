import FixFirst.Disk

/-!
# The queue of a batched run

Files wait in a queue, the ones that must not be left out first.  Each round cuts some files
off its front.  While memory is scarce, of these only the critical files are taken; the others
go to the end of the queue, or are left out when they were put off often enough or time is
nearly up.

## Main definitions

* `order` — files with their priorities, critical ones first.
* `cut` — one round; `weight_cut_lt` says that rounds cannot go on for ever.
-/

namespace FixFirst

/-- Whether a file may be left out. -/
inductive Priority where
  | critical
  | deferrable
  deriving DecidableEq, Repr

/-- The name of a priority. -/
def Priority.name : Priority → String
  | critical => "critical"
  | deferrable => "deferrable"

/-- A file with its priority. -/
structure Ranked where
  file : String
  priority : Priority
  deriving DecidableEq, Repr

/-- The priority of files: critical if at least one of them is. -/
def Priority.ofFiles (files : List Ranked) : Priority :=
  if files.any fun ranked => ranked.priority == .critical then .critical else .deferrable

/-- Files with their priorities, critical ones first; all are critical when nothing is said. -/
def rank (files : List String) : Option (List String) → List Ranked
  | none => files.map fun file => ⟨file, .critical⟩
  | some critical =>
    (files.filter fun file => critical.contains file).map (⟨·, .critical⟩) ++
      (files.filter fun file => !critical.contains file).map (⟨·, .deferrable⟩)

/-- Normalised files, each once, with their priorities, critical ones first. -/
def order (disk : Disk) (files : List String) (critical : Option (List String)) : Except Fault (List Ranked) := do
  let files ← disk.normalizeAll files
  match critical with
  | none => return rank files none
  | some marked => return rank files (some (← disk.normalizeAll marked))

/-- A file in the queue, and how often it was put off. -/
structure Queued where
  ranked : Ranked
  deferrals : Nat
  deriving DecidableEq, Repr

namespace Queued

/-- How many rounds a file can take part in when it is put off at most `limit` times. -/
def weight (limit : Nat) (queued : Queued) : Nat := limit - queued.deferrals + 1

/-- The weight of a queue. -/
def total (limit : Nat) : List Queued → Nat
  | [] => 0
  | queued :: queue => queued.weight limit + total limit queue

@[simp] theorem total_nil (limit : Nat) : total limit [] = 0 := rfl

@[simp] theorem total_cons (limit : Nat) (queued : Queued) (queue : List Queued) :
    total limit (queued :: queue) = queued.weight limit + total limit queue := rfl

@[simp] theorem total_append (limit : Nat) (first second : List Queued) :
    total limit (first ++ second) = total limit first + total limit second := by
  induction first with
  | nil => simp
  | cons queued rest ih => simp only [List.cons_append, total_cons, ih, Nat.add_assoc]

/-- Whether a file is critical. -/
def isCritical (queued : Queued) : Bool := queued.ranked.priority == .critical

/-- Whether a file is put off when memory is scarce. -/
def isPutOff (limit : Nat) (imminent : Bool) (queued : Queued) : Bool :=
  !queued.isCritical && !imminent && queued.deferrals < limit

/-- Whether a file is left out when memory is scarce. -/
def isLeftOut (limit : Nat) (imminent : Bool) (queued : Queued) : Bool :=
  !queued.isCritical && (imminent || limit ≤ queued.deferrals)

/-- A file that was put off once more. -/
def putOff (queued : Queued) : Queued := { queued with deferrals := queued.deferrals + 1 }

theorem total_putOff_le (limit : Nat) (imminent : Bool) (taken : List Queued) :
    total limit ((taken.filter (isPutOff limit imminent)).map putOff) + (taken.filter (isPutOff limit imminent)).length
      ≤ total limit taken := by
  induction taken with
  | nil => simp
  | cons queued rest ih =>
    by_cases h : queued.isPutOff limit imminent = true
    · have room : queued.deferrals < limit := by
        simp only [isPutOff, Bool.and_eq_true, decide_eq_true_eq] at h
        exact h.2
      simp only [List.filter_cons_of_pos h, List.map_cons, total_cons, List.length_cons, weight, putOff]
      omega
    · simp only [List.filter_cons_of_neg h, total_cons]
      omega

theorem total_putOff_lt (limit : Nat) (imminent : Bool) (taken : List Queued) (h : taken ≠ []) :
    total limit ((taken.filter (isPutOff limit imminent)).map putOff) < total limit taken := by
  cases taken with
  | nil => exact absurd rfl h
  | cons queued rest =>
    have rest_le := total_putOff_le limit imminent rest
    by_cases hp : queued.isPutOff limit imminent = true
    · have room : queued.deferrals < limit := by
        simp only [isPutOff, Bool.and_eq_true, decide_eq_true_eq] at hp
        exact hp.2
      simp only [List.filter_cons_of_pos hp, List.map_cons, total_cons, weight, putOff]
      omega
    · simp only [List.filter_cons_of_neg hp, total_cons, weight]
      omega

end Queued

/-- What a round does with a queue. -/
structure Cut where
  /-- The files to be worked on. -/
  taken : List Ranked
  /-- The files that are left out. -/
  omitted : List String
  /-- How many files were put off. -/
  deferrals : Nat
  /-- The queue of the next round. -/
  rest : List Queued
  deriving Repr

/-- One round: at least one file comes off the front of the queue. -/
def cut (limit : Nat) (scarce imminent : Bool) (size : Nat) (queue : List Queued) : Cut :=
  let front := queue.take (max 1 size)
  let back := queue.drop (max 1 size)
  if scarce then
    let again := front.filter (Queued.isPutOff limit imminent)
    ⟨(front.filter Queued.isCritical).map (·.ranked),
      (front.filter (Queued.isLeftOut limit imminent)).map (·.ranked.file),
      again.length, back ++ again.map Queued.putOff⟩
  else ⟨front.map (·.ranked), [], 0, back⟩

/-- A round makes the queue lighter, so there are no more rounds than its weight. -/
theorem weight_cut_lt (limit : Nat) (scarce imminent : Bool) (size : Nat) (queue : List Queued)
    (h : queue ≠ []) :
    Queued.total limit (cut limit scarce imminent size queue).rest < Queued.total limit queue := by
  have split : Queued.total limit queue =
      Queued.total limit (queue.take (max 1 size)) + Queued.total limit (queue.drop (max 1 size)) := by
    rw [← Queued.total_append, List.take_append_drop]
  have front : queue.take (max 1 size) ≠ [] := by
    cases queue with
    | nil => exact absurd rfl h
    | cons queued rest =>
      obtain ⟨n, hn⟩ : ∃ n, max 1 size = n + 1 := ⟨max 1 size - 1, by omega⟩
      simp [hn]
  have lighter := Queued.total_putOff_lt limit imminent (queue.take (max 1 size)) front
  unfold cut
  cases scarce
  · simp only [Bool.false_eq_true, ↓reduceIte]
    omega
  · simp only [↓reduceIte, Queued.total_append]
    omega

end FixFirst
