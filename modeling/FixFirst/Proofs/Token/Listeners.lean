import FixFirst.Proofs.Token.Growth
import FixFirst.Proofs.Token.Reach

/-!
# What becomes of a listener

A listener waits at an active token until it is dropped or the token is cancelled; it acts then,
once.  For a token that hangs below another one this means that it is cancelled with the other one,
and for an observer that what it was told and what it is still to be told add up.

The statements are about the three ways in which a forest changes: a token is added, the listeners
of one token change, or work is done.

## Main definitions

* `Forest.relistened` — other listeners to one token.
* `Forest.Linked` — a token hangs below another one, or is cancelled.
* `Forest.Owed` — how often an observer of a token was told and is to be told.

## Main statements

* `Forest.Linked.drain`, `Forest.Owed.drain` — work keeps both, if all observers come back.
-/

namespace FixFirst

variable {τ : Type}

namespace Forest

/-! ### The token above another one -/

/-- The token below which a token was made. -/
def parent? (forest : Forest τ) (number : Nat) : Option Nat := forest.token? number >>= Token.parent

theorem parent?_modify {forest : Forest τ} {f : Token τ → Token τ} (hf : ∀ token, (f token).parent = token.parent)
    (above number : Nat) :
    ({ forest with tokens := forest.tokens.modify above f } : Forest τ).parent? number = forest.parent? number := by
  unfold parent?
  rw [token?_modify]
  split
  · cases forest.token? number with
    | none => rfl
    | some token => exact hf token
  · rfl

theorem parent?_grown (forest : Forest τ) (token : Token τ) (number : Nat) :
    (forest.grown token).parent? number =
      if number = forest.tokens.length then token.parent else forest.parent? number := by
  unfold parent?
  rw [token?_grown]
  split <;> rfl

/-- Work leaves every token below the one it was made below. -/
theorem parent?_drain (forest : Forest τ) (works : List Work) (number : Nat) :
    (forest.drain works).parent? number = forest.parent? number := by
  fun_induction Forest.drain forest works with
  | case1 forest => rfl
  | case2 forest other reason rest hnone ih => exact ih
  | case3 forest other reason rest token hfound hactive hless ih =>
      exact ih.trans (parent?_modify (by intro token; rfl) other number)
  | case4 forest other reason rest token hfound hdone ih => exact ih
  | case5 forest observer reason rest name herror => rfl
  | case6 forest observer reason rest next hnext hless ih => exact ih

theorem observers_drain (forest : Forest τ) (works : List Work) :
    (forest.drain works).observers = forest.observers := by
  fun_induction Forest.drain forest works with
  | case1 forest => rfl
  | case2 forest other reason rest hnone ih => exact ih
  | case3 forest other reason rest token hfound hactive hless ih => exact ih
  | case4 forest other reason rest token hfound hdone ih => exact ih
  | case5 forest observer reason rest name herror => rfl
  | case6 forest observer reason rest next hnext hless ih => exact ih

theorem Bare.drain {forest : Forest τ} (h : forest.Bare) (works : List Work) : (forest.drain works).Bare := by
  fun_induction Forest.drain forest works with
  | case1 forest => exact h
  | case2 forest number reason rest hnone ih => exact ih h
  | case3 forest number reason rest token hfound hactive hless ih => exact ih (h.mark number reason)
  | case4 forest number reason rest token hfound hdone ih => exact ih h
  | case5 forest observer reason rest name herror => exact h
  | case6 forest observer reason rest next hnext hless ih => exact ih h

/-! ### Other listeners to one token -/

/-- The forest in which the listeners to one token are others. -/
def relistened (forest : Forest τ) (number : Nat) (f : List Listener → List Listener) : Forest τ :=
  { forest with tokens := forest.tokens.modify number fun token => { token with listeners := f token.listeners } }

theorem token?_relistened (forest : Forest τ) (number other : Nat) (f : List Listener → List Listener) :
    (forest.relistened number f).token? other =
      if number = other then (forest.token? other).map fun token => { token with listeners := f token.listeners }
      else forest.token? other :=
  token?_modify forest number other _

/-- A token of the forest with other listeners is the one listened to, or as it was. -/
theorem token?_relistened_cases {forest : Forest τ} {number other : Nat} {f : List Listener → List Listener}
    {token : Token τ} (h : (forest.relistened number f).token? other = some token) :
    ∃ old, forest.token? other = some old ∧ token.reason = old.reason ∧
      token.listeners = if number = other then f old.listeners else old.listeners := by
  rw [token?_relistened] at h
  split at h
  · rename_i hsame
    obtain ⟨old, hold, rfl⟩ := Option.map_eq_some_iff.mp h
    exact ⟨old, hold, rfl, by rw [if_pos hsame]⟩
  · rename_i hne
    exact ⟨token, h, rfl, by rw [if_neg hne]⟩

theorem reason?_relistened (forest : Forest τ) (number other : Nat) (f : List Listener → List Listener) :
    (forest.relistened number f).reason? other = forest.reason? other :=
  reason?_modify (by intro token; rfl) number other

theorem isCancelled_relistened (forest : Forest τ) (number other : Nat) (f : List Listener → List Listener) :
    (forest.relistened number f).isCancelled other = forest.isCancelled other :=
  congrArg Option.isSome (forest.reason?_relistened number other f)

theorem isCancelled_grown (forest : Forest τ) {token : Token τ} (hactive : token.reason = none) (number : Nat) :
    (forest.grown token).isCancelled number = forest.isCancelled number :=
  congrArg Option.isSome (forest.reason?_grown hactive number)

theorem parent?_relistened (forest : Forest τ) (number other : Nat) (f : List Listener → List Listener) :
    (forest.relistened number f).parent? other = forest.parent? other :=
  parent?_modify (by intro token; rfl) number other

theorem below_relistened_cases {forest : Forest τ} {number above below : Nat} {f : List Listener → List Listener}
    (h : (forest.relistened number f).Below above below) :
    forest.Below above below ∨
      (above = number ∧ ∃ token, forest.token? number = some token ∧ .child below ∈ f token.listeners) := by
  obtain ⟨token, hfound, hin⟩ := h
  obtain ⟨old, hold, -, hlisteners⟩ := token?_relistened_cases hfound
  rw [hlisteners] at hin
  split at hin
  · rename_i hsame
    subst hsame
    exact Or.inr ⟨rfl, old, hold, hin⟩
  · exact Or.inl ⟨old, hold, hin⟩

/-- A link that other listeners leave alone is still there. -/
theorem Below.relistened {forest : Forest τ} {number above below : Nat} {f : List Listener → List Listener}
    (h : forest.Below above below)
    (hf : number = above → ∀ listeners, .child below ∈ listeners → .child below ∈ f listeners) :
    (forest.relistened number f).Below above below := by
  obtain ⟨token, hfound, hin⟩ := h
  by_cases hsame : number = above
  · refine ⟨{ token with listeners := f token.listeners }, ?_, hf hsame _ hin⟩
    rw [token?_relistened, if_pos hsame, hfound]
    rfl
  · refine ⟨token, ?_, hin⟩
    rw [token?_relistened, if_neg hsame, hfound]

theorem below_grown {forest : Forest τ} {token : Token τ} (hbare : token.listeners = []) {above below : Nat} :
    (forest.grown token).Below above below ↔ forest.Below above below := by
  constructor
  · rintro ⟨known, hfound, hin⟩
    rcases token?_grown_cases hfound with ⟨-, rfl⟩ | hold
    · rw [hbare] at hin
      cases hin
    · exact ⟨known, hold, hin⟩
  · rintro ⟨known, hfound, hin⟩
    refine ⟨known, ?_, hin⟩
    have hlt : above < forest.tokens.length := (List.getElem?_eq_some_iff.mp hfound).1
    rw [token?_grown, if_neg (Nat.ne_of_lt hlt)]
    exact hfound

theorem Bare.relistened {forest : Forest τ} (h : forest.Bare) {number : Nat} {f : List Listener → List Listener}
    (hf : f [] = [] ∨ forest.isCancelled number = false) : (forest.relistened number f).Bare := by
  intro other token hfound hdone
  obtain ⟨old, hold, hreason, hlisteners⟩ := token?_relistened_cases hfound
  have hgone : old.active = false := by
    unfold Token.active at hdone ⊢
    rw [← hreason]
    exact hdone
  rw [hlisteners, h other old hold hgone]
  split
  · rename_i hsame
    subst hsame
    rcases hf with hnil | hopen
    · exact hnil
    · rw [isCancelled_of_gone hold hgone] at hopen
      cases hopen
  · rfl

theorem Bare.grown {forest : Forest τ} (h : forest.Bare) {token : Token τ} (hbare : token.listeners = []) :
    (forest.grown token).Bare := by
  intro number known hfound hdone
  rcases token?_grown_cases hfound with ⟨-, rfl⟩ | hold
  · exact hbare
  · exact h number known hold hdone

/-! ### Tokens below a token -/

/-- Whether a token is cancelled, or hangs below an active token. -/
def Linked (forest : Forest τ) (above below : Nat) : Prop :=
  forest.isCancelled below = true ∨ (forest.isCancelled above = false ∧ forest.Below above below)

/-- What is linked to a cancelled token is cancelled. -/
theorem Linked.cancelled {forest : Forest τ} {above below : Nat} (h : forest.Linked above below)
    (hdone : forest.isCancelled above = true) : forest.isCancelled below = true := by
  rcases h with hbelow | ⟨hopen, -⟩
  · exact hbelow
  · rw [hdone] at hopen
    cases hopen

/-- While a cancelled token is not yet done with, what hung below it is among what is to be cancelled. -/
theorem linked_drain_of_pending {forest : Forest τ} {works : List Work} {above below : Nat}
    (hhere : (forest.token? below).isSome = true)
    (h : forest.Linked above below ∨ ∃ reason, .cancel below reason ∈ works)
    (hback : (forest.drain works).missed = none) : (forest.drain works).Linked above below := by
  fun_induction Forest.drain forest works with
  | case1 forest =>
      rcases h with hlinked | ⟨reason, hin⟩
      · exact hlinked
      · cases hin
  | case2 forest number reason rest hnone ih =>
      refine ih hhere (h.imp_right ?_) hback
      rintro ⟨why, hin⟩
      rcases List.mem_cons.mp hin with heq | hrest
      · cases heq
        rw [hnone] at hhere
        cases hhere
      · exact ⟨why, hrest⟩
  | case3 forest number reason rest token hfound hactive hless ih =>
      have hlater := later_mark reason hfound hactive
      by_cases hsame : below = number
      · subst hsame
        exact Or.inl ((later_drain _ _).isCancelled (isCancelled_mark reason hfound))
      · refine ih (hlater.here hhere) ?_ hback
        rcases h with (hdone | ⟨hopen, hlink⟩) | ⟨why, hin⟩
        · exact Or.inl (Or.inl (hlater.isCancelled hdone))
        · by_cases hup : above = number
          · subst hup
            obtain ⟨known, hknown, hlistener⟩ := hlink
            rw [hfound] at hknown
            cases hknown
            exact Or.inr ⟨_, List.mem_append_left _ (mem_works_child.mpr ⟨rfl, hlistener⟩)⟩
          · refine Or.inl (Or.inr ⟨?_, (below_mark reason).mpr ⟨hup, hlink⟩⟩)
            rw [isCancelled_mark_of_ne forest reason hup]
            exact hopen
        · rcases List.mem_cons.mp hin with heq | hrest
          · cases heq
            exact absurd rfl hsame
          · exact Or.inr ⟨why, List.mem_append_right _ hrest⟩
  | case4 forest number reason rest token hfound hdone ih =>
      refine ih hhere ?_ hback
      rcases h with hlinked | ⟨why, hin⟩
      · exact Or.inl hlinked
      · rcases List.mem_cons.mp hin with heq | hrest
        · cases heq
          exact Or.inl (Or.inl (isCancelled_of_gone hfound (Bool.eq_false_iff.mpr hdone)))
        · exact Or.inr ⟨why, hrest⟩
  | case5 forest observer reason rest name herror => cases hback
  | case6 forest observer reason rest next hnext hless ih =>
      refine ih hhere (h.imp_right ?_) hback
      rintro ⟨why, hin⟩
      rcases List.mem_cons.mp hin with heq | hrest
      · cases heq
      · exact ⟨why, List.mem_append_right _ hrest⟩

theorem Linked.here {forest : Forest τ} {above below : Nat} (h : forest.Linked above below)
    (hlinks : ∀ below, forest.Below above below → (forest.parent? below).isSome = true) :
    (forest.token? below).isSome = true := by
  rcases h with hdone | ⟨-, hlink⟩
  · unfold isCancelled reason? at hdone
    cases hfound : forest.token? below with
    | none =>
        rw [hfound] at hdone
        cases hdone
    | some token => rfl
  · have hparent := hlinks below hlink
    unfold parent? at hparent
    cases hfound : forest.token? below with
    | none =>
        rw [hfound] at hparent
        cases hparent
    | some token => rfl

theorem Linked.grown {forest : Forest τ} {above below : Nat} (h : forest.Linked above below) {token : Token τ}
    (hbare : token.listeners = []) (hactive : token.reason = none) : (forest.grown token).Linked above below := by
  unfold Linked at h ⊢
  rw [isCancelled_grown forest hactive, isCancelled_grown forest hactive, below_grown hbare]
  exact h

theorem Linked.relistened {forest : Forest τ} {number above below : Nat} {f : List Listener → List Listener}
    (h : forest.Linked above below)
    (hf : forest.isCancelled above = false → number = above →
      ∀ listeners, .child below ∈ listeners → .child below ∈ f listeners) :
    (forest.relistened number f).Linked above below := by
  unfold Linked at h ⊢
  rw [isCancelled_relistened, isCancelled_relistened]
  exact h.imp_right fun ⟨hopen, hlink⟩ => ⟨hopen, hlink.relistened (hf hopen)⟩

end Forest

/-! ### Observers of a token -/

/-- Whether a listener is the observer with a number. -/
def Listener.hears (id : Nat) : Listener → Bool
  | .observer known => known.id == id
  | .child _ => false

/-- Whether a piece of work tells the observer with a number. -/
def Work.tells (id : Nat) : Work → Bool
  | .notify observer _ => observer.id == id
  | .cancel .. => false

theorem Work.countP_tells_map (id : Nat) (reason : String) (listeners : List Listener) :
    (listeners.map (Work.ofListener reason)).countP (Work.tells id) = listeners.countP (Listener.hears id) := by
  rw [List.countP_map]
  congr 1
  funext listener
  cases listener <;> rfl

theorem Work.countP_tells_consequences {names : Keyed Nat} {observer : Observer} {next : List Work}
    (h : Work.consequences names observer = .ok next) (id : Nat) : next.countP (Work.tells id) = 0 := by
  refine List.countP_eq_zero.mpr fun work hin => ?_
  obtain ⟨name, number, reason, -, rfl⟩ := Work.mem_consequences h hin
  exact Bool.false_ne_true

namespace Forest

/-- How often an observer was told. -/
def told (forest : Forest τ) (id : Nat) : Nat := forest.notices.countP (·.observer == id)

/-- How often an observer is registered at a token. -/
def waiting (forest : Forest τ) (number id : Nat) : Nat :=
  match forest.token? number with
  | some token => token.listeners.countP (Listener.hears id)
  | none => 0

/-- What was told to an observer of a token, and what it is told when the token is cancelled, is `total`.
It is registered nowhere else, it is told nothing before that, and is not registered after it. -/
structure Owed (forest : Forest τ) (works : List Work) (number id total : Nat) : Prop where
  only : ∀ other, other ≠ number → forest.waiting other id = 0
  count : forest.told id + works.countP (Work.tells id) + forest.waiting number id = total
  before : forest.isCancelled number = false → forest.told id + works.countP (Work.tells id) = 0
  after : forest.isCancelled number = true → forest.waiting number id = 0

theorem waiting_of_found {forest : Forest τ} {number : Nat} {token : Token τ}
    (hfound : forest.token? number = some token) (id : Nat) :
    forest.waiting number id = token.listeners.countP (Listener.hears id) := by
  unfold waiting
  rw [hfound]

theorem waiting_mark_self {forest : Forest τ} {number : Nat} {token : Token τ} (reason : String)
    (hfound : forest.token? number = some token) (id : Nat) :
    (forest.mark number reason).waiting number id = 0 := by
  rw [waiting_of_found (token?_mark_self reason hfound)]
  rfl

theorem waiting_mark_of_ne (forest : Forest τ) {number other : Nat} (reason : String) (hne : other ≠ number)
    (id : Nat) : (forest.mark number reason).waiting other id = forest.waiting other id := by
  unfold waiting
  rw [token?_mark_of_ne forest reason hne]

theorem told_note (forest : Forest τ) (observer : Observer) (reason : String) (id : Nat) :
    (forest.note observer reason).told id = forest.told id + if observer.id == id then 1 else 0 := by
  unfold told note
  rw [List.countP_append, List.countP_singleton]

variable {number id total : Nat}

/-- An observer is told once if its token is cancelled, and never otherwise. -/
theorem Owed.told_eq {forest : Forest τ} (h : forest.Owed [] number id 1) :
    forest.told id = if forest.isCancelled number = true then 1 else 0 := by
  have hcount : forest.told id + 0 + forest.waiting number id = 1 := h.count
  cases hcase : forest.isCancelled number with
  | true =>
      have hnone := h.after hcase
      rw [if_pos rfl]
      omega
  | false =>
      have hsilent : forest.told id + 0 = 0 := h.before hcase
      rw [if_neg Bool.false_ne_true]
      omega

/-- Work that tells the observer nothing may be left out. -/
theorem Owed.of_countP {forest : Forest τ} {works others : List Work} (h : forest.Owed works number id total)
    (heq : others.countP (Work.tells id) = works.countP (Work.tells id)) : forest.Owed others number id total where
  only := h.only
  count := heq ▸ h.count
  before := heq ▸ h.before
  after := h.after

/-- A token that is marked hands what is owed to its observers over to the work to do. -/
theorem Owed.mark {forest : Forest τ} {other : Nat} {token : Token τ} {reason : String} {rest : List Work}
    (hfound : forest.token? other = some token) (hactive : token.active = true)
    (h : forest.Owed (.cancel other reason :: rest) number id total) :
    (forest.mark other reason).Owed (token.listeners.map (Work.ofListener reason) ++ rest) number id total := by
  have hpending : (token.listeners.map (Work.ofListener reason) ++ rest).countP (Work.tells id) =
      forest.waiting other id + rest.countP (Work.tells id) := by
    rw [List.countP_append, Work.countP_tells_map, waiting_of_found hfound]
  have hcount : forest.told id + rest.countP (Work.tells id) + forest.waiting number id = total := h.count
  have hbefore : forest.isCancelled number = false → forest.told id + rest.countP (Work.tells id) = 0 := h.before
  have hopen : forest.isCancelled other = false := by
    refine reason?_eq_none_iff.mp ?_
    unfold reason?
    rw [hfound]
    exact Option.isNone_iff_eq_none.mp hactive
  have htold : (forest.mark other reason).told id = forest.told id := rfl
  by_cases hsame : other = number
  · subst hsame
    have hnone := waiting_mark_self reason hfound id
    constructor
    · intro third hne
      rw [waiting_mark_of_ne forest reason hne]
      exact h.only third hne
    · rw [htold, hpending, hnone]
      omega
    · intro hno
      rw [isCancelled_mark reason hfound] at hno
      cases hno
    · intro _
      exact hnone
  · have hzero := h.only other hsame
    have hne : number ≠ other := Ne.symm hsame
    constructor
    · intro third hthird
      by_cases hmarked : third = other
      · subst hmarked
        exact waiting_mark_self reason hfound id
      · rw [waiting_mark_of_ne forest reason hmarked]
        exact h.only third hthird
    · rw [htold, hpending, waiting_mark_of_ne forest reason hne]
      omega
    · rw [isCancelled_mark_of_ne forest reason hne, htold, hpending, hzero, Nat.zero_add]
      exact hbefore
    · rw [isCancelled_mark_of_ne forest reason hne, waiting_mark_of_ne forest reason hne]
      exact h.after

/-- Work settles what is owed, if all observers come back. -/
theorem Owed.drain {forest : Forest τ} {works : List Work} (h : forest.Owed works number id total)
    (hback : (forest.drain works).missed = none) : (forest.drain works).Owed [] number id total := by
  fun_induction Forest.drain forest works with
  | case1 forest => exact h
  | case2 forest other reason rest hnone ih => exact ih (h.of_countP rfl) hback
  | case3 forest other reason rest token hfound hactive hless ih => exact ih (h.mark hfound hactive) hback
  | case4 forest other reason rest token hfound hdone ih => exact ih (h.of_countP rfl) hback
  | case5 forest observer reason rest name herror => cases hback
  | case6 forest observer reason rest next hnext hless ih =>
      -- The notice that was to be given is one that was given.
      have hsum : (forest.note observer reason).told id + (next ++ rest).countP (Work.tells id) =
          forest.told id + (Work.notify observer reason :: rest).countP (Work.tells id) := by
        rw [told_note, List.countP_append, Work.countP_tells_consequences hnext, List.countP_cons]
        have htells : Work.tells id (.notify observer reason) = (observer.id == id) := rfl
        rw [htells]
        omega
      refine ih ⟨h.only, ?_, ?_, h.after⟩ hback
      · rw [hsum]
        exact h.count
      · rw [hsum]
        exact h.before

theorem Owed.grown {forest : Forest τ} {works : List Work} (h : forest.Owed works number id total) {token : Token τ}
    (hbare : token.listeners = []) (hactive : token.reason = none) : (forest.grown token).Owed works number id total := by
  have hwaiting : ∀ other, (forest.grown token).waiting other id = forest.waiting other id := by
    intro other
    unfold waiting
    rw [token?_grown]
    by_cases hlast : other = forest.tokens.length
    · have hnone : forest.token? other = none := List.getElem?_eq_none (Nat.le_of_eq hlast.symm)
      rw [if_pos hlast, hnone]
      simp only [hbare]
      rfl
    · rw [if_neg hlast]
  constructor
  · intro other hne
    rw [hwaiting]
    exact h.only other hne
  · rw [hwaiting]
    exact h.count
  · rw [isCancelled_grown forest hactive]
    exact h.before
  · rw [isCancelled_grown forest hactive, hwaiting]
    exact h.after

theorem waiting_relistened {forest : Forest τ} {place : Nat} {f : List Listener → List Listener}
    (hf : ∀ token, forest.token? place = some token →
      (f token.listeners).countP (Listener.hears id) = token.listeners.countP (Listener.hears id)) (other : Nat) :
    (forest.relistened place f).waiting other id = forest.waiting other id := by
  unfold waiting
  rw [token?_relistened]
  by_cases hsame : place = other
  · subst hsame
    rw [if_pos rfl]
    cases hfound : forest.token? place with
    | none => rfl
    | some token => exact hf token hfound
  · rw [if_neg hsame]

/-- Other listeners that leave an observer where it is leave what is owed to it. -/
theorem Owed.relistened {forest : Forest τ} {works : List Work} (h : forest.Owed works number id total) {place : Nat}
    {f : List Listener → List Listener}
    (hf : ∀ token, forest.token? place = some token →
      (f token.listeners).countP (Listener.hears id) = token.listeners.countP (Listener.hears id)) :
    (forest.relistened place f).Owed works number id total := by
  constructor
  · intro other hne
    rw [waiting_relistened hf]
    exact h.only other hne
  · rw [waiting_relistened hf]
    exact h.count
  · rw [isCancelled_relistened]
    exact h.before
  · rw [isCancelled_relistened, waiting_relistened hf]
    exact h.after

end Forest

end FixFirst
