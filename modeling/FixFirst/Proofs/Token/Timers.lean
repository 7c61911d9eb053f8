import Mathlib
import FixFirst.Proofs.Token.Calm
import FixFirst.Proofs.Token.Operation

/-!
# Timers that fire

Where no observer is registered, a cancellation changes the tokens that links lead to and nothing else.
So a timer that fires changes its token and what is linked to that, and when time passes, no other tokens
change than those that are linked to one whose timer is due.

## Main definitions

* `Forest.Regular` — a forest without observers, in which no token outlasts the one it was made below.
* `Clockwork.Fired` — what the firing of some timers does.

## Main statements

* `Forest.Regular.add`, `Forest.Regular.cancel`, `Forest.Regular.detach` — what keeps a forest regular.
* `Clockwork.fired_fireEach`, `Clockwork.fired_advance` — timers that fire one after the other, and as
  time passes.
-/

namespace FixFirst

open Relation

variable {τ : Type}

namespace Forest

/-! ### Cancellations without observers -/

/-- Whether no observer is registered. -/
def Unobserved (forest : Forest τ) : Prop :=
  ∀ number token observer, forest.token? number = some token → .observer observer ∉ token.listeners

theorem Unobserved.of_later {before after : Forest τ} (h : before.Unobserved) (hlater : before.Later after) :
    after.Unobserved := by
  intro number token observer hfound hin
  obtain ⟨old, hold, htoken⟩ := hlater.exists_before hfound
  exact h number old observer hold (htoken.listeners _ hin)

theorem Unobserved.answering {forest : Forest τ} (h : forest.Unobserved) : forest.Answering :=
  fun number token hfound observer hin => absurd hin (h number token observer hfound)

theorem Unobserved.passive {forest : Forest τ} (h : forest.Unobserved) (start : Nat) : forest.Passive start :=
  fun number token observer _ hfound hin => absurd hin (h number token observer hfound)

theorem Unobserved.grown {forest : Forest τ} (h : forest.Unobserved) {token : Token τ} (hbare : token.listeners = []) :
    (forest.grown token).Unobserved := by
  intro number found observer hfound hin
  rcases token?_grown_cases hfound with ⟨-, rfl⟩ | hold
  · rw [hbare] at hin
    cases hin
  · exact h number found observer hold hin

theorem Unobserved.hung {forest : Forest τ} (h : forest.Unobserved) (above below : Nat) :
    (forest.hung above (.child below)).Unobserved := by
  intro number token observer hfound hin
  obtain ⟨old, hold, -, -, hlisteners⟩ := token?_hung_cases hfound
  rcases hlisteners _ hin with hbefore | ⟨-, heq⟩
  · exact h number old observer hold hbefore
  · cases heq

/-- What links lead to later, they led to before. -/
theorem Reaches.of_later {before after : Forest τ} (hlater : before.Later after) {start number : Nat}
    (hpath : after.Reaches start number) : before.Reaches start number := by
  refine ReflTransGen.mono (fun above below hlink => ?_) _ _ hpath
  obtain ⟨token, hfound, hin⟩ := hlink
  obtain ⟨old, hold, htoken⟩ := hlater.exists_before hfound
  exact ⟨old, hold, htoken.listeners _ hin⟩

/-- Links lead to a token that nothing links to only from itself. -/
theorem eq_of_reaches_loose {forest : Forest τ} {start number : Nat} (hloose : ∀ above, ¬ forest.Below above number)
    (hpath : forest.Reaches start number) : start = number := by
  rcases ReflTransGen.cases_tail hpath with heq | ⟨last, -, hlink⟩
  · exact heq.symm
  · exact absurd hlink (hloose last)

/-- A cancellation changes only what links lead to. -/
theorem token?_cancel {forest : Forest τ} (hbare : forest.Bare) (hunobserved : forest.Unobserved) {start number : Nat}
    (hfar : ¬ forest.Reaches start number) (reason : String) :
    (forest.cancel start reason).token? number = forest.token? number := by
  cases hfound : forest.token? start with
  | none => rw [cancel_none reason hfound]
  | some token =>
      by_cases hactive : token.active = true
      · refine (cancel_spread hbare hfound hactive (hunobserved.passive start) reason).others number ?_ fun hpath => ?_
        · rintro rfl
          exact hfar .refl
        · exact absurd hpath hfar
      · have hnone := hbare start token hfound (Bool.eq_false_iff.mpr hactive)
        rw [cancel_bare reason hfound hnone, if_neg hactive]

/-! ### Regular forests -/

/-- Whether a forest has its shape, without observers, and no token outlasts the one it was made below. -/
structure Regular (forest : Forest Rat) : Prop extends forest.Shaped where
  unobserved : forest.Unobserved
  settled : forest.missed = none
  capped : ∀ number above due, forest.parent? number = some above → forest.deadline? above = some due →
    ∃ own, forest.deadline? number = some own ∧ own ≤ due

variable {forest : Forest Rat}

theorem regular_empty : (Forest.empty : Forest Rat).Regular where
  toShaped := orderly_empty.toShaped
  unobserved number token observer hfound := by cases hfound
  settled := rfl
  capped number above due hparent := by cases hparent

theorem Regular.cancel (h : forest.Regular) (number : Nat) (reason : String) : (forest.cancel number reason).Regular where
  toShaped := h.toShaped.drain _
  unobserved := h.unobserved.of_later (later_drain _ _)
  settled := (missed_cancel h.unobserved.answering number reason).trans h.settled
  capped other above due hparent hdue := by
    have hlater := later_drain forest [.cancel number reason]
    have hparent' : forest.parent? other = some above := (parent?_drain forest _ other).symm.trans hparent
    have hdue' : forest.deadline? above = some due := (hlater.deadline? above).symm.trans hdue
    obtain ⟨own, hown, hle⟩ := h.capped other above due hparent' hdue'
    exact ⟨own, (hlater.deadline? other).trans hown, hle⟩

theorem Regular.detach (h : forest.Regular) (number : Nat) : (forest.detach number).Regular where
  toShaped := by
    have hvalid : Operation.Valid forest (.detach number) := trivial
    exact h.toShaped.operation hvalid
  unobserved := h.unobserved.of_later (Clockwork.later_detach forest number)
  settled := (Clockwork.missed_detach forest number).trans h.settled
  capped other above due hparent hdue := by
    have hparent' : forest.parent? other = some above := by
      cases hover : forest.parent? number with
      | none =>
          rw [detach_of_root hover] at hparent
          exact hparent
      | some place =>
          rw [detach_of_child hover, parent?_relistened] at hparent
          exact hparent
    have hdue' : forest.deadline? above = some due := ((Clockwork.later_detach forest number).deadline? above).symm.trans hdue
    obtain ⟨own, hown, hle⟩ := h.capped other above due hparent' hdue'
    exact ⟨own, ((Clockwork.later_detach forest number).deadline? other).trans hown, hle⟩

theorem Regular.grown (h : forest.Regular) {token : Token Rat} (hbare : token.listeners = [])
    (hparent : ∀ above, token.parent = some above → above < forest.tokens.length ∧
      ∀ due, forest.deadline? above = some due → ∃ own, token.deadline = some own ∧ own ≤ due) :
    (forest.grown token).Regular where
  toShaped := h.toShaped.grown hbare fun above heq => (hparent above heq).1
  unobserved := h.unobserved.grown hbare
  settled := h.settled
  capped number above due habove hdue := by
    have hgrown : ∀ other, other < forest.tokens.length →
        (forest.grown token).deadline? other = forest.deadline? other := by
      intro other hlt
      unfold deadline?
      rw [token?_grown, if_neg (Nat.ne_of_lt hlt)]
    rw [parent?_grown] at habove
    split at habove
    · rename_i hlast
      obtain ⟨hlt, hcapped⟩ := hparent above habove
      obtain ⟨own, hown, hle⟩ := hcapped due ((hgrown above hlt).symm.trans hdue)
      refine ⟨own, ?_, hle⟩
      unfold deadline?
      rw [token?_grown, if_pos hlast]
      exact hown
    · have hhere : number < forest.tokens.length := by
        unfold parent? at habove
        cases hfound : forest.token? number with
        | none =>
            rw [hfound] at habove
            cases habove
        | some old => exact (List.getElem?_eq_some_iff.mp hfound).1
      have habove' := h.parents number above habove
      rw [hgrown above (Nat.lt_trans habove' hhere)] at hdue
      rw [hgrown number hhere]
      exact h.capped number above due habove hdue

/-- What a new token hangs below, it is cancelled with, at once if that is cancelled already. -/
theorem Regular.listen (h : forest.Regular) {above below : Nat} (hparent : forest.parent? below = some above) :
    (forest.listen above (.child below)).Regular := by
  cases hreason : forest.reason? above with
  | some reason =>
      rw [listen_of_cancelled hreason]
      exact h.cancel below _
  | none =>
      refine ⟨h.toShaped.listen fun other heq => ?_, ?_, ?_, fun number place due hplace hdue => ?_⟩
      · cases heq
        exact hparent
      · rw [listen_of_active hreason]
        exact h.unobserved.hung above below
      · rw [listen_of_active hreason]
        exact h.settled
      · rw [listen_eq_relistened hreason, parent?_relistened] at hplace
        rw [deadline?_listen] at hdue ⊢
        exact h.capped number place due hplace hdue

theorem least_le (own other : Rat) : Quantity.least own other ≤ other := by
  unfold Quantity.least
  split
  · exact le_refl _
  · rename_i hle
    exact not_lt.mp hle

theorem Regular.add (h : forest.Regular) {parent : Option Nat} (hparent : ∀ above ∈ parent, above < forest.tokens.length)
    (deadline : Option Rat) : (forest.add parent deadline).2.Regular := by
  cases parent with
  | none => exact h.grown rfl fun above heq => by cases heq
  | some above =>
      rw [add_child_eq]
      refine Regular.listen ?_ (forest.parent?_planted above deadline)
      refine h.grown rfl fun other heq => ?_
      cases heq
      refine ⟨hparent above rfl, fun due hdue => ?_⟩
      simp only [hdue]
      cases deadline with
      | none => exact ⟨due, rfl, le_refl _⟩
      | some own => exact ⟨_, rfl, least_le own due⟩

/-- Nothing links to a token that was detached. -/
theorem not_below_detach (h : forest.Shaped) (above number : Nat) : ¬ (forest.detach number).Below above number := by
  rintro ⟨token, hfound, hin⟩
  obtain ⟨old, hold, htoken⟩ := (Clockwork.later_detach forest number).exists_before hfound
  have hparent := h.links above number ⟨old, hold, htoken.listeners _ hin⟩
  rw [detach_of_child hparent, token?_relistened, if_pos rfl, hold] at hfound
  obtain rfl := Option.some.inj hfound
  simp at hin

end Forest

namespace Clockwork

open Forest

/-! ### Timers that fire -/

/-- What the firing of some timers does: these are gone, their tokens are cancelled, and no token changes
that links do not lead to from theirs. -/
structure Fired (timers : List (Timer Rat)) (before after : Clockwork Rat) : Prop where
  regular : after.forest.Regular
  later : before.forest.Later after.forest
  now : after.now = before.now
  live : after.timers = before.timers.filter fun timer => timers.all fun fired => timer.token != fired.token
  ended : ∀ timer ∈ timers, (before.forest.token? timer.token).isSome = true →
    after.forest.isCancelled timer.token = true
  others : ∀ number, (∀ timer ∈ timers, ¬ before.forest.Reaches timer.token number) →
    after.forest.token? number = before.forest.token? number

theorem fired_fireEach {clock : Clockwork Rat} (h : clock.forest.Regular) (timers : List (Timer Rat)) :
    Fired timers clock (fireEach timers clock) := by
  induction timers generalizing clock with
  | nil =>
      refine ⟨h, Later.refl _, rfl, ?_, fun timer hin => (by cases hin), fun number _ => rfl⟩
      simp [fireEach]
  | cons timer rest ih =>
      have hfree : clock.isStuck = false := by
        unfold isStuck
        rw [h.settled]
        rfl
      unfold fireEach
      rw [hfree, if_neg Bool.false_ne_true]
      have hlater := later_drain clock.forest [.cancel timer.token "timeout"]
      have hnext : ({ clock with timers := clock.timers.filter fun other => other.token != timer.token }.cancel
          timer.token "timeout").forest.Regular := h.cancel timer.token "timeout"
      have hrest := ih hnext
      refine ⟨hrest.regular, hlater.trans hrest.later, hrest.now, ?_, fun other hin hhere => ?_, fun number hfar => ?_⟩
      · rw [hrest.live]
        show (clock.timers.filter fun other => other.token != timer.token).filter _ = _
        rw [List.filter_filter]
        refine List.filter_congr fun other _ => ?_
        rw [List.all_cons, Bool.and_comm]
      · rcases List.mem_cons.mp hin with rfl | hin
        · exact hrest.later.isCancelled (isCancelled_cancel h.unobserved.answering "timeout" hhere)
        · exact hrest.ended other hin (hlater.here hhere)
      · have hfirst := token?_cancel h.bare h.unobserved (hfar timer List.mem_cons_self) "timeout"
        refine (hrest.others number fun other hin hpath => ?_).trans hfirst
        exact hfar other (List.mem_cons_of_mem _ hin) (hpath.of_later hlater)

/-- The timers that are due when the clock has moved on. -/
def ready (clock : Clockwork Rat) (seconds : Rat) : List (Timer Rat) :=
  (clock.timers.filter fun timer => timer.due ≤ clock.now + seconds).mergeSort fun a b => a.due ≤ b.due

theorem mem_ready {clock : Clockwork Rat} {seconds : Rat} {timer : Timer Rat} :
    timer ∈ clock.ready seconds ↔ timer ∈ clock.timers ∧ timer.due ≤ clock.now + seconds := by
  unfold ready
  rw [List.mem_mergeSort, List.mem_filter, decide_eq_true_iff]

theorem fired_advance {clock : Clockwork Rat} (h : clock.forest.Regular) (seconds : Rat) :
    Fired (clock.ready seconds) { clock with now := clock.now + seconds } (clock.advance seconds) := by
  have hmoved : ({ clock with now := clock.now + seconds } : Clockwork Rat).forest.Regular := h
  exact fired_fireEach hmoved _

/-- A token that links do not lead to from one with a timer is not changed when time passes. -/
theorem token?_advance {clock : Clockwork Rat} (h : clock.forest.Regular) {seconds : Rat} {number : Nat}
    (hfar : ∀ timer ∈ clock.timers, timer.due ≤ clock.now + seconds → ¬ clock.forest.Reaches timer.token number) :
    (clock.advance seconds).forest.token? number = clock.forest.token? number :=
  (fired_advance h seconds).others number fun timer hin =>
    hfar timer (mem_ready.mp hin).1 (mem_ready.mp hin).2

end Clockwork

end FixFirst
