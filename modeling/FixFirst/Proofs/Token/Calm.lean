import FixFirst.Proofs.Quantity
import FixFirst.Proofs.Token.Growth
import Mathlib.Logic.Relation

/-!
# Tokens while nothing is cancelled

A run has a token, and opens another one below it for each batch.  As long as the token of the
run is active, only its own budget can end a batch, and the token of the run still has time:
on exact times, a timer fires as soon as the clock reaches the deadline of its token.

## Main definitions

* `Clockwork.Sound` — what a clockwork has to be like before a run.
* `Clockwork.Tick` — what may happen to a clockwork while an engine works: time passes, and tokens
  from before the run are cancelled.
* `Clockwork.Steady`, `Clockwork.Calm` — the token `p` is active, it has time, and the tokens beyond
  it are active but for the one at work, which may have timed out.

## Main statements

* `Clockwork.calm_armed`, `Clockwork.calm_phaseToken` — a new token with a deadline is cancelled, or calm.
* `Clockwork.Calm.ticks` — as long as `p` is active, the clockwork stays calm.
* `Clockwork.Calm.scopeToken`, `Clockwork.Calm.release` — a batch begins and ends in calm.
-/

namespace FixFirst

open Relation

namespace Clockwork

section

variable {τ : Type}

/-! ### Sound clockworks -/

/-- Whether all that a clockwork refers to exists.  Then no cancellation gets stuck, and timers fire when
they are due. -/
structure Sound (clock : Clockwork τ) : Prop where
  forest : clock.forest.Sound
  timers : ∀ timer ∈ clock.timers, timer.token < clock.forest.tokens.length

/-! ### Steadiness -/

/-- The token `p` is active, the tokens beyond it hang on it alone, and of these only `own` may have
timed out. -/
structure Steady (p : Nat) (own : Option Nat) (clock : Clockwork τ) : Prop where
  here : (clock.forest.token? p).isSome = true
  active : clock.forest.reason? p = none
  sheltered : clock.forest.Sheltered p
  answering : clock.forest.Answering
  settled : clock.forest.missed = none
  timers : ∀ timer ∈ clock.timers, p < timer.token → own = some timer.token
  beyond : ∀ number, p < number → clock.forest.reason? number = none ∨
    (own = some number ∧ clock.forest.reason? number = some "timeout")

/-- A sound clockwork is steady about its last token while that is active. -/
theorem Sound.steady {clock : Clockwork τ} {p : Nat} (h : clock.Sound) (hlength : clock.forest.tokens.length = p + 1)
    (hactive : clock.forest.reason? p = none) : clock.Steady p none where
  here := by
    unfold Forest.token?
    rw [List.getElem?_eq_getElem (by omega)]
    rfl
  active := hactive
  sheltered := by
    refine ⟨fun name number hname => ?_, fun number token below hfound hin => ?_, fun number token hbeyond hfound => ?_⟩
    · have hlt := h.forest.names name number hname
      omega
    · have hlt := h.forest.links number token below hfound hin
      exact Or.inr (by omega)
    · have hlt := (List.getElem?_eq_some_iff.mp hfound).1
      omega
  answering := h.forest.answering
  settled := h.forest.settled
  timers timer hin hbeyond := by
    have hlt := h.timers timer hin
    omega
  beyond number hbeyond := by
    have hnone : clock.forest.token? number = none := List.getElem?_eq_none (by omega)
    refine Or.inl ?_
    unfold Forest.reason?
    rw [hnone]
    rfl

variable {p : Nat} {own : Option Nat} {clock : Clockwork τ}

/-- After a cancellation that leaves `p` active, the tokens beyond it are as they were, but for the one
that was cancelled. -/
theorem Steady.reason?_cancel (h : clock.Steady p own) {token number : Nat} {reason : String}
    (hactive : (clock.cancel token reason).forest.reason? p = none) (hbeyond : p < number) :
    (clock.cancel token reason).forest.reason? number = clock.forest.reason? number ∨
      (number = token ∧ (clock.cancel token reason).forest.reason? number = some reason) := by
  rcases Nat.lt_or_ge p token with hlt | hle
  · cases hfound : clock.forest.token? token with
    | none =>
        refine Or.inl ?_
        exact congrArg (·.reason? number) (Forest.cancel_none reason hfound)
    | some found =>
        have hcancel := Forest.cancel_bare reason hfound (h.sheltered.bare token found hlt hfound)
        by_cases hopen : found.active = true
        · rw [if_pos hopen] at hcancel
          have hclock : (clock.cancel token reason).forest = clock.forest.mark token reason := hcancel
          rw [hclock]
          by_cases hsame : number = token
          · subst hsame
            exact Or.inr ⟨rfl, Forest.reason?_mark reason hfound⟩
          · refine Or.inl ?_
            unfold Forest.reason?
            rw [Forest.token?_mark, if_neg (Ne.symm hsame)]
        · rw [if_neg hopen] at hcancel
          exact Or.inl (congrArg (·.reason? number) hcancel)
  · refine Or.inl ?_
    have hsame : (clock.forest.cancel token reason).token? number = clock.forest.token? number :=
      Forest.drain_sheltered h.sheltered (fun other why hin => by
        cases List.mem_singleton.mp hin
        exact hle) hactive hbeyond
    exact congrArg (· >>= Token.reason) hsame

/-- A cancellation that leaves `p` active leaves it steady; beyond `p`, only `own` may time out. -/
theorem Steady.cancel (h : clock.Steady p own) {token : Nat} {reason : String}
    (hactive : (clock.cancel token reason).forest.reason? p = none)
    (hreach : p < token → own = some token ∧ reason = "timeout") : (clock.cancel token reason).Steady p own where
  here := (Forest.later_drain clock.forest [.cancel token reason]).here h.here
  active := hactive
  sheltered := h.sheltered.of_later (Forest.later_drain _ _)
  answering := h.answering.of_later (Forest.later_drain _ _)
  settled := (Forest.missed_cancel h.answering token reason).trans h.settled
  timers := h.timers
  beyond number hbeyond := by
    rcases h.reason?_cancel hactive hbeyond with hsame | ⟨rfl, hreason⟩
    · rw [hsame]
      exact h.beyond number hbeyond
    · obtain ⟨hown, rfl⟩ := hreach hbeyond
      exact Or.inr ⟨hown, hreason⟩

/-! ### Timers -/

theorem later_fireEach (timers : List (Timer τ)) (clock : Clockwork τ) :
    clock.forest.Later (fireEach timers clock).forest := by
  induction timers generalizing clock with
  | nil => exact Forest.Later.refl _
  | cons timer rest ih =>
      unfold fireEach
      split
      · exact Forest.Later.refl _
      · refine Forest.Later.trans ?_ (ih _)
        exact Forest.later_drain _ _

theorem now_fireEach (timers : List (Timer τ)) (clock : Clockwork τ) : (fireEach timers clock).now = clock.now := by
  induction timers generalizing clock with
  | nil => rfl
  | cons timer rest ih =>
      unfold fireEach
      split
      · rfl
      · exact ih _

/-- Timers that fire and leave `p` active are not its own, and leave it steady. -/
theorem Steady.fireEach {timers : List (Timer τ)} (h : clock.Steady p own)
    (hreach : ∀ timer ∈ timers, p < timer.token → own = some timer.token)
    (hactive : (fireEach timers clock).forest.reason? p = none) :
    (Clockwork.fireEach timers clock).Steady p own ∧ (∀ timer ∈ timers, timer.token ≠ p) ∧
      ∀ timer ∈ clock.timers, timer.token = p → timer ∈ (Clockwork.fireEach timers clock).timers := by
  induction timers generalizing clock with
  | nil => exact ⟨h, fun timer hin => (by cases hin), fun timer hin _ => hin⟩
  | cons timer rest ih =>
      have hfree : clock.isStuck = false := by
        unfold isStuck
        rw [h.settled]
        rfl
      unfold Clockwork.fireEach at hactive ⊢
      rw [hfree, if_neg Bool.false_ne_true] at hactive ⊢
      have hless : Steady p own { clock with timers := clock.timers.filter fun other => other.token != timer.token } :=
        { h with timers := fun other hin => h.timers other (List.mem_filter.mp hin).1 }
      have hstill := Forest.reason?_eq_none_of_later (later_fireEach rest _) hactive
      have hother : timer.token ≠ p := by
        rintro rfl
        have hcancelled := Forest.isCancelled_cancel h.answering "timeout" h.here
        unfold Forest.isCancelled at hcancelled
        have hnone : (clock.forest.cancel timer.token "timeout").reason? timer.token = none := hstill
        rw [hnone] at hcancelled
        cases hcancelled
      have hnext := hless.cancel hstill fun hlt => ⟨hreach timer List.mem_cons_self hlt, rfl⟩
      obtain ⟨hsteady, hrest, hkept⟩ := ih hnext (fun other hin => hreach other (List.mem_cons_of_mem _ hin)) hactive
      refine ⟨hsteady, ?_, fun other hin hp => ?_⟩
      · intro other hin
        rcases List.mem_cons.mp hin with rfl | hin
        · exact hother
        · exact hrest other hin
      · refine hkept other (List.mem_filter.mpr ⟨hin, ?_⟩) hp
        rw [hp]
        simpa using Ne.symm hother

/-! ### New tokens -/

variable [Quantity τ]

theorem Sound.arm {clock : Clockwork τ} (h : clock.Sound) {token : Nat} (hhere : token < clock.forest.tokens.length) :
    (clock.arm token).Sound := by
  unfold Clockwork.arm
  split
  · exact h
  · split
    · refine ⟨h.forest.cancel token "timeout", fun timer hin => ?_⟩
      have hlength : (clock.cancel token "timeout").forest.tokens.length = clock.forest.tokens.length :=
        (Forest.later_drain _ _).length
      rw [hlength]
      exact h.timers timer hin
    · refine ⟨h.forest, fun timer hin => ?_⟩
      rcases List.mem_append.mp hin with hold | hnew
      · exact h.timers timer hold
      · rw [List.mem_singleton.mp hnew]
        exact hhere

/-- Starting a timer cancels at most its token. -/
theorem later_arm (clock : Clockwork τ) (token : Nat) : clock.forest.Later (clock.arm token).forest := by
  unfold arm
  split
  · exact Forest.Later.refl _
  · split
    · exact Forest.later_drain _ _
    · exact Forest.Later.refl _

theorem fst_armed (clock : Clockwork τ) (parent : Option Nat) (deadline : Option τ) :
    (clock.armed parent deadline).1 = clock.forest.tokens.length :=
  clock.forest.fst_add parent deadline

theorem snd_armed (clock : Clockwork τ) (parent : Option Nat) (deadline : Option τ) :
    (clock.armed parent deadline).2 =
      { clock with forest := (clock.forest.add parent deadline).2 }.arm clock.forest.tokens.length := by
  rw [← clock.forest.fst_add parent deadline]
  rfl

theorem length_armed (clock : Clockwork τ) (parent : Option Nat) (deadline : Option τ) :
    (clock.armed parent deadline).2.forest.tokens.length = clock.forest.tokens.length + 1 := by
  rw [snd_armed, (later_arm _ _).length]
  exact clock.forest.length_add parent deadline

theorem Sound.armed {clock : Clockwork τ} (h : clock.Sound) (parent : Option Nat) (deadline : Option τ) :
    (clock.armed parent deadline).2.Sound := by
  have hlength := clock.forest.length_add parent deadline
  rw [snd_armed]
  refine Sound.arm ⟨h.forest.add parent deadline, fun timer hin => ?_⟩ ?_
  · have hlt := h.timers timer hin
    simp only [hlength]
    omega
  · simp only [hlength]
    omega

theorem deadline?_armed (clock : Clockwork τ) (parent : Option Nat) (deadline : τ) :
    ((clock.armed parent (some deadline)).2.forest.deadline? clock.forest.tokens.length).isSome = true := by
  rw [snd_armed, (later_arm _ _).deadline?]
  exact clock.forest.deadline?_add parent deadline

/-- A token that is added below `p` leaves it steady. -/
theorem Steady.add {clock : Clockwork τ} {p : Nat} (h : clock.Steady p none) (deadline : Option τ) :
    Steady p (some clock.forest.tokens.length)
      { clock with forest := (clock.forest.add (some p) deadline).2 } := by
  obtain ⟨token, hbare, hopen, -, heq⟩ := clock.forest.add_eq (some p) deadline
  have hgrown := clock.forest.reason?_grown hopen
  have hforest : (clock.forest.add (some p) deadline).2 =
      (clock.forest.grown token).hung p (.child clock.forest.tokens.length) := by
    rw [heq]
    exact Forest.listen_of_active ((hgrown p).trans h.active) _
  have hreason : ∀ number, (clock.forest.add (some p) deadline).2.reason? number = clock.forest.reason? number := by
    intro number
    rw [hforest, Forest.reason?_hung, hgrown]
  have hnames : (clock.forest.add (some p) deadline).2.names = clock.forest.names := by
    rw [hforest]
    rfl
  -- A listener of the new forest is an old one, or the new token below `p`.
  have hlisteners : ∀ number found, (clock.forest.add (some p) deadline).2.token? number = some found →
      ∀ listener ∈ found.listeners, (∃ old, clock.forest.token? number = some old ∧ listener ∈ old.listeners) ∨
        (number = p ∧ listener = .child clock.forest.tokens.length) := by
    intro number found hfound listener hin
    rw [hforest] at hfound
    obtain ⟨old, hold, -, -, hall⟩ := Forest.token?_hung_cases hfound
    rcases hall listener hin with hbefore | hnew
    · rcases Forest.token?_grown_cases hold with ⟨-, rfl⟩ | holder
      · rw [hbare] at hbefore
        cases hbefore
      · exact Or.inl ⟨old, holder, hbefore⟩
    · exact Or.inr hnew
  refine ⟨?_, (hreason p).trans h.active, ⟨fun name number hname => ?_, fun number found below hfound hin => ?_,
    fun number found hbeyond hfound => ?_⟩, fun number found hfound observer hin => ?_, ?_, fun timer hin hbeyond => ?_,
    fun number hbeyond => ?_⟩
  · obtain ⟨old, hold⟩ := Option.isSome_iff_exists.mp h.here
    have hlt := (List.getElem?_eq_some_iff.mp hold).1
    have hlength := clock.forest.length_add (some p) deadline
    unfold Forest.token?
    rw [List.getElem?_eq_getElem (by simp only [hlength]; omega)]
    rfl
  · exact h.sheltered.names name number (hnames ▸ hname)
  · rcases hlisteners number found hfound _ hin with ⟨old, hold, hbefore⟩ | ⟨hself, -⟩
    · exact h.sheltered.links number old below hold hbefore
    · exact Or.inl hself
  · refine List.eq_nil_iff_forall_not_mem.mpr fun listener hin => ?_
    rcases hlisteners number found hfound listener hin with ⟨old, hold, hbefore⟩ | ⟨hself, -⟩
    · rw [h.sheltered.bare number old hbeyond hold] at hbefore
      cases hbefore
    · omega
  · rcases hlisteners number found hfound _ hin with ⟨old, hold, hbefore⟩ | ⟨-, hchild⟩
    · exact hnames ▸ h.answering number old hold observer hbefore
    · cases hchild
  · have hmissed : (clock.forest.add (some p) deadline).2.missed = clock.forest.missed := by
      rw [hforest]
      rfl
    exact hmissed.trans h.settled
  · cases h.timers timer hin hbeyond
  · rcases h.beyond number hbeyond with hnone | ⟨hown, -⟩
    · exact Or.inl ((hreason number).trans hnone)
    · cases hown

/-- Starting the timer of a token beyond `p` leaves `p` steady. -/
theorem Steady.arm {clock : Clockwork τ} {p own : Nat} (h : clock.Steady p (some own)) (hbeyond : p < own) :
    (clock.arm own).Steady p (some own) := by
  unfold Clockwork.arm
  split
  · exact h
  · split
    · refine h.cancel ?_ fun _ => ⟨rfl, rfl⟩
      have hsame : (clock.forest.cancel own "timeout").token? p = clock.forest.token? p := by
        cases hfound : clock.forest.token? own with
        | none =>
            rw [Forest.cancel_none _ hfound]
        | some found =>
            rw [Forest.cancel_bare _ hfound (h.sheltered.bare own found hbeyond hfound)]
            split
            · rw [Forest.token?_mark, if_neg (by omega)]
            · rfl
      have hactive := h.active
      unfold Forest.reason? at hactive ⊢
      unfold Clockwork.cancel
      rw [hsame, hactive]
    · refine { h with timers := fun timer hin hlt => ?_ }
      rcases List.mem_append.mp hin with hold | hnew
      · exact h.timers timer hold hlt
      · rw [List.mem_singleton.mp hnew]

end

/-! ### Release -/

section

variable {τ : Type}

theorem later_detach (forest : Forest τ) (number : Nat) : forest.Later (forest.detach number) := by
  unfold Forest.detach
  split
  · exact Forest.Later.refl forest
  · refine ⟨rfl, fun other => ?_⟩
    unfold Forest.dropListeners
    rw [Forest.token?_modify]
    cases forest.token? other with
    | none =>
        rw [Option.map_none, ite_self]
        exact .none
    | some token =>
        split
        · exact .some ⟨rfl, fun _ h => h, fun listener hin => (List.mem_filter.mp hin).1⟩
        · exact .some (Token.Later.refl token)

theorem reason?_detach (forest : Forest τ) (number other : Nat) :
    (forest.detach number).reason? other = forest.reason? other := by
  unfold Forest.detach
  split
  · rfl
  · exact Forest.reason?_modify (by intro token; rfl) _ other

theorem missed_detach (forest : Forest τ) (number : Nat) : (forest.detach number).missed = forest.missed := by
  unfold Forest.detach
  split <;> rfl

/-- Releasing a token leaves `p` steady. -/
theorem Steady.release {clock : Clockwork τ} {p token : Nat} {own : Option Nat} (h : clock.Steady p own) :
    (clock.release token).Steady p own where
  here := (later_detach clock.forest token).here h.here
  active := (reason?_detach clock.forest token p).trans h.active
  sheltered := h.sheltered.of_later (later_detach clock.forest token)
  answering := h.answering.of_later (later_detach clock.forest token)
  settled := (missed_detach clock.forest token).trans h.settled
  timers timer hin := h.timers timer (List.mem_filter.mp hin).1
  beyond number hbeyond := by
    have hsame : (clock.release token).forest.reason? number = clock.forest.reason? number :=
      reason?_detach clock.forest token number
    rw [hsame]
    exact h.beyond number hbeyond

/-- Once the token at work is released and has not timed out, none is at work. -/
theorem Steady.closed {clock : Clockwork τ} {p own : Nat} (h : clock.Steady p (some own))
    (hactive : clock.forest.reason? own = none) : (clock.release own).Steady p none := by
  refine { (h.release : (clock.release own).Steady p (some own)) with timers := ?_, beyond := ?_ }
  · intro timer hin hbeyond
    obtain ⟨hold, hother⟩ := List.mem_filter.mp hin
    cases h.timers timer hold hbeyond
    simp at hother
  · intro number hbeyond
    refine Or.inl ((reason?_detach clock.forest own number).trans ?_)
    rcases h.beyond number hbeyond with hnone | ⟨hown, htimeout⟩
    · exact hnone
    · cases hown
      rw [hactive] at htimeout
      cases htimeout

end

/-! ### Calm -/

/-- Whether a token has time left and a timer at its deadline. -/
def Timely (p : Nat) (clock : Clockwork Rat) : Prop :=
  ∃ due, clock.forest.deadline? p = some due ∧ clock.now < due ∧ ⟨p, due⟩ ∈ clock.timers

/-- The token `p` is steady and has time left. -/
structure Calm (p : Nat) (own : Option Nat) (clock : Clockwork Rat) : Prop extends Steady p own clock where
  timely : clock.Timely p

/-- What may happen to a clockwork while an engine works: time passes, and a token from outside, one of
the first `outer` ones, is cancelled. -/
inductive Tick (outer : Nat) : Clockwork Rat → Clockwork Rat → Prop
  | advance (clock : Clockwork Rat) (seconds : Rat) : Tick outer clock (clock.advance seconds)
  | cancel (clock : Clockwork Rat) {token : Nat} (reason : String) (outside : token < outer) :
      Tick outer clock (clock.cancel token reason)

variable {p outer : Nat} {own : Option Nat} {clock after : Clockwork Rat}

theorem remaining?_eq {due : Rat} (hdue : clock.forest.deadline? p = some due) :
    clock.remaining? p = some (max 0 (due - clock.now)) := by
  unfold remaining?
  rw [hdue, Option.map_some, greatest_zero]

/-- Starting the timer of a token with a deadline cancels the token, or leaves it some time. -/
theorem timely_arm (hanswering : clock.forest.Answering) (hhere : (clock.forest.token? p).isSome = true)
    (hdeadline : (clock.forest.deadline? p).isSome = true) :
    (clock.arm p).forest.isCancelled p = true ∨ (clock.arm p).Timely p := by
  obtain ⟨due, hdue⟩ := Option.isSome_iff_exists.mp hdeadline
  unfold arm
  rw [remaining?_eq hdue]
  simp only
  split
  · exact Or.inl (Forest.isCancelled_cancel hanswering "timeout" hhere)
  · rename_i hsome
    have hpos : 0 < due - clock.now := by
      by_contra hnone
      refine hsome (le_of_eq ?_)
      rw [max_eq_left (not_lt.mp hnone), zero_rat]
    refine Or.inr ⟨due, hdue, sub_pos.mp hpos, List.mem_append_right _ ?_⟩
    rw [max_eq_right (le_of_lt hpos), add_sub_cancel, List.mem_singleton]

/-- A new token with a deadline is cancelled at once, or calm. -/
theorem calm_armed (h : clock.Sound) (parent : Option Nat) (deadline : Rat) :
    (clock.armed parent (some deadline)).2.forest.isCancelled clock.forest.tokens.length = true ∨
      (clock.armed parent (some deadline)).2.Calm clock.forest.tokens.length none := by
  have hlength := clock.length_armed parent (some deadline)
  have hadded := clock.forest.length_add parent (some deadline)
  have htimely : (clock.armed parent (some deadline)).2.forest.isCancelled clock.forest.tokens.length = true ∨
      (clock.armed parent (some deadline)).2.Timely clock.forest.tokens.length := by
    rw [snd_armed]
    refine timely_arm (h.forest.add parent (some deadline)).answering ?_ (clock.forest.deadline?_add parent deadline)
    unfold Forest.token?
    rw [List.getElem?_eq_getElem (by simp only [hadded]; omega)]
    rfl
  cases hreason : (clock.armed parent (some deadline)).2.forest.reason? clock.forest.tokens.length with
  | some reason =>
      refine Or.inl ?_
      unfold Forest.isCancelled
      rw [hreason]
      rfl
  | none =>
      rcases htimely with hcancelled | htimely
      · exact Or.inl hcancelled
      · exact Or.inr ⟨(h.armed parent (some deadline)).steady hlength hreason, htimely⟩

/-- The token of the phases of a run is the second new one, and cancelled at once, or calm. -/
theorem calm_phaseToken (h : clock.Sound) (budget reserve : Rat) (parent : Option Nat) :
    ((clock.runToken (some budget) parent).2.phaseToken (clock.runToken (some budget) parent).1 reserve).1 =
        clock.forest.tokens.length + 1 ∧
      (((clock.runToken (some budget) parent).2.phaseToken (clock.runToken (some budget) parent).1
          reserve).2.forest.isCancelled (clock.forest.tokens.length + 1) = true ∨
        ((clock.runToken (some budget) parent).2.phaseToken (clock.runToken (some budget) parent).1 reserve).2.Calm
          (clock.forest.tokens.length + 1) none) := by
  have hrun : (clock.runToken (some budget) parent).2.Sound := h.armed parent _
  have hlength : (clock.runToken (some budget) parent).2.forest.tokens.length = clock.forest.tokens.length + 1 :=
    clock.length_armed parent _
  have hnumber : (clock.runToken (some budget) parent).1 = clock.forest.tokens.length := clock.fst_armed parent _
  obtain ⟨due, hdue⟩ := Option.isSome_iff_exists.mp (clock.deadline?_armed parent (clock.now + budget))
  have hdue' : (clock.runToken (some budget) parent).2.forest.deadline? clock.forest.tokens.length = some due := hdue
  unfold phaseToken
  rw [hnumber, hdue', Option.map_some, ← hlength]
  exact ⟨fst_armed _ _ _, calm_armed hrun _ _⟩

/-! ### Ticks -/

theorem later_advance (clock : Clockwork Rat) (seconds : Rat) : clock.forest.Later (clock.advance seconds).forest := by
  unfold Clockwork.advance fire
  exact later_fireEach _ { clock with now := clock.now + seconds }

theorem later_tick (h : Tick outer clock after) : clock.forest.Later after.forest := by
  cases h with
  | advance seconds => exact later_advance clock seconds
  | cancel reason outside => exact Forest.later_drain _ _

theorem later_ticks (h : ReflTransGen (Tick outer) clock after) : clock.forest.Later after.forest := by
  induction h with
  | refl => exact Forest.Later.refl _
  | tail _ step ih => exact ih.trans (later_tick step)

/-- When time passes and `p` stays active, it still has time. -/
theorem Calm.advance (h : clock.Calm p own) {seconds : Rat}
    (hactive : (clock.advance seconds).forest.reason? p = none) : (clock.advance seconds).Calm p own := by
  obtain ⟨due, hdue, -, htimer⟩ := h.timely
  have hmoved : Steady p own { clock with now := clock.now + seconds } := { h.toSteady with }
  obtain ⟨hsteady, hothers, hkept⟩ := hmoved.fireEach (fun timer hin => by
    rw [List.mem_mergeSort] at hin
    exact h.timers timer (List.mem_filter.mp hin).1) hactive
  refine ⟨hsteady, due, ?_, ?_, hkept _ htimer rfl⟩
  · exact ((later_advance clock seconds).deadline? p).trans hdue
  · have hnow : (clock.advance seconds).now = clock.now + seconds := now_fireEach _ _
    rw [hnow]
    by_contra hreached
    refine hothers ⟨p, due⟩ ?_ rfl
    rw [List.mem_mergeSort, List.mem_filter]
    exact ⟨htimer, decide_eq_true (not_lt.mp hreached)⟩

theorem Calm.tick (h : clock.Calm p own) (houter : outer ≤ p) (htick : Tick outer clock after)
    (hactive : after.forest.reason? p = none) : after.Calm p own := by
  cases htick with
  | advance seconds => exact h.advance hactive
  | @cancel token reason outside =>
      obtain ⟨due, hdue, hnow, htimer⟩ := h.timely
      refine ⟨h.toSteady.cancel hactive fun hlt => by omega, due, ?_, hnow, htimer⟩
      exact ((later_tick (.cancel clock reason outside)).deadline? p).trans hdue

/-- As long as `p` is active, whatever happens while engines work leaves it calm. -/
theorem Calm.ticks (h : clock.Calm p own) (houter : outer ≤ p) (hticks : ReflTransGen (Tick outer) clock after)
    (hactive : after.forest.reason? p = none) : after.Calm p own := by
  induction hticks with
  | refl => exact h
  | tail _ step ih => exact (ih (Forest.reason?_eq_none_of_later (later_tick step) hactive)).tick houter step hactive

/-! ### Batches -/

theorem Timely.arm (h : clock.Timely p) (token : Nat) : (clock.arm token).Timely p := by
  obtain ⟨due, hdue, hnow, htimer⟩ := h
  refine ⟨due, ((later_arm clock token).deadline? p).trans hdue, ?_⟩
  unfold Clockwork.arm
  split
  · exact ⟨hnow, htimer⟩
  · split
    · exact ⟨hnow, htimer⟩
    · exact ⟨hnow, List.mem_append_left _ htimer⟩

/-- A batch begins: its token is the last one, and `p` stays calm. -/
theorem Calm.scopeToken (h : clock.Calm p none) (budget : Option Rat) :
    (clock.scopeToken p budget).1 = clock.forest.tokens.length ∧ p < clock.forest.tokens.length ∧
      (clock.scopeToken p budget).2.Calm p (some clock.forest.tokens.length) := by
  obtain ⟨old, hold⟩ := Option.isSome_iff_exists.mp h.here
  have hlt : p < clock.forest.tokens.length := (List.getElem?_eq_some_iff.mp hold).1
  obtain ⟨due, hdue, hnow, htimer⟩ := h.timely
  refine ⟨clock.fst_armed _ _, hlt, ?_⟩
  unfold Clockwork.scopeToken
  rw [snd_armed]
  refine ⟨(h.toSteady.add _).arm hlt, ?_⟩
  refine Timely.arm ?_ _
  exact ⟨due, (clock.forest.deadline?_add_of_lt (some p) _ hlt).trans hdue, hnow, htimer⟩

/-- A batch ends: its token is released, and `p` stays calm. -/
theorem Calm.release (h : clock.Calm p own) {token : Nat} (hother : token ≠ p) : (clock.release token).Calm p own := by
  obtain ⟨due, hdue, hnow, htimer⟩ := h.timely
  refine ⟨h.toSteady.release, due, ((later_detach clock.forest token).deadline? p).trans hdue, hnow, ?_⟩
  refine List.mem_filter.mpr ⟨htimer, ?_⟩
  simpa using Ne.symm hother

/-- A token that is calm has time left. -/
theorem Calm.expired (h : clock.Calm p own) : clock.expired p = false := by
  obtain ⟨due, hdue, hnow, -⟩ := h.timely
  have hpos : 0 < due - clock.now := sub_pos.mpr hnow
  unfold Clockwork.expired isCancelled Forest.isCancelled
  rw [h.active, remaining?_eq hdue, max_eq_right (le_of_lt hpos)]
  simp only [Option.isSome_none, Bool.false_or, Quantity.isZero, zero_rat, Bool.and_eq_false_iff, decide_eq_false_iff_not]
  exact Or.inl (not_le.mpr hpos)

/-- Whether a batch overran its budget is whether its token timed out; if not, the token is active and
the end of the batch leaves none at work. -/
theorem Calm.ended {token : Nat} (h : clock.Calm p (some token)) (hbeyond : p < token) :
    ((clock.release token).forest.timedOut token && !(clock.release token).expired p) =
        clock.forest.timedOut token ∧
      (clock.forest.timedOut token = false →
        clock.forest.reason? token = none ∧ (clock.release token).Calm p none) := by
  have hother : token ≠ p := by omega
  have hreleased := h.release hother
  refine ⟨?_, fun htime => ?_⟩
  · have hsame : (clock.release token).forest.reason? token = clock.forest.reason? token :=
      reason?_detach clock.forest token token
    rw [hreleased.expired, Bool.not_false, Bool.and_true]
    unfold Forest.timedOut
    rw [hsame]
  · have hactive : clock.forest.reason? token = none := by
      rcases h.beyond token hbeyond with hnone | ⟨-, htimeout⟩
      · exact hnone
      · unfold Forest.timedOut at htime
        rw [htimeout] at htime
        simp at htime
    exact ⟨hactive, h.toSteady.closed hactive, hreleased.timely⟩

end Clockwork

end FixFirst
