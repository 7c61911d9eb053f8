import FixFirst.Proofs.Token.Timers

/-!
# Moves of a manager of budgets

A manager of budgets makes tokens, starts a timer for each that has time left, and ends timers.  Other
tokens come from elsewhere.  Whatever moves are made on a clockwork, the timers that are live are those
of the tokens that the manager keeps and that still have time.

## Main definitions

* `Clockwork.Move` — what is done with a clockwork; `Clockwork.Goes` — a sequence of moves.
* `Clockwork.Kept` — a token that the manager made and has not let go of.
* `Clockwork.Accurate` — the live timers are those of the tokens kept that have time left, and the kept
  tokens without time are cancelled.

## Main statements

* `Clockwork.Accurate.move`, `Clockwork.Goes.accurate` — one move, and a sequence of them.
* `Clockwork.released_stays`, `Clockwork.closed_stays` — what the clock no longer changes.
-/

namespace FixFirst

variable {τ : Type}

/-! ### Moves -/

/-- What is done with a clockwork. -/
inductive Clockwork.Move (τ : Type) where
  /-- A token comes from elsewhere, without a timer. -/
  | given (parent : Option Nat) (deadline : Option τ)
  | runToken (budget : Option τ) (parent : Option Nat)
  | phaseToken (run : Nat) (reserve : τ)
  | scopeToken (parent : Nat) (budget : Option τ)
  | release (token : Nat)
  | close
  | cancel (token : Nat) (reason : String)
  | advance (seconds : τ)

namespace Clockwork

open Forest

section

variable [Quantity τ]

/-- The clockwork after a move. -/
def Move.on (clock : Clockwork τ) : Move τ → Clockwork τ
  | .given parent deadline => (clock.plain parent deadline).2
  | .runToken budget parent => (clock.runToken budget parent).2
  | .phaseToken run reserve => (clock.phaseToken run reserve).2
  | .scopeToken parent budget => (clock.scopeToken parent budget).2
  | .release token => clock.release token
  | .close => clock.close
  | .cancel token reason => clock.cancel token reason
  | .advance seconds => clock.advance seconds

/-- The parent and the deadline of the token that the manager is to make. -/
def Move.asks (clock : Clockwork τ) : Move τ → Option (Option Nat × Option τ)
  | .runToken budget parent => some (parent, budget.map (clock.now + ·))
  | .phaseToken run reserve => some (some run, (clock.forest.deadline? run).map (· - reserve))
  | .scopeToken parent budget => some (some parent, budget.map (clock.now + ·))
  | .given .. | .release _ | .close | .cancel .. | .advance _ => none

/-- Whether the tokens that a move refers to exist, and time does not run backwards. -/
def Move.Valid (clock : Clockwork τ) : Move τ → Prop
  | .given parent _ | .runToken _ parent => ∀ above ∈ parent, above < clock.forest.tokens.length
  | .phaseToken token _ | .scopeToken token _ | .release token => token < clock.forest.tokens.length
  | .close | .cancel .. => True
  | .advance seconds => Quantity.zero ≤ seconds

/-- The clockwork after a sequence of moves. -/
def after (clock : Clockwork τ) (moves : List (Move τ)) : Clockwork τ := moves.foldl Move.on clock

/-- Whether a sequence of moves is possible. -/
def Allows (clock : Clockwork τ) : List (Move τ) → Prop
  | [] => True
  | move :: rest => move.Valid clock ∧ (move.on clock).Allows rest

/-- Whether a sequence of moves is possible and leads from one clockwork to another. -/
def Goes (start : Clockwork τ) (moves : List (Move τ)) (clock : Clockwork τ) : Prop :=
  start.Allows moves ∧ start.after moves = clock

/-- Whether the manager made a token, did not release it since, and did not end all timers since. -/
def Kept (start : Clockwork τ) (moves : List (Move τ)) (token : Nat) : Prop :=
  ∃ earlier move since, moves = earlier ++ move :: since ∧ (move.asks (start.after earlier)).isSome = true ∧
    token = (start.after earlier).forest.tokens.length ∧ .close ∉ since ∧ .release token ∉ since

theorem after_append (clock : Clockwork τ) (first second : List (Move τ)) :
    clock.after (first ++ second) = (clock.after first).after second := List.foldl_append ..

theorem allows_append {clock : Clockwork τ} {first second : List (Move τ)} :
    clock.Allows (first ++ second) ↔ clock.Allows first ∧ (clock.after first).Allows second := by
  induction first generalizing clock with
  | nil => simp [Allows, after]
  | cons move rest ih => simp only [List.cons_append, Allows, ih, and_assoc, after, List.foldl_cons]

theorem Goes.snoc {start clock : Clockwork τ} {moves : List (Move τ)} (h : start.Goes moves clock) {move : Move τ}
    (hvalid : move.Valid clock) : start.Goes (moves ++ [move]) (move.on clock) := by
  obtain ⟨hallowed, rfl⟩ := h
  exact ⟨allows_append.mpr ⟨hallowed, hvalid, trivial⟩, after_append start moves [move]⟩

theorem Goes.append {start middle clock : Clockwork τ} {moves later : List (Move τ)} (h : start.Goes moves middle)
    (hlater : middle.Goes later clock) : start.Goes (moves ++ later) clock := by
  obtain ⟨hallowed, rfl⟩ := h
  obtain ⟨hlast, rfl⟩ := hlater
  exact ⟨allows_append.mpr ⟨hallowed, hlast⟩, after_append start moves later⟩

theorem not_kept_nil (start : Clockwork τ) (token : Nat) : ¬ start.Kept [] token := by
  rintro ⟨earlier, move, since, heq, -⟩
  simp at heq

/-- A token is kept after a move if the move makes it, or if it was kept before and the move does not let go of it. -/
theorem kept_snoc {start : Clockwork τ} {moves : List (Move τ)} {last : Move τ} {token : Nat} :
    start.Kept (moves ++ [last]) token ↔
      ((last.asks (start.after moves)).isSome = true ∧ token = (start.after moves).forest.tokens.length) ∨
        (start.Kept moves token ∧ last ≠ .close ∧ last ≠ .release token) := by
  constructor
  · rintro ⟨earlier, move, since, heq, hasks, htoken, hopen, hheld⟩
    rcases List.eq_nil_or_concat since with rfl | ⟨front, final, rfl⟩
    · obtain ⟨rfl, hlast⟩ := List.append_inj' heq rfl
      cases hlast
      exact Or.inl ⟨hasks, htoken⟩
    · have heq' : moves ++ [last] = (earlier ++ move :: front) ++ [final] := by simpa using heq
      obtain ⟨rfl, hlast⟩ := List.append_inj' heq' rfl
      cases hlast
      refine Or.inr ⟨⟨earlier, move, front, rfl, hasks, htoken, ?_, ?_⟩, ?_, ?_⟩
      · exact fun hin => hopen (by simp [hin])
      · exact fun hin => hheld (by simp [hin])
      · rintro rfl
        exact hopen (by simp)
      · rintro rfl
        exact hheld (by simp)
  · rintro (⟨hasks, htoken⟩ | ⟨⟨earlier, move, since, rfl, hasks, htoken, hopen, hheld⟩, hclose, hrelease⟩)
    · exact ⟨moves, last, [], rfl, hasks, htoken, by simp, by simp⟩
    · refine ⟨earlier, move, since ++ [last], by simp, hasks, htoken, ?_, ?_⟩
      · simpa [hopen] using Ne.symm hclose
      · simpa [hheld] using Ne.symm hrelease

end

/-! ### Live timers -/

/-- Whether the live timers are those of the kept tokens that have time left, one each, and the kept tokens
without time are cancelled. -/
structure Accurate (kept : Nat → Prop) (clock : Clockwork Rat) : Prop where
  regular : clock.forest.Regular
  made : ∀ token, kept token → token < clock.forest.tokens.length
  live : ∀ timer, timer ∈ clock.timers ↔
    kept timer.token ∧ clock.forest.deadline? timer.token = some timer.due ∧ clock.now < timer.due
  once : (clock.timers.map (·.token)).Nodup
  timely : ∀ token due, kept token → clock.forest.deadline? token = some due → due ≤ clock.now →
    clock.forest.isCancelled token = true

variable {kept : Nat → Prop} {clock : Clockwork Rat}

theorem Accurate.congr {other : Nat → Prop} (h : clock.Accurate kept) (hsame : ∀ token, other token ↔ kept token) :
    clock.Accurate other := by
  have heq : other = kept := funext fun token => propext (hsame token)
  rw [heq]
  exact h

theorem accurate_starting (begin : Rat) : (starting begin).Accurate fun _ => False where
  regular := regular_empty
  made token hkept := hkept.elim
  live timer := by simp [starting]
  once := List.nodup_nil
  timely token due hkept := hkept.elim

/-- What keeps the time and the timers and takes nothing back in the forest, keeps the timers accurate. -/
theorem Accurate.of_later (h : clock.Accurate kept) {forest : Forest Rat} (hregular : forest.Regular)
    (hlater : clock.forest.Later forest) : Accurate kept { clock with forest := forest } where
  regular := hregular
  made token hkept := Nat.lt_of_lt_of_eq (h.made token hkept) hlater.length.symm
  live timer := by
    rw [hlater.deadline?]
    exact h.live timer
  once := h.once
  timely token due hkept hdue hpast :=
    hlater.isCancelled (h.timely token due hkept ((hlater.deadline? token).symm.trans hdue) hpast)

theorem Accurate.cancel (h : clock.Accurate kept) (token : Nat) (reason : String) :
    (clock.cancel token reason).Accurate kept :=
  h.of_later (h.regular.cancel token reason) (later_drain _ _)

theorem Accurate.plain (h : clock.Accurate kept) {parent : Option Nat}
    (hparent : ∀ above ∈ parent, above < clock.forest.tokens.length) (deadline : Option Rat) :
    (clock.plain parent deadline).2.Accurate kept := by
  have hlength := clock.forest.length_add parent deadline
  have hsame : ∀ token, kept token →
      (clock.forest.add parent deadline).2.deadline? token = clock.forest.deadline? token :=
    fun token hkept => clock.forest.deadline?_add_of_lt parent deadline (h.made token hkept)
  refine ⟨h.regular.add hparent deadline, fun token hkept => ?_, fun timer => ?_, h.once, fun token due hkept hdue hpast => ?_⟩
  · have hlt := h.made token hkept
    show token < (clock.forest.add parent deadline).2.tokens.length
    omega
  · refine (h.live timer).trans (and_congr_right fun hkept => ?_)
    rw [← hsame timer.token hkept]
    rfl
  · have hdone := h.timely token due hkept ((hsame token hkept).symm.trans hdue) hpast
    obtain ⟨reason, hreason⟩ := Option.isSome_iff_exists.mp hdone
    refine Option.isSome_iff_exists.mpr ⟨reason, ?_⟩
    cases parent with
    | none => exact reason?_operation hreason (.root deadline)
    | some above => exact reason?_operation hreason (.child above deadline)

/-- A token that is to keep no timer, as it has no deadline or is cancelled at its deadline, can be kept without one. -/
theorem Accurate.keep (h : clock.Accurate kept) {token : Nat} (hhere : token < clock.forest.tokens.length)
    (hdone : ∀ due, clock.forest.deadline? token = some due →
      due ≤ clock.now ∧ clock.forest.isCancelled token = true) :
    clock.Accurate fun other => kept other ∨ other = token := by
  refine ⟨h.regular, ?_, fun timer => (h.live timer).trans ⟨fun ⟨hkept, hrest⟩ => ⟨Or.inl hkept, hrest⟩, ?_⟩, h.once, ?_⟩
  · rintro other (hkept | rfl)
    · exact h.made other hkept
    · exact hhere
  · rintro ⟨hkept | hsame, hdue, hleft⟩
    · exact ⟨hkept, hdue, hleft⟩
    · rw [hsame] at hdue
      exact absurd hleft (not_lt.mpr (hdone timer.due hdue).1)
  · rintro other due (hkept | rfl) hdue hpast
    · exact h.timely other due hkept hdue hpast
    · exact (hdone due hdue).2

/-- A token whose deadline is still to come is kept with a timer of its own. -/
theorem Accurate.time (h : clock.Accurate kept) {token : Nat} (hhere : token < clock.forest.tokens.length)
    (hnew : ¬ kept token) {due : Rat} (hdue : clock.forest.deadline? token = some due) (hfuture : clock.now < due) :
    Accurate (fun other => kept other ∨ other = token) { clock with timers := clock.timers ++ [⟨token, due⟩] } := by
  refine ⟨h.regular, ?_, fun timer => ?_, ?_, ?_⟩
  · rintro other (hkept | rfl)
    · exact h.made other hkept
    · exact hhere
  · rw [List.mem_append, List.mem_singleton, h.live timer]
    constructor
    · rintro (⟨hkept, hrest⟩ | rfl)
      · exact ⟨Or.inl hkept, hrest⟩
      · exact ⟨Or.inr rfl, hdue, hfuture⟩
    · rintro ⟨hkept | hsame, hdeadline, hrest⟩
      · exact Or.inl ⟨hkept, hdeadline, hrest⟩
      · refine Or.inr ?_
        rw [hsame, hdue] at hdeadline
        cases hdeadline
        rw [← hsame]
  · rw [List.map_append, List.nodup_append]
    refine ⟨h.once, List.nodup_singleton _, fun first hfirst second hsecond hsame => hnew ?_⟩
    obtain ⟨timer, hin, rfl⟩ := List.mem_map.mp hfirst
    rw [List.map_singleton, List.mem_singleton] at hsecond
    rw [← show timer.token = token from hsame.trans hsecond]
    exact ((h.live timer).mp hin).1
  · rintro other own (hkept | rfl) hown hpast
    · exact h.timely other own hkept hown hpast
    · cases hdue.symm.trans hown
      exact absurd hfuture (not_lt.mpr hpast)

/-- The manager keeps a token whose timer it starts. -/
theorem Accurate.arm (h : clock.Accurate kept) {token : Nat} (hhere : token < clock.forest.tokens.length)
    (hnew : ¬ kept token) : (clock.arm token).Accurate fun other => kept other ∨ other = token := by
  unfold Clockwork.arm
  cases hdue : clock.forest.deadline? token with
  | none =>
      have hnone : clock.remaining? token = none := by
        unfold remaining?
        rw [hdue]
        rfl
      rw [hnone]
      exact h.keep hhere fun due hsome => by simp [hdue] at hsome
  | some due =>
      rw [remaining?_eq hdue, zero_rat]
      simp only
      split
      · rename_i hover
        have hpast : due ≤ clock.now := sub_nonpos.mp ((le_max_right 0 _).trans hover)
        have hlater := later_drain clock.forest [.cancel token "timeout"]
        have hsome : (clock.forest.token? token).isSome = true := by
          unfold Forest.token?
          rw [List.getElem?_eq_getElem hhere]
          rfl
        refine (h.cancel token "timeout").keep (Nat.lt_of_lt_of_eq hhere hlater.length.symm) fun own hown => ?_
        cases hdue.symm.trans ((hlater.deadline? token).symm.trans hown)
        exact ⟨hpast, isCancelled_cancel h.regular.unobserved.answering "timeout" hsome⟩
      · rename_i hleft
        have hpos : 0 < due - clock.now := by
          by_contra hnone
          exact hleft (le_of_eq (max_eq_left (not_lt.mp hnone)))
        rw [max_eq_right (le_of_lt hpos), add_sub_cancel]
        exact h.time hhere hnew hdue (sub_pos.mp hpos)

theorem Accurate.armed (h : clock.Accurate kept) {parent : Option Nat}
    (hparent : ∀ above ∈ parent, above < clock.forest.tokens.length) (deadline : Option Rat) :
    (clock.armed parent deadline).2.Accurate fun token => kept token ∨ token = clock.forest.tokens.length := by
  rw [snd_armed]
  refine (h.plain hparent deadline).arm ?_ fun hkept => Nat.lt_irrefl _ (h.made _ hkept)
  have hlength := clock.forest.length_add parent deadline
  show clock.forest.tokens.length < (clock.forest.add parent deadline).2.tokens.length
  omega

theorem Accurate.release (h : clock.Accurate kept) (token : Nat) :
    (clock.release token).Accurate fun other => kept other ∧ other ≠ token := by
  have hdetached := h.of_later (h.regular.detach token) (later_detach clock.forest token)
  refine ⟨hdetached.regular, fun other hkept => hdetached.made other hkept.1, fun timer => ?_, ?_,
    fun other due hkept => hdetached.timely other due hkept.1⟩
  · show timer ∈ clock.timers.filter _ ↔ _
    rw [List.mem_filter, bne_iff_ne]
    refine (and_congr_left' (hdetached.live timer)).trans ?_
    tauto
  · exact h.once.sublist (List.filter_sublist.map _)

theorem Accurate.close (h : clock.Accurate kept) : clock.close.Accurate fun _ => False where
  regular := h.regular
  made token hkept := hkept.elim
  live timer := by simp [Clockwork.close]
  once := List.nodup_nil
  timely token due hkept := hkept.elim

/-- When time passes, the timers that it reaches are gone, and their tokens are cancelled. -/
theorem Accurate.advance (h : clock.Accurate kept) {seconds : Rat} (hforward : 0 ≤ seconds) :
    (clock.advance seconds).Accurate kept := by
  have hfired := fired_advance h.regular seconds
  have hlater : clock.forest.Later (clock.advance seconds).forest := hfired.later
  have hnow : (clock.advance seconds).now = clock.now + seconds := hfired.now
  have hlive : ∀ timer, timer ∈ (clock.advance seconds).timers ↔
      timer ∈ clock.timers ∧ ∀ fired ∈ clock.ready seconds, timer.token ≠ fired.token := by
    intro timer
    rw [hfired.live, List.mem_filter, List.all_eq_true]
    simp only [bne_iff_ne]
  refine ⟨hfired.regular, fun token hkept => ?_, fun timer => ?_, ?_, fun token due hkept hdue hpast => ?_⟩
  · exact Nat.lt_of_lt_of_eq (h.made token hkept) hlater.length.symm
  · rw [hlive, hlater.deadline?, hnow]
    constructor
    · rintro ⟨hin, hother⟩
      obtain ⟨hkept, hdue, -⟩ := (h.live timer).mp hin
      refine ⟨hkept, hdue, lt_of_not_ge fun hreached => ?_⟩
      exact hother timer (mem_ready.mpr ⟨hin, hreached⟩) rfl
    · rintro ⟨hkept, hdue, hleft⟩
      have hbefore : clock.now < timer.due := lt_of_le_of_lt (le_add_of_nonneg_right hforward) hleft
      refine ⟨(h.live timer).mpr ⟨hkept, hdue, hbefore⟩, fun fired hready hsame => ?_⟩
      obtain ⟨hin, hreached⟩ := mem_ready.mp hready
      have hother := ((h.live fired).mp hin).2.1
      rw [← hsame, hdue] at hother
      have heq : timer.due = fired.due := Option.some.inj hother
      rw [heq] at hleft
      exact absurd hleft (not_lt.mpr hreached)
  · rw [hfired.live]
    exact h.once.sublist (List.filter_sublist.map _)
  · rw [hlater.deadline?] at hdue
    by_cases hbefore : due ≤ clock.now
    · exact hlater.isCancelled (h.timely token due hkept hdue hbefore)
    · have hin := (h.live ⟨token, due⟩).mpr ⟨hkept, hdue, not_le.mp hbefore⟩
      refine hfired.ended ⟨token, due⟩ (mem_ready.mpr ⟨hin, hnow ▸ hpast⟩) ?_
      show (clock.forest.token? token).isSome = true
      unfold Forest.token?
      rw [List.getElem?_eq_getElem (h.made token hkept)]
      rfl

/-- After a move the manager keeps the token that it made, and what it did not let go of. -/
theorem Accurate.move (h : clock.Accurate kept) {move : Move Rat} (hvalid : move.Valid clock) :
    (move.on clock).Accurate fun token =>
      ((move.asks clock).isSome = true ∧ token = clock.forest.tokens.length) ∨
        (kept token ∧ move ≠ .close ∧ move ≠ .release token) := by
  cases move with
  | given parent deadline => exact (h.plain hvalid deadline).congr (by simp [Move.asks])
  | runToken budget parent => exact (h.armed hvalid _).congr (by simp [Move.asks, or_comm])
  | phaseToken run reserve =>
      have hparent : ∀ above ∈ some run, above < clock.forest.tokens.length := by
        rintro above ⟨⟩
        exact hvalid
      exact (h.armed hparent _).congr (by simp [Move.asks, or_comm])
  | scopeToken parent budget =>
      have hparent : ∀ above ∈ some parent, above < clock.forest.tokens.length := by
        rintro above ⟨⟩
        exact hvalid
      exact (h.armed hparent _).congr (by simp [Move.asks, or_comm])
  | release token => exact (h.release token).congr (by simp [Move.asks, eq_comm])
  | close => exact h.close.congr (by simp [Move.asks])
  | cancel token reason => exact (h.cancel token reason).congr (by simp [Move.asks])
  | advance seconds =>
      refine (h.advance ?_).congr (by simp [Move.asks])
      rw [← zero_rat]
      exact hvalid

/-- Whatever moves are made, the live timers are those of the tokens that the manager keeps and that have
time left. -/
theorem Goes.accurate {begin : Rat} {moves : List (Move Rat)} {clock : Clockwork Rat}
    (h : (starting begin).Goes moves clock) : clock.Accurate ((starting begin).Kept moves) := by
  obtain ⟨hallowed, rfl⟩ := h
  induction moves using List.reverseRecOn with
  | nil => exact (accurate_starting begin).congr fun token => ⟨not_kept_nil _ _, False.elim⟩
  | append_singleton moves last ih =>
      obtain ⟨hmoves, hlast, -⟩ := allows_append.mp hallowed
      rw [after_append]
      exact ((ih hmoves).move hlast).congr fun token => kept_snoc

/-! ### What is there already -/

/-- Whether new links and new timers are about new tokens only. -/
structure Grows (before after : Clockwork τ) : Prop where
  tokens : before.forest.tokens.length ≤ after.forest.tokens.length
  links : ∀ above below, after.forest.Below above below →
    before.forest.Below above below ∨ before.forest.tokens.length ≤ below
  timers : ∀ timer ∈ after.timers, timer ∈ before.timers ∨ before.forest.tokens.length ≤ timer.token

theorem Grows.refl (clock : Clockwork τ) : clock.Grows clock :=
  ⟨Nat.le_refl _, fun _ _ hlink => Or.inl hlink, fun _ hin => Or.inl hin⟩

theorem Grows.trans {first second third : Clockwork τ} (h : first.Grows second) (h' : second.Grows third) :
    first.Grows third where
  tokens := Nat.le_trans h.tokens h'.tokens
  links above below hlink :=
    (h'.links above below hlink).elim (h.links above below) fun hnew => Or.inr (Nat.le_trans h.tokens hnew)
  timers timer hin :=
    (h'.timers timer hin).elim (h.timers timer) fun hnew => Or.inr (Nat.le_trans h.tokens hnew)

theorem grows_of_later {before after : Clockwork τ} (hlater : before.forest.Later after.forest)
    (htimers : ∀ timer ∈ after.timers, timer ∈ before.timers) : before.Grows after where
  tokens := Nat.le_of_eq hlater.length.symm
  links above below hlink := by
    obtain ⟨token, hfound, hin⟩ := hlink
    obtain ⟨old, hold, htoken⟩ := hlater.exists_before hfound
    exact Or.inl ⟨old, hold, htoken.listeners _ hin⟩
  timers timer hin := Or.inl (htimers timer hin)

theorem mem_of_mem_fireEach {timers : List (Timer τ)} {timer : Timer τ} {clock : Clockwork τ}
    (hin : timer ∈ (fireEach timers clock).timers) : timer ∈ clock.timers := by
  induction timers generalizing clock with
  | nil => exact hin
  | cons first rest ih =>
      unfold fireEach at hin
      split at hin
      · exact hin
      · exact (List.mem_filter.mp (ih hin)).1

variable [Quantity τ]

theorem grows_plain (clock : Clockwork τ) (parent : Option Nat) (deadline : Option τ) :
    clock.Grows (clock.plain parent deadline).2 := by
  have hlength := clock.forest.length_add parent deadline
  refine ⟨?_, fun above below hlink => ?_, fun timer hin => Or.inl hin⟩
  · show clock.forest.tokens.length ≤ (clock.forest.add parent deadline).2.tokens.length
    omega
  · obtain ⟨token, hbare, -, -, heq⟩ := clock.forest.add_eq parent deadline
    have hlink' : (clock.forest.add parent deadline).2.Below above below := hlink
    rw [heq] at hlink'
    cases parent with
    | none => exact Or.inl ((below_grown hbare).mp hlink')
    | some place =>
        simp only at hlink'
        obtain ⟨known, hfound, hin⟩ := hlink'
        rcases (clock.forest.grown token).listen_cases place (.child clock.forest.tokens.length) with hhung | ⟨works, hdrain⟩
        · rw [hhung] at hfound
          obtain ⟨old, hold, -, -, hlisteners⟩ := token?_hung_cases hfound
          rcases hlisteners _ hin with hbefore | ⟨-, hnew⟩
          · exact Or.inl ((below_grown hbare).mp ⟨old, hold, hbefore⟩)
          · cases hnew
            exact Or.inr (Nat.le_refl _)
        · rw [hdrain] at hfound
          obtain ⟨old, hold, htoken⟩ := (later_drain _ works).exists_before hfound
          exact Or.inl ((below_grown hbare).mp ⟨old, hold, htoken.listeners _ hin⟩)

theorem grows_armed (clock : Clockwork τ) (parent : Option Nat) (deadline : Option τ) :
    clock.Grows (clock.armed parent deadline).2 := by
  have hplain := clock.grows_plain parent deadline
  have hlater := later_arm (clock.plain parent deadline).2 clock.forest.tokens.length
  rw [snd_armed]
  refine ⟨hplain.tokens.trans (Nat.le_of_eq hlater.length.symm), fun above below hlink => ?_, fun timer hin => ?_⟩
  · obtain ⟨token, hfound, hin⟩ := hlink
    obtain ⟨old, hold, htoken⟩ := hlater.exists_before hfound
    exact hplain.links above below ⟨old, hold, htoken.listeners _ hin⟩
  · unfold arm at hin
    split at hin
    · exact Or.inl hin
    · split at hin
      · exact Or.inl hin
      · rcases List.mem_append.mp hin with hold | hnew
        · exact Or.inl hold
        · exact Or.inr (Nat.le_of_eq (congrArg Timer.token (List.mem_singleton.mp hnew)).symm)

theorem grows_move (clock : Clockwork τ) (move : Move τ) : clock.Grows (move.on clock) := by
  cases move with
  | given parent deadline => exact clock.grows_plain parent deadline
  | runToken budget parent => exact clock.grows_armed parent _
  | phaseToken run reserve => exact clock.grows_armed (some run) _
  | scopeToken parent budget => exact clock.grows_armed (some parent) _
  | release token => exact grows_of_later (later_detach _ _) fun timer hin => (List.mem_filter.mp hin).1
  | close => exact grows_of_later (Later.refl _) fun timer hin => by cases hin
  | cancel token reason => exact grows_of_later (later_drain _ _) fun timer hin => hin
  | advance seconds =>
      let moved : Clockwork τ := { clock with now := clock.now + seconds }
      have hfewer : ∀ timers, ∀ timer ∈ (fireEach timers moved).timers, timer ∈ moved.timers :=
        fun timers timer hin => mem_of_mem_fireEach hin
      exact grows_of_later (later_fireEach _ moved) (hfewer _)

theorem Goes.grows {start clock : Clockwork τ} {moves : List (Move τ)} (h : start.Goes moves clock) :
    start.Grows clock := by
  obtain ⟨-, rfl⟩ := h
  induction moves generalizing start with
  | nil => exact Grows.refl start
  | cons move rest ih => exact (start.grows_move move).trans ih

/-! ### What is let go of -/

/-- A released token is changed neither by the clock nor by the cancellation of another one. -/
theorem released_stays {clock last : Clockwork Rat} {token : Nat} {later : List (Move Rat)} (hshaped : clock.forest.Shaped)
    (hhere : token < clock.forest.tokens.length) (hlater : (clock.release token).Goes later last)
    (hregular : last.forest.Regular) :
    (∀ seconds, (last.advance seconds).forest.token? token = last.forest.token? token) ∧
      ∀ other reason, other ≠ token → (last.cancel other reason).forest.token? token = last.forest.token? token := by
  have hgrows := hlater.grows
  have hold : token < (clock.release token).forest.tokens.length :=
    Nat.lt_of_lt_of_eq hhere (later_detach clock.forest token).length.symm
  have hloose : ∀ above, ¬ last.forest.Below above token := fun above hlink =>
    (hgrows.links above token hlink).elim (not_below_detach hshaped above token)
      fun hnew => Nat.lt_irrefl _ (Nat.lt_of_lt_of_le hold hnew)
  refine ⟨fun seconds => token?_advance hregular fun timer hin _ hpath => ?_, fun other reason hne => ?_⟩
  · have hown := eq_of_reaches_loose hloose hpath
    rcases hgrows.timers timer hin with hbefore | hnew
    · have hother := (List.mem_filter.mp hbefore).2
      rw [hown] at hother
      simp at hother
    · omega
  · refine token?_cancel hregular.bare hregular.unobserved (fun hpath => ?_) reason
    exact hne (eq_of_reaches_loose hloose hpath)

/-- Once all timers are ended, no token that is there is changed by the clock. -/
theorem closed_stays {clock last : Clockwork Rat} {later : List (Move Rat)} (hlater : clock.close.Goes later last)
    (hregular : last.forest.Regular) {token : Nat} (hhere : token < clock.forest.tokens.length) (seconds : Rat) :
    (last.advance seconds).forest.token? token = last.forest.token? token := by
  refine token?_advance hregular fun timer hin _ hpath => ?_
  have hle := hregular.toShaped.le_of_reaches hpath
  rcases hlater.grows.timers timer hin with hbefore | hnew
  · cases hbefore
  · exact absurd (Nat.lt_of_lt_of_le hhere hnew) (Nat.not_lt_of_le hle)

/-- When time cancels a token, links lead to it from one whose deadline has come. -/
theorem exists_due_of_advance {kept : Nat → Prop} {clock : Clockwork Rat} (h : clock.Accurate kept) {seconds : Rat}
    {token : Nat} (hactive : clock.forest.isCancelled token = false)
    (hdone : (clock.advance seconds).forest.isCancelled token = true) :
    ∃ above due, clock.forest.Reaches above token ∧ clock.forest.deadline? above = some due ∧
      due ≤ clock.now + seconds := by
  by_contra hnone
  have hsame : (clock.advance seconds).forest.token? token = clock.forest.token? token :=
    token?_advance h.regular fun timer hin hreached hpath =>
      hnone ⟨timer.token, timer.due, hpath, ((h.live timer).mp hin).2.1, hreached⟩
  unfold Forest.isCancelled Forest.reason? at hactive hdone
  rw [hsame, hactive] at hdone
  cases hdone

end Clockwork

end FixFirst
