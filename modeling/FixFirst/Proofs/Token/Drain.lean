import FixFirst.Token.Clockwork

/-!
# What a cancellation reaches

A cancellation is worked off piece by piece.  Whatever it sets in motion, tokens keep their
deadlines and their reasons, and listeners only go away.  A token beyond some number is reached
only from the token with that number, if all links and names lead below it.

## Main definitions

* `Forest.Later` — what no cancellation undoes.
* `Forest.Answering` — every observer finds the token that it looks up.
* `Forest.Sheltered` — the tokens beyond `p` hang on `p` alone.

## Main statements

* `Forest.later_drain` — working off a cancellation only moves on.
* `Forest.drain_answering` — all that is to be cancelled is cancelled.
* `Forest.drain_sheltered` — as long as `p` is active, no token beyond it is touched.
-/

namespace FixFirst

variable {τ : Type}

/-- Whether a token is another one at a later time. -/
structure Token.Later (before after : Token τ) : Prop where
  deadline : after.deadline = before.deadline
  reason : ∀ reason, before.reason = some reason → after.reason = some reason
  listeners : ∀ listener ∈ after.listeners, listener ∈ before.listeners

theorem Token.Later.refl (token : Token τ) : token.Later token := ⟨rfl, fun _ h => h, fun _ h => h⟩

theorem Token.Later.trans {first second third : Token τ} (h : first.Later second) (h' : second.Later third) :
    first.Later third :=
  ⟨h'.deadline.trans h.deadline, fun reason hr => h'.reason reason (h.reason reason hr),
    fun listener hl => h.listeners listener (h'.listeners listener hl)⟩

namespace Forest

/-! ### What is never undone -/

/-- Whether a forest is another one at a later time, with the same tokens. -/
structure Later (before after : Forest τ) : Prop where
  names : after.names = before.names
  tokens : ∀ number, Option.Rel Token.Later (before.token? number) (after.token? number)

theorem Later.refl (forest : Forest τ) : forest.Later forest := by
  refine ⟨rfl, fun number => ?_⟩
  cases forest.token? number with
  | none => exact .none
  | some token => exact .some (Token.Later.refl token)

theorem Later.trans {first second third : Forest τ} (h : first.Later second) (h' : second.Later third) :
    first.Later third := by
  refine ⟨h'.names.trans h.names, fun number => ?_⟩
  have hone := h.tokens number
  have htwo := h'.tokens number
  generalize first.token? number = old at hone ⊢
  generalize second.token? number = middle at hone htwo
  generalize third.token? number = new at htwo ⊢
  cases hone with
  | none =>
      cases htwo
      exact .none
  | some hlater =>
      cases htwo with
      | some hlater' => exact .some (hlater.trans hlater')

/-- A token that is there was there before. -/
theorem Later.exists_before {before after : Forest τ} (h : before.Later after) {number : Nat} {token : Token τ}
    (hfound : after.token? number = some token) : ∃ old, before.token? number = some old ∧ old.Later token := by
  have hrel := h.tokens number
  rw [hfound] at hrel
  cases hold : before.token? number with
  | none =>
      rw [hold] at hrel
      cases hrel
  | some old =>
      rw [hold] at hrel
      cases hrel with
      | some hlater => exact ⟨old, rfl, hlater⟩

/-- A token that was there is still there. -/
theorem Later.exists_after {before after : Forest τ} (h : before.Later after) {number : Nat} {old : Token τ}
    (hfound : before.token? number = some old) : ∃ token, after.token? number = some token ∧ old.Later token := by
  have hrel := h.tokens number
  rw [hfound] at hrel
  cases hnew : after.token? number with
  | none =>
      rw [hnew] at hrel
      cases hrel
  | some token =>
      rw [hnew] at hrel
      cases hrel with
      | some hlater => exact ⟨token, rfl, hlater⟩

theorem Later.here {before after : Forest τ} (h : before.Later after) {number : Nat}
    (hhere : (before.token? number).isSome = true) : (after.token? number).isSome = true := by
  obtain ⟨old, hold⟩ := Option.isSome_iff_exists.mp hhere
  obtain ⟨token, hnew, -⟩ := h.exists_after hold
  exact Option.isSome_iff_exists.mpr ⟨token, hnew⟩

theorem Later.deadline? {before after : Forest τ} (h : before.Later after) (number : Nat) :
    after.deadline? number = before.deadline? number := by
  unfold Forest.deadline?
  cases hold : before.token? number with
  | none =>
      have hrel := h.tokens number
      rw [hold] at hrel
      cases hnew : after.token? number with
      | none => rfl
      | some token =>
          rw [hnew] at hrel
          cases hrel
  | some old =>
      obtain ⟨token, hnew, hlater⟩ := h.exists_after hold
      rw [hnew]
      exact hlater.deadline

/-- A cancelled token keeps its reason. -/
theorem Later.reason? {before after : Forest τ} (h : before.Later after) {number : Nat} {reason : String}
    (hreason : before.reason? number = some reason) : after.reason? number = some reason := by
  unfold Forest.reason? at hreason ⊢
  cases hold : before.token? number with
  | none =>
      rw [hold] at hreason
      cases hreason
  | some old =>
      rw [hold] at hreason
      obtain ⟨token, hnew, hlater⟩ := h.exists_after hold
      rw [hnew]
      exact hlater.reason reason hreason

theorem Later.length {before after : Forest τ} (h : before.Later after) :
    after.tokens.length = before.tokens.length := by
  refine Nat.le_antisymm ?_ ?_
  · refine Nat.le_of_not_lt fun hlt => ?_
    obtain ⟨old, hold, -⟩ := h.exists_before (List.getElem?_eq_getElem hlt)
    exact Nat.lt_irrefl _ (List.getElem?_eq_some_iff.mp hold).1
  · refine Nat.le_of_not_lt fun hlt => ?_
    obtain ⟨token, hnew, -⟩ := h.exists_after (List.getElem?_eq_getElem hlt)
    exact Nat.lt_irrefl _ (List.getElem?_eq_some_iff.mp hnew).1

theorem Later.isCancelled {before after : Forest τ} (h : before.Later after) {number : Nat}
    (hcancelled : before.isCancelled number = true) : after.isCancelled number = true := by
  obtain ⟨reason, hreason⟩ := Option.isSome_iff_exists.mp hcancelled
  exact Option.isSome_iff_exists.mpr ⟨reason, h.reason? hreason⟩

theorem reason?_eq_none_of_later {before after : Forest τ} (h : before.Later after) {number : Nat}
    (hactive : after.reason? number = none) : before.reason? number = none := by
  cases hreason : before.reason? number with
  | none => rfl
  | some reason =>
      rw [h.reason? hreason] at hactive
      cases hactive

/-! ### One piece of work -/

theorem token?_modify (forest : Forest τ) (number other : Nat) (f : Token τ → Token τ) :
    ({ forest with tokens := forest.tokens.modify number f } : Forest τ).token? other =
      if number = other then (forest.token? other).map f else forest.token? other := by
  unfold token?
  rw [List.getElem?_modify]
  by_cases h : number = other <;> simp [h]

theorem token?_mark (forest : Forest τ) (number other : Nat) (reason : String) :
    (forest.mark number reason).token? other =
      if number = other then
        (forest.token? other).map fun token => { token with reason := some reason, listeners := [] }
      else forest.token? other :=
  token?_modify forest number other _

theorem later_mark {forest : Forest τ} {number : Nat} {token : Token τ} (reason : String)
    (hfound : forest.token? number = some token) (hactive : token.active = true) :
    forest.Later (forest.mark number reason) := by
  refine ⟨rfl, fun other => ?_⟩
  rw [token?_mark]
  by_cases h : number = other
  · subst h
    rw [if_pos rfl, hfound]
    refine .some ⟨rfl, fun old hold => ?_, fun listener hl => ?_⟩
    · unfold Token.active at hactive
      rw [hold] at hactive
      cases hactive
    · cases hl
  · rw [if_neg h]
    exact (Later.refl forest).tokens other

/-- A token that is there and not active is cancelled. -/
theorem isCancelled_of_gone {forest : Forest τ} {number : Nat} {token : Token τ}
    (hfound : forest.token? number = some token) (hgone : token.active = false) :
    forest.isCancelled number = true := by
  unfold Token.active at hgone
  unfold isCancelled reason?
  rw [hfound]
  exact Option.isNone_eq_false_iff.mp hgone

theorem later_note (forest : Forest τ) (observer : Observer) (reason : String) :
    forest.Later (forest.note observer reason) :=
  ⟨rfl, (Later.refl forest).tokens⟩

theorem reason?_mark {forest : Forest τ} {number : Nat} {token : Token τ} (reason : String)
    (hfound : forest.token? number = some token) : (forest.mark number reason).reason? number = some reason := by
  unfold reason?
  rw [token?_mark, if_pos rfl, hfound]
  rfl

/-! ### Observers -/

end Forest

/-- Whether an observer finds the token that it looks up, if it does so. -/
def Observer.Knows (names : Keyed Nat) (observer : Observer) : Prop :=
  ∀ name, observer.also = some name → (names.get? name).isSome = true

theorem Observer.Knows.consequences {names : Keyed Nat} {observer : Observer} (h : observer.Knows names) :
    ∃ next, Work.consequences names observer = .ok next := by
  unfold Work.consequences
  cases halso : observer.also with
  | none => exact ⟨[], rfl⟩
  | some name =>
      obtain ⟨number, hnumber⟩ := Option.isSome_iff_exists.mp (h name halso)
      exact ⟨[.cancel number ("from " ++ observer.label)], by simp only [hnumber]⟩

/-- All that an observer sets in motion is the cancellation of a token with a name. -/
theorem Work.mem_consequences {names : Keyed Nat} {observer : Observer} {next : List Work} {work : Work}
    (h : Work.consequences names observer = .ok next) (hin : work ∈ next) :
    ∃ name number reason, names.get? name = some number ∧ work = .cancel number reason := by
  unfold Work.consequences at h
  split at h
  · cases h
    cases hin
  · split at h
    · rename_i number hnumber
      cases h
      exact ⟨_, number, _, hnumber, List.mem_singleton.mp hin⟩
    · cases h

/-- Whether every observer that is to be told finds the token that it looks up. -/
def Work.Answering (names : Keyed Nat) (works : List Work) : Prop :=
  ∀ observer reason, .notify observer reason ∈ works → observer.Knows names

namespace Forest

/-- Whether every observer of a forest finds the token that it looks up. -/
def Answering (forest : Forest τ) : Prop :=
  ∀ number token, forest.token? number = some token →
    ∀ observer, .observer observer ∈ token.listeners → observer.Knows forest.names

theorem Answering.of_later {before after : Forest τ} (h : before.Answering) (hlater : before.Later after) :
    after.Answering := by
  intro number token hfound observer hin
  obtain ⟨old, hold, htoken⟩ := hlater.exists_before hfound
  rw [hlater.names]
  exact h number old hold observer (htoken.listeners _ hin)

/-- What the listeners of a token set in motion is answered too. -/
theorem Answering.listeners {forest : Forest τ} (h : forest.Answering) {number : Nat} {token : Token τ}
    (hfound : forest.token? number = some token) {reason : String} {rest : List Work}
    (hrest : Work.Answering forest.names rest) :
    Work.Answering forest.names (token.listeners.map (Work.ofListener reason) ++ rest) := by
  intro observer why hin
  rcases List.mem_append.mp hin with hmap | hold
  · obtain ⟨listener, hlistener, heq⟩ := List.mem_map.mp hmap
    cases listener with
    | child other => cases heq
    | observer known =>
        cases heq
        exact h number token hfound _ hlistener
  · exact hrest observer why hold

/-! ### All of it -/

/-- Working off a cancellation only moves on. -/
theorem later_drain (forest : Forest τ) (works : List Work) : forest.Later (forest.drain works) := by
  fun_induction Forest.drain forest works with
  | case1 forest => exact Later.refl forest
  | case2 forest number reason rest hnone ih => exact ih
  | case3 forest number reason rest token hfound hactive hless ih => exact (later_mark reason hfound hactive).trans ih
  | case4 forest number reason rest token hfound hdone ih => exact ih
  | case5 forest observer reason rest name herror =>
      exact (later_note forest observer reason).trans ⟨rfl, (Later.refl _).tokens⟩
  | case6 forest observer reason rest next hnext hless ih => exact (later_note forest observer reason).trans ih

/-- Where observers find what they look up, nothing is missed, and all that is to be cancelled is. -/
theorem drain_answering {forest : Forest τ} {works : List Work} (hforest : forest.Answering)
    (hworks : Work.Answering forest.names works) :
    (forest.drain works).missed = forest.missed ∧
      ∀ number reason, .cancel number reason ∈ works → (forest.token? number).isSome = true →
        (forest.drain works).isCancelled number = true := by
  fun_induction Forest.drain forest works with
  | case1 forest => exact ⟨rfl, fun _ _ hin => by cases hin⟩
  | case2 forest number reason rest hnone ih =>
      obtain ⟨hmissed, hall⟩ := ih hforest fun observer why hin => hworks observer why (List.mem_cons_of_mem _ hin)
      refine ⟨hmissed, fun other why hin hsome => ?_⟩
      rcases List.mem_cons.mp hin with heq | hrest
      · cases heq
        rw [hnone] at hsome
        cases hsome
      · exact hall other why hrest hsome
  | case3 forest number reason rest token hfound hactive hless ih =>
      have hlater := later_mark reason hfound hactive
      have hrest : Work.Answering forest.names rest :=
        fun observer why hin => hworks observer why (List.mem_cons_of_mem _ hin)
      obtain ⟨hmissed, hall⟩ := ih (hforest.of_later hlater) (hforest.listeners hfound hrest)
      refine ⟨hmissed, fun other why hin hsome => ?_⟩
      rcases List.mem_cons.mp hin with heq | hrest
      · cases heq
        refine (later_drain _ _).isCancelled ?_
        unfold isCancelled
        rw [reason?_mark reason hfound]
        rfl
      · exact hall other why (List.mem_append_right _ hrest) (hlater.here hsome)
  | case4 forest number reason rest token hfound hdone ih =>
      obtain ⟨hmissed, hall⟩ := ih hforest fun observer why hin => hworks observer why (List.mem_cons_of_mem _ hin)
      refine ⟨hmissed, fun other why hin hsome => ?_⟩
      rcases List.mem_cons.mp hin with heq | hrest
      · cases heq
        exact (later_drain forest rest).isCancelled (isCancelled_of_gone hfound (Bool.eq_false_iff.mpr hdone))
      · exact hall other why hrest hsome
  | case5 forest observer reason rest name herror =>
      obtain ⟨next, hok⟩ := (hworks observer reason List.mem_cons_self).consequences
      rw [hok] at herror
      cases herror
  | case6 forest observer reason rest next hnext hless ih =>
      have hanswering : Work.Answering (forest.note observer reason).names (next ++ rest) := by
        intro other why hin
        rcases List.mem_append.mp hin with hnew | hold
        · obtain ⟨name, number, reason', hname, heq⟩ := Work.mem_consequences hnext hnew
          cases heq
        · exact hworks other why (List.mem_cons_of_mem _ hold)
      obtain ⟨hmissed, hall⟩ := ih hforest hanswering
      refine ⟨hmissed, fun other why hin hsome => ?_⟩
      rcases List.mem_cons.mp hin with heq | hrest
      · cases heq
      · exact hall other why (List.mem_append_right _ hrest) hsome

/-! ### Tokens out of reach -/

/-- Whether the tokens beyond `p` can be reached from `p` alone: names and links lead no further than
`p`, except for links from `p` itself, and nothing listens to a token beyond. -/
structure Sheltered (p : Nat) (forest : Forest τ) : Prop where
  names : ∀ name number, forest.names.get? name = some number → number ≤ p
  links : ∀ number token below, forest.token? number = some token → .child below ∈ token.listeners →
    number = p ∨ below ≤ p
  bare : ∀ number token, p < number → forest.token? number = some token → token.listeners = []

theorem Sheltered.of_later {p : Nat} {before after : Forest τ} (h : before.Sheltered p) (hlater : before.Later after) :
    after.Sheltered p where
  names name number hname := h.names name number (hlater.names ▸ hname)
  links number token below hfound hin := by
    obtain ⟨old, hold, htoken⟩ := hlater.exists_before hfound
    exact h.links number old below hold (htoken.listeners _ hin)
  bare number token hbeyond hfound := by
    obtain ⟨old, hold, htoken⟩ := hlater.exists_before hfound
    have hnone := h.bare number old hbeyond hold
    refine List.eq_nil_iff_forall_not_mem.mpr fun listener hin => ?_
    have hbefore := htoken.listeners listener hin
    rw [hnone] at hbefore
    cases hbefore

/-- Cancellations up to `p` that leave `p` active touch no token beyond it. -/
theorem drain_sheltered {p : Nat} {forest : Forest τ} {works : List Work} (hforest : forest.Sheltered p)
    (hworks : ∀ number reason, .cancel number reason ∈ works → number ≤ p)
    (hactive : (forest.drain works).reason? p = none) {beyond : Nat} (hbeyond : p < beyond) :
    (forest.drain works).token? beyond = forest.token? beyond := by
  fun_induction Forest.drain forest works with
  | case1 forest => rfl
  | case2 forest number reason rest hnone ih =>
      exact ih hforest (fun other why hin => hworks other why (List.mem_cons_of_mem _ hin)) hactive
  | case3 forest number reason rest token hfound hopen hless ih =>
      have hmarked := reason?_eq_none_of_later (later_drain _ _) hactive
      have hne : number ≠ p := fun heq => by
        subst heq
        rw [reason?_mark reason hfound] at hmarked
        cases hmarked
      have hle : number ≤ p := hworks number reason List.mem_cons_self
      rw [ih (hforest.of_later (later_mark reason hfound hopen)) ?_ hactive, token?_mark, if_neg (by omega)]
      intro other why hin
      rcases List.mem_append.mp hin with hnew | hold
      · obtain ⟨listener, hlistener, heq⟩ := List.mem_map.mp hnew
        cases listener with
        | observer known => cases heq
        | child below =>
            cases heq
            rcases hforest.links number token other hfound hlistener with hself | hbelow
            · exact absurd hself hne
            · exact hbelow
      · exact hworks other why (List.mem_cons_of_mem _ hold)
  | case4 forest number reason rest token hfound hdone ih =>
      exact ih hforest (fun other why hin => hworks other why (List.mem_cons_of_mem _ hin)) hactive
  | case5 forest observer reason rest name herror => rfl
  | case6 forest observer reason rest next hnext hless ih =>
      refine ih (hforest.of_later (later_note forest observer reason)) (fun other why hin => ?_) hactive
      rcases List.mem_append.mp hin with hnew | hold
      · obtain ⟨name, number, reason', hname, heq⟩ := Work.mem_consequences hnext hnew
        cases heq
        exact hforest.names name other hname
      · exact hworks other why (List.mem_cons_of_mem _ hold)

theorem cancel_none {forest : Forest τ} {number : Nat} (reason : String) (hnone : forest.token? number = none) :
    forest.cancel number reason = forest := by
  unfold cancel
  rw [drain]
  split
  · rw [drain]
  · rename_i token hsome
    rw [hsome] at hnone
    cases hnone

/-- To cancel a token that nothing listens to is to mark it. -/
theorem cancel_bare {forest : Forest τ} {number : Nat} {token : Token τ} (reason : String)
    (hfound : forest.token? number = some token) (hbare : token.listeners = []) :
    forest.cancel number reason = if token.active then forest.mark number reason else forest := by
  unfold cancel
  rw [drain]
  split
  · rename_i hnone
    rw [hnone] at hfound
    cases hfound
  · rename_i known hknown
    rw [hknown] at hfound
    cases hfound
    by_cases hopen : token.active = true
    · rw [dif_pos hopen, if_pos hopen, hbare, List.map_nil, List.nil_append, drain]
    · rw [dif_neg hopen, if_neg hopen, drain]

end Forest

end FixFirst
