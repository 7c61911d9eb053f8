import FixFirst.Proofs.Token.Drain

/-!
# Forests that grow

A run adds tokens to a forest and hangs them below others.  This module says what the new forest
has of the old one, and that a forest whose links, names and observers lead to tokens stays one.

## Main definitions

* `Forest.Sound` — links, names and observers lead to tokens that exist.
* `Forest.grown`, `Forest.hung` — one more token, one more listener.

## Main statements

* `Forest.add_eq` — a new token as growth and hanging.
* `Forest.Sound.add`, `Forest.Sound.cancel` — what keeps a forest sound.
-/

namespace FixFirst

variable {τ : Type}

namespace Forest

/-! ### Sound forests -/

/-- Whether links, names and observers of a forest lead to tokens that exist. -/
structure Sound (forest : Forest τ) : Prop where
  names : ∀ name number, forest.names.get? name = some number → number < forest.tokens.length
  links : ∀ number token below, forest.token? number = some token → .child below ∈ token.listeners →
    below < forest.tokens.length
  answering : forest.Answering
  settled : forest.missed = none

theorem Sound.of_later {before after : Forest τ} (h : before.Sound) (hlater : before.Later after)
    (hsettled : after.missed = before.missed) : after.Sound where
  names name number hname := by
    rw [hlater.length]
    exact h.names name number (hlater.names ▸ hname)
  links number token below hfound hin := by
    obtain ⟨old, hold, htoken⟩ := hlater.exists_before hfound
    rw [hlater.length]
    exact h.links number old below hold (htoken.listeners _ hin)
  answering := h.answering.of_later hlater
  settled := hsettled.trans h.settled

theorem missed_cancel {forest : Forest τ} (h : forest.Answering) (number : Nat) (reason : String) :
    (forest.cancel number reason).missed = forest.missed :=
  (drain_answering h fun observer why hin => by simp at hin).1

theorem isCancelled_cancel {forest : Forest τ} (h : forest.Answering) {number : Nat} (reason : String)
    (hhere : (forest.token? number).isSome = true) : (forest.cancel number reason).isCancelled number = true :=
  (drain_answering h fun observer why hin => by simp at hin).2 number reason List.mem_cons_self hhere

theorem Sound.cancel {forest : Forest τ} (h : forest.Sound) (number : Nat) (reason : String) :
    (forest.cancel number reason).Sound :=
  h.of_later (later_drain _ _) (missed_cancel h.answering number reason)

/-- The forest with one more token, which nothing leads to. -/
def grown (forest : Forest τ) (token : Token τ) : Forest τ := { forest with tokens := forest.tokens ++ [token] }

theorem token?_grown (forest : Forest τ) (token : Token τ) (number : Nat) :
    (forest.grown token).token? number =
      if number = forest.tokens.length then some token else forest.token? number := by
  unfold grown token?
  by_cases h : number = forest.tokens.length
  · subst h
    simp
  · rw [if_neg h]
    rcases Nat.lt_or_gt_of_ne h with hlt | hgt
    · exact List.getElem?_append_left hlt
    · rw [List.getElem?_eq_none (by rw [List.length_append]; exact hgt), List.getElem?_eq_none (Nat.le_of_lt hgt)]

/-- A token of the grown forest is the new one or an old one. -/
theorem token?_grown_cases {forest : Forest τ} {new token : Token τ} {number : Nat}
    (h : (forest.grown new).token? number = some token) :
    (number = forest.tokens.length ∧ token = new) ∨ forest.token? number = some token := by
  rw [token?_grown] at h
  by_cases hlast : number = forest.tokens.length
  · rw [if_pos hlast] at h
    exact Or.inl ⟨hlast, (Option.some.inj h).symm⟩
  · rw [if_neg hlast] at h
    exact Or.inr h

theorem length_grown (forest : Forest τ) (token : Token τ) :
    (forest.grown token).tokens.length = forest.tokens.length + 1 := by
  simp [grown]

theorem reason?_grown (forest : Forest τ) {token : Token τ} (hactive : token.reason = none) (number : Nat) :
    (forest.grown token).reason? number = forest.reason? number := by
  unfold reason?
  rw [token?_grown]
  split
  · rename_i hlast
    have hnone : forest.token? number = none := List.getElem?_eq_none (Nat.le_of_eq hlast.symm)
    rw [hnone]
    exact hactive
  · rfl

theorem Sound.grown {forest : Forest τ} (h : forest.Sound) {token : Token τ} (hbare : token.listeners = []) :
    (forest.grown token).Sound where
  names name number hname := by
    have hlt := h.names name number hname
    simp only [Forest.grown, List.length_append, List.length_cons, List.length_nil]
    omega
  links number found below hfound hin := by
    rcases token?_grown_cases hfound with ⟨-, rfl⟩ | hold
    · rw [hbare] at hin
      cases hin
    · have hlt := h.links number found below hold hin
      simp only [Forest.grown, List.length_append, List.length_cons, List.length_nil]
      omega
  answering number found hfound observer hin := by
    rcases token?_grown_cases hfound with ⟨-, rfl⟩ | hold
    · rw [hbare] at hin
      cases hin
    · exact h.answering number found hold observer hin
  settled := h.settled

/-- The forest with one more listener to a token. -/
def hung (forest : Forest τ) (above : Nat) (listener : Listener) : Forest τ :=
  { forest with
    tokens := forest.tokens.modify above fun token => { token with listeners := token.listeners ++ [listener] } }

theorem listen_of_active {forest : Forest τ} {above : Nat} (h : forest.reason? above = none) (listener : Listener) :
    forest.listen above listener = forest.hung above listener := by
  unfold listen
  rw [h]
  rfl

/-- A token of the forest with one more listener is an old one, or it has this listener more. -/
theorem token?_hung_cases {forest : Forest τ} {above number : Nat} {new : Listener} {token : Token τ}
    (h : (forest.hung above new).token? number = some token) :
    ∃ old, forest.token? number = some old ∧ token.reason = old.reason ∧ token.deadline = old.deadline ∧
      ∀ listener ∈ token.listeners, listener ∈ old.listeners ∨ (number = above ∧ listener = new) := by
  unfold hung at h
  rw [token?_modify] at h
  by_cases hsame : above = number
  · rw [if_pos hsame] at h
    obtain ⟨old, hold, rfl⟩ := Option.map_eq_some_iff.mp h
    refine ⟨old, hold, rfl, rfl, fun listener hin => ?_⟩
    rcases List.mem_append.mp hin with hbefore | hnew
    · exact Or.inl hbefore
    · exact Or.inr ⟨hsame.symm, List.mem_singleton.mp hnew⟩
  · rw [if_neg hsame] at h
    exact ⟨token, h, rfl, rfl, fun listener hin => Or.inl hin⟩

/-- A change of tokens that keeps their reasons keeps the reason of each. -/
theorem reason?_modify {forest : Forest τ} {f : Token τ → Token τ} (hf : ∀ token, (f token).reason = token.reason)
    (above number : Nat) :
    ({ forest with tokens := forest.tokens.modify above f } : Forest τ).reason? number = forest.reason? number := by
  unfold reason?
  rw [token?_modify]
  split
  · cases forest.token? number with
    | none => rfl
    | some token => exact hf token
  · rfl

theorem deadline?_modify {forest : Forest τ} {f : Token τ → Token τ}
    (hf : ∀ token, (f token).deadline = token.deadline) (above number : Nat) :
    ({ forest with tokens := forest.tokens.modify above f } : Forest τ).deadline? number = forest.deadline? number := by
  unfold deadline?
  rw [token?_modify]
  split
  · cases forest.token? number with
    | none => rfl
    | some token => exact hf token
  · rfl

theorem Sound.hung {forest : Forest τ} (h : forest.Sound) (above : Nat) {below : Nat}
    (hbelow : below < forest.tokens.length) : (forest.hung above (.child below)).Sound where
  names name number hname := by
    have hlength : (forest.hung above (.child below)).tokens.length = forest.tokens.length := List.length_modify ..
    rw [hlength]
    exact h.names name number hname
  links number token other hfound hin := by
    have hlength : (forest.hung above (.child below)).tokens.length = forest.tokens.length := List.length_modify ..
    rw [hlength]
    obtain ⟨old, hold, -, -, hlisteners⟩ := token?_hung_cases hfound
    rcases hlisteners _ hin with hbefore | ⟨-, heq⟩
    · exact h.links number old other hold hbefore
    · cases heq
      exact hbelow
  answering number token hfound observer hin := by
    obtain ⟨old, hold, -, -, hlisteners⟩ := token?_hung_cases hfound
    rcases hlisteners _ hin with hbefore | ⟨-, heq⟩
    · exact h.answering number old hold observer hbefore
    · cases heq
  settled := h.settled

theorem Sound.listen {forest : Forest τ} (h : forest.Sound) (above : Nat) {below : Nat}
    (hbelow : below < forest.tokens.length) : (forest.listen above (.child below)).Sound := by
  cases hreason : forest.reason? above with
  | none =>
      rw [listen_of_active hreason]
      exact h.hung above hbelow
  | some reason =>
      unfold Forest.listen
      rw [hreason]
      exact h.cancel below (Work.inherited reason)

/-- To listen to a token is to cancel what would be told if the token is cancelled, else to be hung there. -/
theorem listen_cases (forest : Forest τ) (above : Nat) (listener : Listener) :
    forest.listen above listener = forest.hung above listener ∨
      ∃ works, forest.listen above listener = forest.drain works := by
  cases hreason : forest.reason? above with
  | none => exact Or.inl (listen_of_active hreason listener)
  | some reason =>
      refine Or.inr ⟨[Work.ofListener reason listener], ?_⟩
      unfold listen
      rw [hreason]

theorem reason?_hung (forest : Forest τ) (above number : Nat) (listener : Listener) :
    (forest.hung above listener).reason? number = forest.reason? number :=
  reason?_modify (by intro token; rfl) above number

theorem deadline?_hung (forest : Forest τ) (above number : Nat) (listener : Listener) :
    (forest.hung above listener).deadline? number = forest.deadline? number :=
  deadline?_modify (by intro token; rfl) above number

theorem length_listen (forest : Forest τ) (above : Nat) (listener : Listener) :
    (forest.listen above listener).tokens.length = forest.tokens.length := by
  rcases forest.listen_cases above listener with heq | ⟨works, heq⟩
  · rw [heq]
    exact List.length_modify ..
  · rw [heq]
    exact (later_drain forest works).length

theorem deadline?_listen (forest : Forest τ) (above number : Nat) (listener : Listener) :
    (forest.listen above listener).deadline? number = forest.deadline? number := by
  rcases forest.listen_cases above listener with heq | ⟨works, heq⟩
  · rw [heq, deadline?_hung]
  · rw [heq, (later_drain forest works).deadline?]

variable [Quantity τ]

/-- A new token comes last, without listeners and not cancelled; one below another token listens to it. -/
theorem add_eq (forest : Forest τ) (parent : Option Nat) (deadline : Option τ) :
    ∃ token, token.listeners = [] ∧ token.reason = none ∧ (deadline.isSome = true → token.deadline.isSome = true) ∧
      forest.add parent deadline = (forest.tokens.length, match parent with
        | none => forest.grown token
        | some above => (forest.grown token).listen above (.child forest.tokens.length)) := by
  cases parent with
  | none => exact ⟨⟨none, deadline, none, []⟩, rfl, rfl, fun h => h, rfl⟩
  | some above =>
      refine ⟨⟨some above, capped deadline (forest.deadline? above), none, []⟩, rfl, rfl, fun h => ?_, rfl⟩
      obtain ⟨own, rfl⟩ := Option.isSome_iff_exists.mp h
      cases hother : forest.deadline? above <;> rfl

theorem fst_add (forest : Forest τ) (parent : Option Nat) (deadline : Option τ) :
    (forest.add parent deadline).1 = forest.tokens.length := by
  obtain ⟨token, -, -, -, heq⟩ := forest.add_eq parent deadline
  rw [heq]

theorem length_add (forest : Forest τ) (parent : Option Nat) (deadline : Option τ) :
    (forest.add parent deadline).2.tokens.length = forest.tokens.length + 1 := by
  obtain ⟨token, -, -, -, heq⟩ := forest.add_eq parent deadline
  rw [heq]
  cases parent with
  | none => exact forest.length_grown token
  | some above => exact (length_listen _ _ _).trans (forest.length_grown token)

theorem Sound.add {forest : Forest τ} (h : forest.Sound) (parent : Option Nat) (deadline : Option τ) :
    (forest.add parent deadline).2.Sound := by
  obtain ⟨token, hbare, -, -, heq⟩ := forest.add_eq parent deadline
  rw [heq]
  cases parent with
  | none => exact h.grown hbare
  | some above =>
      refine (h.grown hbare).listen above ?_
      rw [length_grown]
      exact Nat.lt_succ_self _

/-- A token that is added with a deadline has one. -/
theorem deadline?_add (forest : Forest τ) (parent : Option Nat) (deadline : τ) :
    ((forest.add parent (some deadline)).2.deadline? forest.tokens.length).isSome = true := by
  obtain ⟨token, -, -, hdeadline, heq⟩ := forest.add_eq parent (some deadline)
  have hgrown : (forest.grown token).deadline? forest.tokens.length = token.deadline := by
    unfold deadline?
    rw [token?_grown, if_pos rfl]
    rfl
  rw [heq]
  cases parent with
  | none =>
      rw [hgrown]
      exact hdeadline rfl
  | some above =>
      simp only
      rw [deadline?_listen, hgrown]
      exact hdeadline rfl

theorem deadline?_add_of_lt (forest : Forest τ) (parent : Option Nat) (deadline : Option τ) {number : Nat}
    (hold : number < forest.tokens.length) :
    (forest.add parent deadline).2.deadline? number = forest.deadline? number := by
  obtain ⟨token, -, -, -, heq⟩ := forest.add_eq parent deadline
  have hgrown : (forest.grown token).deadline? number = forest.deadline? number := by
    unfold deadline?
    rw [token?_grown, if_neg (Nat.ne_of_lt hold)]
  rw [heq]
  cases parent with
  | none => exact hgrown
  | some above => exact (deadline?_listen _ above number _).trans hgrown

end Forest

end FixFirst
