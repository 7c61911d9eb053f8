import Mathlib.Logic.Relation
import FixFirst.Proofs.Token.Drain

/-!
# Exactly what a cancellation changes

Links lead from a token to the tokens that hang below it.  Where no observer acts on tokens, the
cancellation of a token ends that token and the active ones that links lead to, and no other one.

The work of a cancellation is a search of what links lead to, in which a token that is ended loses
its links.  What was reached through it is still reached, from the tokens that hung below it.

## Main definitions

* `Forest.Below`, `Forest.Reaches` — one link, and a path of them.
* `Forest.Bare` — cancelled tokens have no listeners.
* `Forest.Passive` — the observers that a cancellation reaches only take note.
* `Forest.Ended` — some tokens are ended for a reason, all others are as before.
* `Forest.Spread` — what the cancellation of one token is to do to each token.

## Main statements

* `Forest.ended_drain` — the tokens that work leads to are ended, if they are active.
* `Forest.cancel_spread` — what the cancellation of an active token does to each token.
-/

namespace FixFirst

variable {τ : Type}

/-- A token after its cancellation. -/
def Token.ended (reason : String) (token : Token τ) : Token τ := { token with reason := some reason, listeners := [] }

/-- A reason that was handed down is handed down as it is. -/
theorem Work.inherited_inherited (reason : String) : inherited (inherited reason) = inherited reason := by
  unfold inherited
  by_cases hempty : reason.isEmpty = true
  · rw [if_pos hempty]
    rfl
  · rw [if_neg hempty, if_neg hempty]

namespace Forest

/-! ### Links -/

/-- Whether a token hangs below another one. -/
def Below (forest : Forest τ) (above below : Nat) : Prop :=
  ∃ token, forest.token? above = some token ∧ .child below ∈ token.listeners

/-- Whether links lead from one token to another. -/
def Reaches (forest : Forest τ) : Nat → Nat → Prop := Relation.ReflTransGen forest.Below

/-- Whether cancelled tokens have no listeners. -/
def Bare (forest : Forest τ) : Prop :=
  ∀ number token, forest.token? number = some token → token.active = false → token.listeners = []

/-- Whether the observers of the tokens that links lead to do not act on tokens. -/
def Passive (forest : Forest τ) (start : Nat) : Prop :=
  ∀ number token observer, forest.Reaches start number → forest.token? number = some token →
    .observer observer ∈ token.listeners → observer.also = none

theorem token?_mark_self {forest : Forest τ} {number : Nat} {token : Token τ} (reason : String)
    (hfound : forest.token? number = some token) :
    (forest.mark number reason).token? number = some (token.ended reason) := by
  rw [token?_mark, if_pos rfl, hfound]
  rfl

theorem token?_mark_of_ne (forest : Forest τ) {number other : Nat} (reason : String) (hne : other ≠ number) :
    (forest.mark number reason).token? other = forest.token? other := by
  rw [token?_mark, if_neg (Ne.symm hne)]

theorem reason?_mark_of_ne (forest : Forest τ) {number other : Nat} (reason : String) (hne : other ≠ number) :
    (forest.mark number reason).reason? other = forest.reason? other := by
  unfold reason?
  rw [token?_mark_of_ne forest reason hne]

theorem isCancelled_mark {forest : Forest τ} {number : Nat} {token : Token τ} (reason : String)
    (hfound : forest.token? number = some token) : (forest.mark number reason).isCancelled number = true := by
  unfold isCancelled
  rw [reason?_mark reason hfound]
  rfl

theorem isCancelled_mark_of_ne (forest : Forest τ) {number other : Nat} (reason : String) (hne : other ≠ number) :
    (forest.mark number reason).isCancelled other = forest.isCancelled other := by
  unfold isCancelled
  rw [reason?_mark_of_ne forest reason hne]

theorem reason?_eq_none_iff {forest : Forest τ} {number : Nat} :
    forest.reason? number = none ↔ forest.isCancelled number = false := by
  unfold isCancelled
  cases forest.reason? number <;> simp

theorem Bare.mark {forest : Forest τ} (h : forest.Bare) (number : Nat) (reason : String) :
    (forest.mark number reason).Bare := by
  intro other token hfound hdone
  by_cases hsame : other = number
  · subst hsame
    rw [token?_mark, if_pos rfl] at hfound
    obtain ⟨old, -, rfl⟩ := Option.map_eq_some_iff.mp hfound
    rfl
  · rw [token?_mark_of_ne forest reason hsame] at hfound
    exact h other token hfound hdone

/-- Links lead nowhere from a token that is not there or that is cancelled. -/
theorem Bare.eq_of_reaches {forest : Forest τ} (h : forest.Bare) {start number : Nat}
    (hgone : ∀ token, forest.token? start = some token → token.active = false) (hpath : forest.Reaches start number) :
    number = start := by
  rcases Relation.ReflTransGen.cases_head hpath with heq | ⟨next, ⟨token, hfound, hin⟩, -⟩
  · exact heq.symm
  · rw [h start token hfound (hgone token hfound)] at hin
    cases hin

theorem below_mark {forest : Forest τ} {number above below : Nat} (reason : String) :
    (forest.mark number reason).Below above below ↔ above ≠ number ∧ forest.Below above below := by
  constructor
  · rintro ⟨token, hfound, hin⟩
    by_cases hsame : above = number
    · subst hsame
      rw [token?_mark, if_pos rfl] at hfound
      obtain ⟨old, -, rfl⟩ := Option.map_eq_some_iff.mp hfound
      cases hin
    · rw [token?_mark_of_ne forest reason hsame] at hfound
      exact ⟨hsame, token, hfound, hin⟩
  · rintro ⟨hne, token, hfound, hin⟩
    exact ⟨token, (token?_mark_of_ne forest reason hne).trans hfound, hin⟩

theorem Reaches.of_mark {forest : Forest τ} {number start finish : Nat} {reason : String}
    (h : (forest.mark number reason).Reaches start finish) : forest.Reaches start finish :=
  Relation.ReflTransGen.mono (fun _ _ hbelow => ((below_mark reason).mp hbelow).2) start finish h

/-- A path either avoids a token, or ends there, or goes on from a token below it without coming back. -/
theorem Reaches.mark {forest : Forest τ} (number : Nat) (reason : String) {start finish : Nat}
    (h : forest.Reaches start finish) :
    (forest.mark number reason).Reaches start finish ∨ finish = number ∨
      ∃ next, forest.Below number next ∧ (forest.mark number reason).Reaches next finish := by
  induction h with
  | refl => exact Or.inl .refl
  | @tail middle finish hpath hlink ih =>
      by_cases hsame : middle = number
      · subst hsame
        exact Or.inr (Or.inr ⟨finish, hlink, .refl⟩)
      · have hkept : (forest.mark number reason).Below middle finish := (below_mark reason).mpr ⟨hsame, hlink⟩
        rcases ih with havoid | hend | ⟨next, hnext, hrest⟩
        · exact Or.inl (havoid.tail hkept)
        · exact absurd hend hsame
        · exact Or.inr (Or.inr ⟨next, hnext, hrest.tail hkept⟩)

theorem Passive.mark {forest : Forest τ} {start : Nat} (h : forest.Passive start) (number : Nat) (reason : String) :
    (forest.mark number reason).Passive start := by
  intro other token observer hpath hfound hin
  by_cases hsame : other = number
  · subst hsame
    rw [token?_mark, if_pos rfl] at hfound
    obtain ⟨old, -, rfl⟩ := Option.map_eq_some_iff.mp hfound
    cases hin
  · rw [token?_mark_of_ne forest reason hsame] at hfound
    exact h other token observer hpath.of_mark hfound hin

theorem Passive.of_reaches {forest : Forest τ} {start next : Nat} (h : forest.Passive start)
    (hpath : forest.Reaches start next) : forest.Passive next :=
  fun number token observer hrest => h number token observer (hpath.trans hrest)

/-! ### What work leads to -/

/-- Whether a token is to be cancelled, or links lead to it from one that is. -/
def Leads (forest : Forest τ) (works : List Work) (number : Nat) : Prop :=
  ∃ start reason, .cancel start reason ∈ works ∧ forest.Reaches start number

/-- Whether work is all for one reason, and no observer that it reaches acts on tokens. -/
structure Plain (forest : Forest τ) (works : List Work) (why : String) : Prop where
  cancels : ∀ number reason, .cancel number reason ∈ works → reason = why ∧ forest.Passive number
  notices : ∀ observer reason, .notify observer reason ∈ works → observer.also = none

/-- Whether the active ones of some tokens are ended for a reason and all other tokens are as before. -/
structure Ended (before after : Forest τ) (reached : Nat → Prop) (why : String) : Prop where
  cancelled : ∀ number, reached number → before.reason? number = none →
    after.token? number = (before.token? number).map (Token.ended why)
  others : ∀ number, (reached number → before.isCancelled number = true) →
    after.token? number = before.token? number

theorem Plain.tail {forest : Forest τ} {work : Work} {rest : List Work} {why : String}
    (h : forest.Plain (work :: rest) why) : forest.Plain rest why :=
  ⟨fun number reason hin => h.cancels number reason (List.mem_cons_of_mem _ hin),
    fun observer reason hin => h.notices observer reason (List.mem_cons_of_mem _ hin)⟩

theorem Leads.cons {forest : Forest τ} {work : Work} {rest : List Work} {number : Nat}
    (h : forest.Leads rest number) : forest.Leads (work :: rest) number := by
  obtain ⟨start, reason, hin, hpath⟩ := h
  exact ⟨start, reason, List.mem_cons_of_mem _ hin, hpath⟩

/-- The listeners of a token lead to what is below it. -/
theorem mem_works_child {token : Token τ} {reason why : String} {below : Nat} :
    .cancel below why ∈ token.listeners.map (Work.ofListener reason) ↔
      why = Work.inherited reason ∧ .child below ∈ token.listeners := by
  constructor
  · intro hin
    obtain ⟨listener, hlistener, heq⟩ := List.mem_map.mp hin
    cases listener with
    | child number =>
        cases heq
        exact ⟨rfl, hlistener⟩
    | observer observer => cases heq
  · rintro ⟨rfl, hin⟩
    exact List.mem_map.mpr ⟨_, hin, rfl⟩

theorem mem_works_observer {token : Token τ} {reason why : String} {observer : Observer} :
    .notify observer why ∈ token.listeners.map (Work.ofListener reason) ↔
      why = reason ∧ .observer observer ∈ token.listeners := by
  constructor
  · intro hin
    obtain ⟨listener, hlistener, heq⟩ := List.mem_map.mp hin
    cases listener with
    | child number => cases heq
    | observer known =>
        cases heq
        exact ⟨rfl, hlistener⟩
  · rintro ⟨rfl, hin⟩
    exact List.mem_map.mpr ⟨_, hin, rfl⟩

/-- What the listeners of a token set in motion once the token is marked. -/
theorem Passive.plain {forest : Forest τ} {number : Nat} {token : Token τ} (h : forest.Passive number)
    (hfound : forest.token? number = some token) (reason : String) :
    (forest.mark number reason).Plain (token.listeners.map (Work.ofListener reason)) (Work.inherited reason) := by
  constructor
  · intro below why hin
    obtain ⟨rfl, hlink⟩ := mem_works_child.mp hin
    exact ⟨rfl, (h.of_reaches (.single ⟨token, hfound, hlink⟩)).mark number reason⟩
  · intro observer why hin
    obtain ⟨-, hobserver⟩ := mem_works_observer.mp hin
    exact h number token observer .refl hfound hobserver

theorem Plain.append {forest : Forest τ} {first second : List Work} {why : String} (h : forest.Plain first why)
    (h' : forest.Plain second why) : forest.Plain (first ++ second) why :=
  ⟨fun number reason hin => (List.mem_append.mp hin).elim (h.cancels number reason) (h'.cancels number reason),
    fun observer reason hin => (List.mem_append.mp hin).elim (h.notices observer reason) (h'.notices observer reason)⟩

theorem Plain.mark {forest : Forest τ} {works : List Work} {why : String} (h : forest.Plain works why) (number : Nat)
    (reason : String) : (forest.mark number reason).Plain works why :=
  ⟨fun other reason' hin => ⟨(h.cancels other reason' hin).1, (h.cancels other reason' hin).2.mark number reason⟩,
    h.notices⟩

/-- What is to be done after a token is marked leads to the same tokens as before, the marked one apart. -/
theorem leads_mark {forest : Forest τ} {number other : Nat} {token : Token τ} (rest : List Work) (reason : String)
    (hfound : forest.token? number = some token) (hne : other ≠ number) :
    (forest.mark number reason).Leads (token.listeners.map (Work.ofListener reason) ++ rest) other ↔
      forest.Leads (.cancel number reason :: rest) other := by
  constructor
  · rintro ⟨start, why, hin, hpath⟩
    rcases List.mem_append.mp hin with hnew | hold
    · obtain ⟨-, hlink⟩ := mem_works_child.mp hnew
      exact ⟨number, reason, List.mem_cons_self, .head ⟨token, hfound, hlink⟩ hpath.of_mark⟩
    · exact ⟨start, why, List.mem_cons_of_mem _ hold, hpath.of_mark⟩
  · -- A path through the marked token starts again at a token that hung below it.
    have hthrough : (∃ next, forest.Below number next ∧ (forest.mark number reason).Reaches next other) →
        (forest.mark number reason).Leads (token.listeners.map (Work.ofListener reason) ++ rest) other := by
      rintro ⟨next, ⟨known, hknown, hlink⟩, hrest⟩
      rw [hfound] at hknown
      cases hknown
      exact ⟨next, _, List.mem_append_left _ (mem_works_child.mpr ⟨rfl, hlink⟩), hrest⟩
    rintro ⟨start, why, hin, hpath⟩
    rcases hpath.mark number reason with havoid | hend | hgoes
    · rcases List.mem_cons.mp hin with heq | hold
      · cases heq
        rcases Relation.ReflTransGen.cases_head havoid with hsame | ⟨next, hlink, -⟩
        · exact absurd hsame.symm hne
        · exact absurd rfl ((below_mark reason).mp hlink).1
      · exact ⟨start, why, List.mem_append_right _ hold, havoid⟩
    · exact absurd hend hne
    · exact hthrough hgoes

/-- Work about a token that is not there or is cancelled leads nowhere else. -/
theorem Ended.cons_gone {forest after : Forest τ} {number : Nat} {reason why : String} {rest : List Work}
    (hbare : forest.Bare) (hgone : ∀ token, forest.token? number = some token → token.active = false)
    (h : forest.Ended after (forest.Leads rest) why) :
    forest.Ended after (forest.Leads (.cancel number reason :: rest)) why := by
  constructor
  · rintro other ⟨start, why', hin, hpath⟩ hactive
    rcases List.mem_cons.mp hin with heq | hold
    · cases heq
      obtain rfl := hbare.eq_of_reaches hgone hpath
      -- Such a token is not there, as it would be cancelled, and so it is as before.
      have hnone : forest.token? other = none := by
        cases hfound : forest.token? other with
        | none => rfl
        | some token =>
            have hdone := isCancelled_of_gone hfound (hgone token hfound)
            unfold isCancelled at hdone
            rw [hactive] at hdone
            cases hdone
      by_cases hlead : forest.Leads rest other
      · exact h.cancelled other hlead hactive
      · rw [h.others other fun hyes => absurd hyes hlead, hnone]
        rfl
    · exact h.cancelled other ⟨start, why', hold, hpath⟩ hactive
  · intro other himplies
    exact h.others other fun hlead => himplies hlead.cons

/-- Where no observer acts, work ends the active tokens that it leads to and changes no other token. -/
theorem ended_drain {forest : Forest τ} {works : List Work} {why : String} (hwhy : Work.inherited why = why)
    (hbare : forest.Bare) (hplain : forest.Plain works why) :
    forest.Ended (forest.drain works) (forest.Leads works) why := by
  fun_induction Forest.drain forest works with
  | case1 forest =>
      refine ⟨?_, fun number _ => rfl⟩
      rintro number ⟨start, reason, hin, -⟩
      cases hin
  | case2 forest number reason rest hnone ih =>
      refine (ih hbare hplain.tail).cons_gone hbare fun token hfound => ?_
      rw [hnone] at hfound
      cases hfound
  | case3 forest number reason rest token hfound hactive hless ih =>
      obtain ⟨rfl, hpassive⟩ := hplain.cancels number reason List.mem_cons_self
      have hnew := hpassive.plain hfound reason
      rw [hwhy] at hnew
      have hended := ih (hbare.mark number reason) (hnew.append (hplain.tail.mark number reason))
      have hreason : forest.reason? number = none := by
        unfold reason?
        rw [hfound]
        exact Option.isNone_iff_eq_none.mp hactive
      constructor
      · intro other hlead hopen
        by_cases hsame : other = number
        · subst hsame
          rw [hended.others other fun _ => isCancelled_mark reason hfound, token?_mark_self reason hfound, hfound]
          rfl
        · have hstill : (forest.mark number reason).reason? other = none :=
            (reason?_mark_of_ne forest reason hsame).trans hopen
          rw [hended.cancelled other ((leads_mark _ reason hfound hsame).mpr hlead) hstill,
            token?_mark_of_ne forest reason hsame]
      · intro other himplies
        have hne : other ≠ number := by
          rintro rfl
          have hdone := himplies ⟨other, reason, List.mem_cons_self, .refl⟩
          unfold isCancelled at hdone
          rw [hreason] at hdone
          cases hdone
        refine (hended.others other fun hlead => ?_).trans (token?_mark_of_ne forest reason hne)
        rw [isCancelled_mark_of_ne forest reason hne]
        exact himplies ((leads_mark _ reason hfound hne).mp hlead)
  | case4 forest number reason rest token hfound hdone ih =>
      refine (ih hbare hplain.tail).cons_gone hbare fun known hknown => ?_
      rw [hfound] at hknown
      cases hknown
      exact Bool.eq_false_iff.mpr hdone
  | case5 forest observer reason rest name herror =>
      unfold Work.consequences at herror
      rw [hplain.notices observer reason List.mem_cons_self] at herror
      cases herror
  | case6 forest observer reason rest next hnext hless ih =>
      have hquiet : next = [] := by
        unfold Work.consequences at hnext
        rw [hplain.notices observer reason List.mem_cons_self] at hnext
        exact (Except.ok.inj hnext).symm
      subst hquiet
      have hended := ih hbare ⟨hplain.tail.cancels, hplain.tail.notices⟩
      refine ⟨?_, fun other himplies => hended.others other fun hlead => himplies (Leads.cons hlead)⟩
      rintro other ⟨start, why', hin, hpath⟩ hopen
      rcases List.mem_cons.mp hin with heq | hold
      · cases heq
      · exact hended.cancelled other ⟨start, why', hold, hpath⟩ hopen

/-! ### The cancellation of a token -/

/-- Whether one token ended for a reason and the active tokens that links lead to ended for the reason
handed down, while all other tokens are as before. -/
structure Spread (before after : Forest τ) (start : Nat) (reason : String) : Prop where
  first : after.token? start = (before.token? start).map (Token.ended reason)
  reached : ∀ number, number ≠ start → before.Reaches start number → before.isCancelled number = false →
    after.token? number = (before.token? number).map (Token.ended (Work.inherited reason))
  others : ∀ number, number ≠ start → (before.Reaches start number → before.isCancelled number = true) →
    after.token? number = before.token? number

/-- The cancellation of an active token ends the active tokens that links lead to, and no other one. -/
theorem cancel_spread {forest : Forest τ} (hbare : forest.Bare) {start : Nat} {token : Token τ}
    (hfound : forest.token? start = some token) (hactive : token.active = true) (hpassive : forest.Passive start)
    (reason : String) : forest.Spread (forest.cancel start reason) start reason := by
  have hcancel : forest.cancel start reason =
      (forest.mark start reason).drain (token.listeners.map (Work.ofListener reason)) := by
    unfold cancel
    rw [drain]
    split
    · rename_i hnone
      rw [hfound] at hnone
      cases hnone
    · rename_i known hknown
      rw [hfound] at hknown
      cases hknown
      rw [dif_pos hactive, List.append_nil]
  have hended := ended_drain (Work.inherited_inherited reason) (hbare.mark start reason)
    (hpassive.plain hfound reason)
  rw [← hcancel] at hended
  have hleads : ∀ number, number ≠ start →
      ((forest.mark start reason).Leads (token.listeners.map (Work.ofListener reason)) number ↔
        forest.Reaches start number) := by
    intro number hne
    have hmark := leads_mark [] reason hfound hne
    rw [List.append_nil] at hmark
    refine hmark.trans ⟨?_, fun hpath => ⟨start, reason, List.mem_cons_self, hpath⟩⟩
    rintro ⟨other, why, hin, hpath⟩
    cases List.mem_singleton.mp hin
    exact hpath
  constructor
  · rw [hended.others start fun _ => isCancelled_mark reason hfound, token?_mark_self reason hfound, hfound]
    rfl
  · intro number hne hpath hopen
    rw [hended.cancelled number ((hleads number hne).mpr hpath)
      ((reason?_mark_of_ne forest reason hne).trans (reason?_eq_none_iff.mpr hopen)),
      token?_mark_of_ne forest reason hne]
  · intro number hne himplies
    refine (hended.others number fun hlead => ?_).trans (token?_mark_of_ne forest reason hne)
    rw [isCancelled_mark_of_ne forest reason hne]
    exact himplies ((hleads number hne).mp hlead)

end Forest

end FixFirst
