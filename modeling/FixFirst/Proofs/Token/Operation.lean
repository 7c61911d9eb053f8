import Mathlib
import FixFirst.Proofs.Token.Listeners

/-!
# Whatever is done with tokens

Tokens are made, below others or not, cancelled, detached, observed and named, in any order.  Every
forest that comes of it is orderly, and that is enough to say which way cancellations go: down the
links that are there, never up or sideways, and once.

An observer may cancel a token by name when it is told.  The sequences considered here are those in
which every observer that is told comes back; one that only takes note always does.

## Main definitions

* `Operation` — what is done with the tokens of a forest.
* `Forest.Goes` — a sequence of operations, each allowed in the forest it is done in.
* `Forest.Orderly` — what holds of every forest that operations lead to.
* `Forest.Noting` — whether observers only take note.

## Main statements

* `Forest.Orderly.operation`, `Forest.Goes.keeps` — one operation, and a sequence of them.
* `Forest.Noting.goes`, `Forest.goes_of_taciturn` — where observers only take note, all that is possible is
  such a sequence.
* `cancellation_goes_down` — reasons stay, tokens below a cancelled one are cancelled, a cancellation
  changes what links lead to and nothing else, and an observer is told once.
-/

namespace FixFirst

open Relation

variable {τ : Type}

namespace Forest

/-! ### Operations in terms of the three changes -/

theorem listen_of_cancelled {forest : Forest τ} {above : Nat} {reason : String}
    (h : forest.reason? above = some reason) (listener : Listener) :
    forest.listen above listener = forest.drain [Work.ofListener reason listener] := by
  unfold listen
  rw [h]

theorem listen_eq_relistened {forest : Forest τ} {above : Nat} (h : forest.reason? above = none) (listener : Listener) :
    forest.listen above listener = forest.relistened above (· ++ [listener]) :=
  listen_of_active h listener

theorem unobserve_eq (forest : Forest τ) (number id : Nat) :
    forest.unobserve number id =
      forest.relistened number fun listeners => listeners.filter fun listener => !listener.hears id := by
  unfold unobserve dropListeners relistened
  congr

theorem detach_of_root {forest : Forest τ} {number : Nat} (h : forest.parent? number = none) :
    forest.detach number = forest := by
  unfold parent? at h
  unfold detach
  rw [h]

theorem detach_of_child {forest : Forest τ} {number above : Nat} (h : forest.parent? number = some above) :
    forest.detach number =
      forest.relistened above fun listeners => listeners.filter fun listener => !(listener == .child number) := by
  unfold parent? at h
  unfold detach
  rw [h]
  rfl

/-! ### The shape of a forest -/

/-- Whether cancelled tokens have no listeners, tokens hang only where they were made, and a token is older
than what was made below it. -/
structure Shaped (forest : Forest τ) : Prop where
  bare : forest.Bare
  links : ∀ above below, forest.Below above below → forest.parent? below = some above
  parents : ∀ number above, forest.parent? number = some above → above < number

theorem Shaped.grown {forest : Forest τ} (h : forest.Shaped) {token : Token τ} (hbare : token.listeners = [])
    (hparent : ∀ above, token.parent = some above → above < forest.tokens.length) : (forest.grown token).Shaped where
  bare := h.bare.grown hbare
  links above below hlink := by
    have hparent := h.links above below ((below_grown hbare).mp hlink)
    have hne : below ≠ forest.tokens.length := by
      rintro rfl
      unfold parent? token? at hparent
      rw [List.getElem?_eq_none (Nat.le_refl _)] at hparent
      cases hparent
    rw [parent?_grown, if_neg hne]
    exact hparent
  parents number above habove := by
    rw [parent?_grown] at habove
    split at habove
    · rename_i hlast
      rw [hlast]
      exact hparent above habove
    · exact h.parents number above habove

theorem Shaped.drain {forest : Forest τ} (h : forest.Shaped) (works : List Work) : (forest.drain works).Shaped where
  bare := h.bare.drain works
  links above below hlink := by
    obtain ⟨token, hfound, hin⟩ := hlink
    obtain ⟨old, hold, hlater⟩ := (later_drain forest works).exists_before hfound
    rw [parent?_drain]
    exact h.links above below ⟨old, hold, hlater.listeners _ hin⟩
  parents number above habove := by
    rw [parent?_drain] at habove
    exact h.parents number above habove

theorem Shaped.relistened {forest : Forest τ} (h : forest.Shaped) {number : Nat} {f : List Listener → List Listener}
    (hnil : f [] = [] ∨ forest.isCancelled number = false)
    (hlinks : ∀ listeners below, .child below ∈ f listeners →
      .child below ∈ listeners ∨ forest.parent? below = some number) : (forest.relistened number f).Shaped where
  bare := h.bare.relistened hnil
  links above below hlink := by
    rw [parent?_relistened]
    rcases below_relistened_cases hlink with hold | ⟨rfl, token, hfound, hin⟩
    · exact h.links above below hold
    · rcases hlinks token.listeners below hin with hbefore | hparent
      · exact h.links above below ⟨token, hfound, hbefore⟩
      · exact hparent
  parents other above habove := by
    rw [parent?_relistened] at habove
    exact h.parents other above habove

theorem Shaped.filtered {forest : Forest τ} (h : forest.Shaped) (number : Nat) (keep : Listener → Bool) :
    (forest.relistened number (List.filter keep)).Shaped :=
  h.relistened (Or.inl rfl) fun _ _ hin => Or.inl (List.mem_filter.mp hin).1

theorem Shaped.listen {forest : Forest τ} (h : forest.Shaped) {number : Nat} {listener : Listener}
    (hlink : ∀ below, listener = .child below → forest.parent? below = some number) :
    (forest.listen number listener).Shaped := by
  cases hreason : forest.reason? number with
  | none =>
      rw [listen_eq_relistened hreason]
      refine h.relistened (Or.inr (reason?_eq_none_iff.mp hreason)) fun listeners below hin => ?_
      rcases List.mem_append.mp hin with hold | hnew
      · exact Or.inl hold
      · exact Or.inr (hlink below (List.mem_singleton.mp hnew).symm)
  | some reason =>
      rw [listen_of_cancelled hreason]
      exact h.drain _

/-- A token reaches only itself and younger tokens. -/
theorem Shaped.le_of_reaches {forest : Forest τ} (h : forest.Shaped) {start number : Nat}
    (hpath : forest.Reaches start number) : start ≤ number := by
  induction hpath with
  | refl => exact Nat.le_refl _
  | tail _ hlink ih => exact Nat.le_trans ih (Nat.le_of_lt (h.parents _ _ (h.links _ _ hlink)))

/-- Whether a token was made below another one, at whatever distance. -/
def Over (forest : Forest τ) : Nat → Nat → Prop := TransGen fun above below => forest.parent? below = some above

theorem Shaped.lt_of_over {forest : Forest τ} (h : forest.Shaped) {above number : Nat}
    (hover : forest.Over above number) : above < number := by
  induction hover with
  | single hparent => exact h.parents _ _ hparent
  | tail _ hparent ih => exact Nat.lt_trans ih (h.parents _ _ hparent)

theorem Shaped.not_reaches_over {forest : Forest τ} (h : forest.Shaped) {above number : Nat}
    (hover : forest.Over above number) : ¬ forest.Reaches number above :=
  fun hpath => absurd (h.le_of_reaches hpath) (Nat.not_le_of_lt (h.lt_of_over hover))

/-- Links do not lead to a token made below the same one: the last link would come from there. -/
theorem Shaped.not_reaches_sibling {forest : Forest τ} (h : forest.Shaped) {above number sibling : Nat}
    (hnumber : forest.parent? number = some above) (hsibling : forest.parent? sibling = some above)
    (hne : sibling ≠ number) : ¬ forest.Reaches number sibling := by
  intro hpath
  rcases ReflTransGen.cases_tail hpath with heq | ⟨last, hrest, hlink⟩
  · exact hne heq
  · have hlast := (h.links last sibling hlink).symm.trans hsibling
    cases hlast
    exact absurd (h.le_of_reaches hrest) (Nat.not_le_of_lt (h.parents number above hnumber))

/-! ### A token below another one -/

variable {above below : Nat}

theorem Shaped.linked_drain {forest : Forest τ} (h : forest.Shaped) (hlinked : forest.Linked above below)
    {works : List Work} (hback : (forest.drain works).missed = none) : (forest.drain works).Linked above below := by
  refine linked_drain_of_pending (hlinked.here fun other hlink => ?_) (Or.inl hlinked) hback
  rw [h.links above other hlink]
  rfl

theorem Shaped.linked_listen {forest : Forest τ} (h : forest.Shaped) (hlinked : forest.Linked above below)
    {number : Nat} {listener : Listener} (hback : (forest.listen number listener).missed = none) :
    (forest.listen number listener).Linked above below := by
  cases hreason : forest.reason? number with
  | none =>
      rw [listen_eq_relistened hreason]
      exact hlinked.relistened fun _ _ listeners hin => List.mem_append_left _ hin
  | some reason =>
      rw [listen_of_cancelled hreason] at hback ⊢
      exact h.linked_drain hlinked hback

/-! ### An observer of a token -/

variable {number id total : Nat}

theorem Owed.listen {forest : Forest τ} (h : forest.Owed [] number id total) {place : Nat} {listener : Listener}
    (hother : listener.hears id = false) (hback : (forest.listen place listener).missed = none) :
    (forest.listen place listener).Owed [] number id total := by
  cases hreason : forest.reason? place with
  | none =>
      rw [listen_eq_relistened hreason]
      refine h.relistened fun token _ => ?_
      rw [List.countP_append, List.countP_singleton, hother]
      rfl
  | some reason =>
      rw [listen_of_cancelled hreason] at hback ⊢
      refine Owed.drain (h.of_countP ?_) hback
      have htells := Work.countP_tells_map id reason [listener]
      rw [List.countP_singleton, hother] at htells
      exact htells

/-- To take back another registration, or one that is gone, changes nothing. -/
theorem Owed.unobserve {forest : Forest τ} (h : forest.Owed [] number id total) {place other : Nat}
    (hgone : other = id → forest.waiting place id = 0) : (forest.unobserve place other).Owed [] number id total := by
  rw [unobserve_eq]
  refine h.relistened fun token hfound => ?_
  rw [List.countP_filter]
  by_cases hsame : other = id
  · have hnone := hgone hsame
    rw [waiting_of_found hfound] at hnone
    rw [hnone]
    refine List.countP_eq_zero.mpr fun listener hin => ?_
    have hdeaf := List.countP_eq_zero.mp hnone listener hin
    simp [hdeaf]
  · refine List.countP_congr fun listener _ => ?_
    cases listener with
    | child token => simp [Listener.hears]
    | observer known =>
        simp only [Listener.hears, Bool.and_eq_true, beq_iff_eq, Bool.not_eq_true', beq_eq_false_iff_ne, and_iff_left_iff_imp]
        rintro rfl
        exact Ne.symm hsame

/-- A registration that is taken back in time is never acted on. -/
theorem Owed.withdrawn {forest : Forest τ} (h : forest.Owed [] number id total)
    (hopen : forest.isCancelled number = false) : (forest.unobserve number id).Owed [] number id 0 := by
  have hsilent : forest.told id + 0 = 0 := h.before hopen
  have hcancelled : (forest.unobserve number id).isCancelled number = false := by
    rw [unobserve_eq, isCancelled_relistened]
    exact hopen
  have hwaiting : (forest.unobserve number id).waiting number id = 0 := by
    unfold waiting
    cases hfound : (forest.unobserve number id).token? number with
    | none => rfl
    | some token =>
        rw [unobserve_eq] at hfound
        obtain ⟨old, -, -, hlisteners⟩ := token?_relistened_cases hfound
        rw [if_pos rfl] at hlisteners
        simp only [hlisteners]
        refine List.countP_eq_zero.mpr fun listener hin => ?_
        simpa using (List.mem_filter.mp hin).2
  constructor
  · intro other hne
    have hother := h.only other hne
    unfold waiting at hother ⊢
    rw [unobserve_eq, token?_relistened, if_neg (Ne.symm hne)]
    exact hother
  · rw [hwaiting]
    exact hsilent
  · intro _
    exact hsilent
  · intro _
    exact hwaiting

/-- An observer that comes to listen is told once. -/
theorem Owed.listen_own {forest : Forest τ} (observer : Observer) (h : forest.Owed [] number observer.id 0)
    (hhere : number < forest.tokens.length) (hback : (forest.listen number (.observer observer)).missed = none) :
    (forest.listen number (.observer observer)).Owed [] number observer.id 1 := by
  have hcount : forest.told observer.id + 0 + forest.waiting number observer.id = 0 := h.count
  have htold : forest.told observer.id = 0 := by omega
  have hwaiting : forest.waiting number observer.id = 0 := by omega
  have hears : Listener.hears observer.id (.observer observer) = true := beq_self_eq_true _
  cases hreason : forest.reason? number with
  | none =>
      rw [listen_eq_relistened hreason]
      have hfound : forest.token? number = some (forest.tokens.get ⟨number, hhere⟩) := List.getElem?_eq_getElem hhere
      have hnow : (forest.relistened number (· ++ [.observer observer])).waiting number observer.id = 1 := by
        rw [waiting_of_found (by rw [token?_relistened, if_pos rfl, hfound]; rfl)]
        rw [List.countP_append, List.countP_singleton, hears, ← waiting_of_found hfound, hwaiting]
        rfl
      constructor
      · intro other hne
        have hother := h.only other hne
        unfold waiting at hother ⊢
        rw [token?_relistened, if_neg (Ne.symm hne)]
        exact hother
      · rw [hnow]
        show forest.told observer.id + 0 + 1 = 1
        omega
      · intro _
        exact htold
      · intro hdone
        rw [isCancelled_relistened, reason?_eq_none_iff.mp hreason] at hdone
        cases hdone
  | some reason =>
      rw [listen_of_cancelled hreason] at hback ⊢
      have hpending : [Work.ofListener reason (.observer observer)].countP (Work.tells observer.id) = 1 := by
        have htells := Work.countP_tells_map observer.id reason [.observer observer]
        rw [List.countP_singleton, hears] at htells
        exact htells
      refine Owed.drain ⟨h.only, ?_, fun hopen => ?_, fun _ => hwaiting⟩ hback
      · rw [hpending]
        omega
      · rw [← reason?_eq_none_iff, hreason] at hopen
        cases hopen

/-! ### Orderly forests -/

/-- Whether a forest has its shape, and nothing was told to observers that are still to come. -/
structure Orderly (forest : Forest τ) : Prop extends forest.Shaped where
  fresh : ∀ id number, forest.observers ≤ id → forest.Owed [] number id 0

theorem orderly_empty : (Forest.empty : Forest τ).Orderly where
  bare number token hfound := by cases hfound
  links above below hlink := by
    obtain ⟨token, hfound, -⟩ := hlink
    cases hfound
  parents number above hparent := by cases hparent
  fresh id number _ := by
    refine ⟨fun other _ => rfl, rfl, fun _ => rfl, fun _ => rfl⟩

theorem observers_listen (forest : Forest τ) (number : Nat) (listener : Listener) :
    (forest.listen number listener).observers = forest.observers := by
  rcases forest.listen_cases number listener with heq | ⟨works, heq⟩
  · rw [heq]
    rfl
  · rw [heq]
    exact observers_drain forest works

theorem reason?_listen {forest : Forest τ} {token : Nat} {reason : String} (h : forest.reason? token = some reason)
    (number : Nat) (listener : Listener) : (forest.listen number listener).reason? token = some reason := by
  rcases forest.listen_cases number listener with heq | ⟨works, heq⟩
  · rw [heq, reason?_hung]
    exact h
  · rw [heq]
    exact (later_drain forest works).reason? h

end Forest

/-! ### Observers that only take note -/

/-- Whether a listener does no more than take note, if it is an observer. -/
def Listener.Taciturn (listener : Listener) : Prop := ∀ observer, listener = .observer observer → observer.also = none

namespace Forest

/-- Whether all observers of a forest only take note, and none has looked up anything in vain. -/
structure Noting (forest : Forest τ) : Prop where
  listeners : ∀ number token, forest.token? number = some token → ∀ listener ∈ token.listeners, listener.Taciturn
  settled : forest.missed = none

theorem noting_empty : (Forest.empty : Forest τ).Noting :=
  ⟨fun _ _ hfound => (by cases hfound), rfl⟩

theorem Noting.answering {forest : Forest τ} (h : forest.Noting) : forest.Answering := by
  intro number token hfound observer hin name halso
  rw [h.listeners number token hfound _ hin observer rfl] at halso
  cases halso

theorem Noting.grown {forest : Forest τ} (h : forest.Noting) {token : Token τ} (hbare : token.listeners = []) :
    (forest.grown token).Noting where
  listeners number found hfound listener hin := by
    rcases token?_grown_cases hfound with ⟨-, rfl⟩ | hold
    · rw [hbare] at hin
      cases hin
    · exact h.listeners number found hold listener hin
  settled := h.settled

theorem Noting.relistened {forest : Forest τ} (h : forest.Noting) (number : Nat) {f : List Listener → List Listener}
    (hlisteners : ∀ listeners, ∀ listener ∈ f listeners, listener ∈ listeners ∨ listener.Taciturn) :
    (forest.relistened number f).Noting where
  listeners other token hfound listener hin := by
    obtain ⟨old, hold, -, hsame⟩ := token?_relistened_cases hfound
    rw [hsame] at hin
    split at hin
    · exact (hlisteners _ listener hin).elim (h.listeners other old hold listener) id
    · exact h.listeners other old hold listener hin
  settled := h.settled

/-- Observers that only take note all come back. -/
theorem Noting.drain {forest : Forest τ} (h : forest.Noting) {works : List Work}
    (hworks : Work.Answering forest.names works) : (forest.drain works).Noting where
  listeners number token hfound listener hin := by
    obtain ⟨old, hold, hlater⟩ := (later_drain forest works).exists_before hfound
    exact h.listeners number old hold listener (hlater.listeners _ hin)
  settled := (drain_answering h.answering hworks).1.trans h.settled

theorem Noting.listen {forest : Forest τ} (h : forest.Noting) (number : Nat) {listener : Listener}
    (hlistener : listener.Taciturn) : (forest.listen number listener).Noting := by
  cases hreason : forest.reason? number with
  | none =>
      rw [listen_eq_relistened hreason]
      refine h.relistened number fun listeners other hin => ?_
      rcases List.mem_append.mp hin with hold | hnew
      · exact Or.inl hold
      · rw [List.mem_singleton.mp hnew]
        exact Or.inr hlistener
  | some reason =>
      rw [listen_of_cancelled hreason]
      refine h.drain fun observer why hin name halso => ?_
      cases listener with
      | child token =>
          have hcancel := List.mem_singleton.mp hin
          cases hcancel
      | observer known =>
          obtain rfl : observer = known := by
            have hnotify := List.mem_singleton.mp hin
            injection hnotify
          rw [hlistener observer rfl] at halso
          cases halso

end Forest

/-! ### One operation -/

/-- What is done with the tokens of a forest. -/
inductive Operation (τ : Type) where
  | root (deadline : Option τ)
  | child (above : Nat) (deadline : Option τ)
  | cancel (token : Nat) (reason : String)
  | detach (token : Nat)
  | observe (token : Nat) (label : String) (also : Option String)
  | unobserve (token id : Nat)
  | call (name : String) (token : Nat)

variable [Quantity τ]

namespace Operation

/-- Whether the token that an operation registers something at exists. -/
def Valid (forest : Forest τ) : Operation τ → Prop
  | .child token _ | .observe token .. => token < forest.tokens.length
  | .root _ | .cancel .. | .detach _ | .unobserve .. | .call .. => True

/-- Whether an operation registers no observer that does more than take note. -/
def Taciturn (op : Operation τ) : Prop := ∀ token label also, op = .observe token label also → also = none

/-- The forest after an operation. -/
def on (forest : Forest τ) : Operation τ → Forest τ
  | .root deadline => (forest.add none deadline).2
  | .child above deadline => (forest.add (some above) deadline).2
  | .cancel token reason => forest.cancel token reason
  | .detach token => forest.detach token
  | .observe token label also => (forest.observe token label also).2
  | .unobserve token id => forest.unobserve token id
  | .call name token => forest.call name token

end Operation

namespace Forest

/-- The token that is added for `parent`, before it hangs there. -/
def planted (forest : Forest τ) (above : Nat) (deadline : Option τ) : Forest τ :=
  forest.grown ⟨some above, capped deadline (forest.deadline? above), none, []⟩

theorem add_child_eq (forest : Forest τ) (above : Nat) (deadline : Option τ) :
    (forest.add (some above) deadline).2 =
      (forest.planted above deadline).listen above (.child forest.tokens.length) := rfl

theorem Shaped.planted {forest : Forest τ} (h : forest.Shaped) {above : Nat} (habove : above < forest.tokens.length)
    (deadline : Option τ) : (forest.planted above deadline).Shaped :=
  h.grown rfl fun other hparent => by
    cases hparent
    exact habove

theorem parent?_planted (forest : Forest τ) (above : Nat) (deadline : Option τ) :
    (forest.planted above deadline).parent? forest.tokens.length = some above := by
  unfold planted
  rw [parent?_grown, if_pos rfl]

/-- A cancelled token keeps its reason, whatever is done. -/
theorem reason?_operation {forest : Forest τ} {number : Nat} {reason : String}
    (h : forest.reason? number = some reason) (op : Operation τ) : (op.on forest).reason? number = some reason := by
  cases op with
  | root deadline => exact (forest.reason?_grown rfl number).trans h
  | child above deadline => exact reason?_listen ((forest.reason?_grown rfl number).trans h) above _
  | cancel token why => exact (later_drain forest _).reason? h
  | detach token =>
      show (forest.detach token).reason? number = some reason
      cases hparent : forest.parent? token with
      | none =>
          rw [detach_of_root hparent]
          exact h
      | some above =>
          rw [detach_of_child hparent, reason?_relistened]
          exact h
  | observe token label also =>
      have hcounted : ({ forest with observers := forest.observers + 1 } : Forest τ).reason? number = some reason := h
      exact reason?_listen hcounted token _
  | unobserve token id =>
      show (forest.unobserve token id).reason? number = some reason
      rw [unobserve_eq, reason?_relistened]
      exact h
  | call name token => exact h

theorem Shaped.operation {forest : Forest τ} (h : forest.Shaped) {op : Operation τ} (hvalid : op.Valid forest) :
    (op.on forest).Shaped := by
  cases op with
  | root deadline => exact h.grown rfl fun above hparent => by cases hparent
  | child above deadline =>
      refine (h.planted hvalid deadline).listen fun below heq => ?_
      cases heq
      exact forest.parent?_planted above deadline
  | cancel token reason => exact h.drain _
  | detach token =>
      show (forest.detach token).Shaped
      cases hparent : forest.parent? token with
      | none =>
          rw [detach_of_root hparent]
          exact h
      | some above =>
          rw [detach_of_child hparent]
          exact h.filtered above _
  | observe token label also =>
      have hnext : Shaped { forest with observers := forest.observers + 1 } := ⟨h.bare, h.links, h.parents⟩
      exact hnext.listen fun below heq => by cases heq
  | unobserve token id =>
      show (forest.unobserve token id).Shaped
      rw [unobserve_eq]
      exact h.filtered token _
  | call name token => exact ⟨h.bare, h.links, h.parents⟩

/-- What is below a token stays there or is cancelled, unless it is detached from an active token. -/
theorem Linked.operation {forest : Forest τ} {above below : Nat} (h : forest.Linked above below)
    (hshaped : forest.Shaped) {op : Operation τ} (hvalid : op.Valid forest)
    (hkeep : op = .detach below → forest.isCancelled above = true) (hback : (op.on forest).missed = none) :
    (op.on forest).Linked above below := by
  cases op with
  | root deadline => exact h.grown rfl rfl
  | child place deadline => exact (hshaped.planted hvalid deadline).linked_listen (h.grown rfl rfl) hback
  | cancel token reason => exact hshaped.linked_drain h hback
  | detach token =>
      show (forest.detach token).Linked above below
      cases hparent : forest.parent? token with
      | none =>
          rw [detach_of_root hparent]
          exact h
      | some place =>
          rw [detach_of_child hparent]
          refine h.relistened fun hopen _ listeners hin => List.mem_filter.mpr ⟨hin, ?_⟩
          have hne : below ≠ token := by
            rintro rfl
            rw [hkeep rfl] at hopen
            cases hopen
          simpa using hne
  | observe token label also =>
      have hnext : Shaped { forest with observers := forest.observers + 1 } :=
        ⟨hshaped.bare, hshaped.links, hshaped.parents⟩
      exact hnext.linked_listen h hback
  | unobserve token id =>
      show (forest.unobserve token id).Linked above below
      rw [unobserve_eq]
      exact h.relistened fun _ _ listeners hin => List.mem_filter.mpr ⟨hin, rfl⟩
  | call name token => exact h

/-- What is owed to an observer stays so, unless it is taken back in time. -/
theorem Owed.operation {forest : Forest τ} {number id total : Nat} (h : forest.Owed [] number id total)
    {op : Operation τ} (hnew : ∀ token label also, op = .observe token label also → id ≠ forest.observers)
    (hkeep : op = .unobserve number id → total = 0 ∨ forest.isCancelled number = true)
    (hback : (op.on forest).missed = none) : (op.on forest).Owed [] number id total := by
  cases op with
  | root deadline => exact h.grown rfl rfl
  | child place deadline => exact Owed.listen (h.grown rfl rfl) rfl hback
  | cancel token reason => exact Owed.drain (h.of_countP rfl) hback
  | detach token =>
      show (forest.detach token).Owed [] number id total
      cases hparent : forest.parent? token with
      | none =>
          rw [detach_of_root hparent]
          exact h
      | some place =>
          rw [detach_of_child hparent]
          refine h.relistened fun known _ => ?_
          rw [List.countP_filter]
          refine List.countP_congr fun listener _ => ?_
          cases listener with
          | child other => simp [Listener.hears]
          | observer known => simp
  | observe token label also =>
      have hnext : Owed { forest with observers := forest.observers + 1 } [] number id total :=
        ⟨h.only, h.count, h.before, h.after⟩
      refine hnext.listen ?_ hback
      exact beq_false_of_ne (Ne.symm (hnew token label also rfl))
  | unobserve token other =>
      refine h.unobserve ?_
      rintro rfl
      by_cases hsame : token = number
      · subst hsame
        rcases hkeep rfl with hzero | hdone
        · have hcount := h.count
          omega
        · exact h.after hdone
      · exact h.only token hsame
  | call name token => exact ⟨h.only, h.count, h.before, h.after⟩

theorem observers_operation (forest : Forest τ) (op : Operation τ) :
    forest.observers ≤ (op.on forest).observers ∧
      ∀ token label also, op = .observe token label also → (op.on forest).observers = forest.observers + 1 := by
  cases op with
  | root deadline => exact ⟨Nat.le_refl _, fun _ _ _ heq => by cases heq⟩
  | child above deadline =>
      refine ⟨Nat.le_of_eq ?_, fun _ _ _ heq => by cases heq⟩
      exact (observers_listen (forest.planted above deadline) above (.child forest.tokens.length)).symm
  | cancel token reason => exact ⟨Nat.le_of_eq (observers_drain forest _).symm, fun _ _ _ heq => by cases heq⟩
  | detach token =>
      refine ⟨Nat.le_of_eq ?_, fun _ _ _ heq => by cases heq⟩
      show forest.observers = (forest.detach token).observers
      unfold detach
      split <;> rfl
  | observe token label also =>
      have heq := observers_listen { forest with observers := forest.observers + 1 } token
        (.observer ⟨forest.observers, label, also⟩)
      exact ⟨Nat.le_trans (Nat.le_succ _) (Nat.le_of_eq heq.symm), fun _ _ _ _ => heq⟩
  | unobserve token id => exact ⟨Nat.le_refl _, fun _ _ _ heq => by cases heq⟩
  | call name token => exact ⟨Nat.le_refl _, fun _ _ _ heq => by cases heq⟩

theorem Orderly.operation {forest : Forest τ} (h : forest.Orderly) (op : Operation τ) (hvalid : op.Valid forest)
    (hback : (op.on forest).missed = none) : (op.on forest).Orderly where
  toShaped := h.toShaped.operation hvalid
  fresh id number hle := by
    obtain ⟨hgrows, hone⟩ := forest.observers_operation op
    refine (h.fresh id number (Nat.le_trans hgrows hle)).operation (fun token label also heq => ?_)
      (fun _ => Or.inl rfl) hback
    have hcount := hone token label also heq
    omega

/-! ### Sequences of operations -/

/-- One operation that is allowed and possible, in which every observer that is told comes back. -/
inductive Step (allowed : Forest τ → Operation τ → Prop) (forest : Forest τ) : Forest τ → Prop where
  | done (op : Operation τ) (allows : allowed forest op) (valid : op.Valid forest)
      (back : (op.on forest).missed = none) : Step allowed forest (op.on forest)

/-- Whether a sequence of operations, each one allowed, leads from one forest to another. -/
def Goes (allowed : Forest τ → Operation τ → Prop) : Forest τ → Forest τ → Prop := ReflTransGen (Step allowed)

/-- What every allowed operation keeps, a sequence of them keeps. -/
theorem Goes.keeps {allowed : Forest τ → Operation τ → Prop} {P : Forest τ → Prop} {before after : Forest τ}
    (h : Goes allowed before after) (horderly : before.Orderly) (hbefore : P before)
    (hstep : ∀ forest op, forest.Orderly → P forest → allowed forest op → op.Valid forest →
      (op.on forest).missed = none → P (op.on forest)) : after.Orderly ∧ P after := by
  induction h with
  | refl => exact ⟨horderly, hbefore⟩
  | tail _ hlast ih =>
      obtain ⟨hmiddle, hkept⟩ := ih
      obtain ⟨op, hallows, hvalid, hback⟩ := hlast
      exact ⟨hmiddle.operation op hvalid hback, hstep _ op hmiddle hkept hallows hvalid hback⟩

/-- Every operation. -/
def anything (_ : Forest τ) (_ : Operation τ) : Prop := True

/-- Every operation but to detach a token from an active one. -/
def attached (above below : Nat) (forest : Forest τ) (op : Operation τ) : Prop :=
  op = .detach below → forest.isCancelled above = true

/-- Every operation but to take back the registration of an observer of an active token. -/
def registered (number id : Nat) (forest : Forest τ) (op : Operation τ) : Prop :=
  op = .unobserve number id → forest.isCancelled number = true

theorem Goes.orderly {allowed : Forest τ → Operation τ → Prop} {before after : Forest τ}
    (h : Goes allowed before after) (horderly : before.Orderly) : after.Orderly :=
  (h.keeps (P := fun _ => True) horderly trivial fun _ _ _ _ _ _ _ => trivial).1

/-- What is owed to an observer stays so as long as it is not taken back in time. -/
theorem Goes.owed {allowed : Forest τ → Operation τ → Prop} {before after : Forest τ} {number id total : Nat}
    (h : Goes allowed before after) (horderly : before.Orderly) (howed : before.Owed [] number id total)
    (hknown : id < before.observers)
    (hkeep : ∀ forest, allowed forest (.unobserve number id) → total = 0 ∨ forest.isCancelled number = true) :
    after.Owed [] number id total := by
  refine (h.keeps (P := fun forest => forest.Owed [] number id total ∧ id < forest.observers) horderly
    ⟨howed, hknown⟩ ?_).2.1
  rintro forest op - ⟨hkept, hlt⟩ hallows - hback
  refine ⟨hkept.operation (fun _ _ _ _ => Nat.ne_of_lt hlt) (fun heq => ?_) hback, ?_⟩
  · rw [heq] at hallows
    exact hkeep forest hallows
  · exact Nat.lt_of_lt_of_le hlt (forest.observers_operation op).1

/-- A token is linked to the one it is made below. -/
theorem linked_add {forest : Forest τ} {above : Nat} {deadline : Option τ}
    (habove : above < forest.tokens.length) (hback : (forest.add (some above) deadline).2.missed = none) :
    (forest.add (some above) deadline).2.Linked above forest.tokens.length := by
  rw [add_child_eq] at hback ⊢
  have hhere : ((forest.planted above deadline).token? forest.tokens.length).isSome = true := by
    unfold planted
    rw [token?_grown, if_pos rfl]
    rfl
  cases hreason : (forest.planted above deadline).reason? above with
  | none =>
      rw [listen_eq_relistened hreason]
      refine Or.inr ⟨?_, ?_⟩
      · rw [isCancelled_relistened]
        exact reason?_eq_none_iff.mp hreason
      · obtain ⟨token, hfound⟩ : ∃ token, (forest.planted above deadline).token? above = some token := by
          refine ⟨_, List.getElem?_eq_getElem ?_⟩
          unfold planted
          rw [length_grown]
          exact Nat.lt_succ_of_lt habove
        refine ⟨{ token with listeners := token.listeners ++ [.child forest.tokens.length] }, ?_, ?_⟩
        · rw [token?_relistened, if_pos rfl, hfound]
          rfl
        · exact List.mem_append_right _ (List.mem_singleton_self _)
  | some reason =>
      rw [listen_of_cancelled hreason] at hback ⊢
      exact linked_drain_of_pending hhere (Or.inr ⟨Work.inherited reason, List.mem_singleton_self _⟩) hback

/-- Where observers only take note, every one that is told comes back, whatever is done. -/
theorem Noting.operation {forest : Forest τ} (h : forest.Noting) {op : Operation τ} (htaciturn : op.Taciturn) :
    (op.on forest).Noting := by
  cases op with
  | root deadline => exact h.grown rfl
  | child above deadline => exact Noting.listen (h.grown rfl) above fun observer heq => by cases heq
  | cancel token reason => exact h.drain fun observer why hin => (by simp at hin)
  | detach token =>
      show (forest.detach token).Noting
      cases hparent : forest.parent? token with
      | none =>
          rw [detach_of_root hparent]
          exact h
      | some above =>
          rw [detach_of_child hparent]
          exact h.relistened above fun _ _ hin => Or.inl (List.mem_filter.mp hin).1
  | observe token label also =>
      have hnext : Noting { forest with observers := forest.observers + 1 } := ⟨h.listeners, h.settled⟩
      refine hnext.listen token fun observer heq => ?_
      cases heq
      exact htaciturn token label also rfl
  | unobserve token id =>
      show (forest.unobserve token id).Noting
      rw [unobserve_eq]
      exact h.relistened token fun _ _ hin => Or.inl (List.mem_filter.mp hin).1
  | call name token => exact ⟨h.listeners, h.settled⟩

/-- Whether each operation is possible when its turn comes. -/
def Possible : Forest τ → List (Operation τ) → Prop
  | _, [] => True
  | forest, op :: rest => op.Valid forest ∧ Possible (op.on forest) rest

/-- That every observer comes back is no restriction where observers only take note: all that is possible is a sequence
of operations. -/
theorem Noting.goes {forest : Forest τ} (h : forest.Noting) {ops : List (Operation τ)} (hpossible : forest.Possible ops)
    (htaciturn : ∀ op ∈ ops, op.Taciturn) : Goes anything forest (ops.foldl (fun known op => op.on known) forest) := by
  induction ops generalizing forest with
  | nil => exact .refl
  | cons op rest ih =>
      obtain ⟨hvalid, hrest⟩ := hpossible
      have hnext := h.operation (htaciturn op List.mem_cons_self)
      exact .head (.done op trivial hvalid hnext.settled)
        (ih hnext hrest fun other hin => htaciturn other (List.mem_cons_of_mem _ hin))

theorem goes_of_taciturn {ops : List (Operation τ)} (hpossible : Possible .empty ops)
    (htaciturn : ∀ op ∈ ops, op.Taciturn) : Goes anything .empty (ops.foldl (fun known op => op.on known) .empty) :=
  noting_empty.goes hpossible htaciturn

end Forest

/-! ### Which way cancellations go -/

section

open Forest

/-- **Cancellation goes down the forest and nowhere else**, in every forest that operations lead to. -/
theorem cancellation_goes_down {forest : Forest τ} (hreached : Goes anything .empty forest) :
    -- A cancelled token stays so, for its first reason.
    (∀ later number reason, Goes anything forest later → forest.reason? number = some reason →
      later.reason? number = some reason) ∧
    -- A child is cancelled with its parent, unless it was detached before that.
    (∀ above deadline later, above < forest.tokens.length →
      (forest.add (some above) deadline).2.missed = none →
      Goes (attached above (forest.add (some above) deadline).1) (forest.add (some above) deadline).2 later →
      later.isCancelled above = true → later.isCancelled (forest.add (some above) deadline).1 = true) ∧
    -- A cancellation ends the token, the active tokens that links lead to, and no other one.
    (∀ start reason, start < forest.tokens.length → forest.isCancelled start = false → forest.Passive start →
      forest.Spread (forest.cancel start reason) start reason ∧
      (∀ above, forest.Over above start →
        (forest.cancel start reason).token? above = forest.token? above) ∧
      (∀ above sibling, forest.parent? start = some above → forest.parent? sibling = some above → sibling ≠ start →
        (forest.cancel start reason).token? sibling = forest.token? sibling)) ∧
    -- An observer is told once if its token is or becomes cancelled, and never if it is removed before that.
    (∀ number label also, number < forest.tokens.length → (forest.observe number label also).2.missed = none →
      (∀ later, Goes (registered number (forest.observe number label also).1) (forest.observe number label also).2 later →
        later.told (forest.observe number label also).1 = if later.isCancelled number = true then 1 else 0) ∧
      (∀ removal later,
        Goes (registered number (forest.observe number label also).1) (forest.observe number label also).2 removal →
        removal.isCancelled number = false →
        Goes anything (removal.unobserve number (forest.observe number label also).1) later →
        later.told (forest.observe number label also).1 = 0)) := by
  have horderly : forest.Orderly := hreached.orderly orderly_empty
  refine ⟨?_, ?_, ?_, ?_⟩
  · intro later number reason hgoes hreason
    exact (hgoes.keeps (P := fun known => known.reason? number = some reason) horderly hreason
      fun _ op _ hkept _ _ _ => reason?_operation hkept op).2
  · intro above deadline later habove hback hgoes hdone
    rw [fst_add] at hgoes ⊢
    have hborn : (forest.add (some above) deadline).2.Orderly :=
      horderly.operation (.child above deadline) habove hback
    have hlinked := (hgoes.keeps (P := fun known => known.Linked above forest.tokens.length) hborn
      (linked_add habove hback) fun _ op hknown hkept hallows hvalid hreturns =>
        hkept.operation hknown.toShaped hvalid hallows hreturns).2
    exact hlinked.cancelled hdone
  · intro start reason hhere hopen hpassive
    have hfound : forest.token? start = some (forest.tokens.get ⟨start, hhere⟩) := List.getElem?_eq_getElem hhere
    have hactive : (forest.tokens.get ⟨start, hhere⟩).active = true := by
      have hnone := reason?_eq_none_iff.mpr hopen
      unfold reason? at hnone
      rw [hfound] at hnone
      exact Option.isNone_iff_eq_none.mpr hnone
    have hspread := cancel_spread horderly.bare hfound hactive hpassive reason
    refine ⟨hspread, fun above hover => ?_, fun above sibling hstart hsibling hne => ?_⟩
    · refine hspread.others above (Nat.ne_of_lt (horderly.lt_of_over hover)) fun hpath => ?_
      exact absurd hpath (horderly.not_reaches_over hover)
    · refine hspread.others sibling hne fun hpath => ?_
      exact absurd hpath (horderly.not_reaches_sibling hstart hsibling hne)
  · intro number label also hhere hback
    have hobserved : (forest.observe number label also).2.Orderly :=
      horderly.operation (.observe number label also) hhere hback
    have howed : (forest.observe number label also).2.Owed [] number forest.observers 1 := by
      obtain ⟨honly, hcount, hbefore, hafter⟩ := horderly.fresh forest.observers number (Nat.le_refl _)
      have hcounted : ({ forest with observers := forest.observers + 1 } : Forest τ).Owed [] number forest.observers 0 :=
        ⟨honly, hcount, hbefore, hafter⟩
      exact Owed.listen_own ⟨forest.observers, label, also⟩ hcounted hhere hback
    have hknown : forest.observers < (forest.observe number label also).2.observers :=
      Nat.lt_of_lt_of_eq (Nat.lt_succ_self _)
        ((forest.observers_operation (.observe number label also)).2 number label also rfl).symm
    have hstays : ∀ later, Goes (registered number forest.observers) (forest.observe number label also).2 later →
        later.Owed [] number forest.observers 1 :=
      fun later hgoes => hgoes.owed hobserved howed hknown fun _ hallows => Or.inr (hallows rfl)
    refine ⟨fun later hgoes => (hstays later hgoes).told_eq, fun removal later hgoes hopen hrest => ?_⟩
    obtain ⟨hremoval, hsettled, hcounts⟩ :=
      hgoes.keeps (P := fun known => known.missed = none ∧ forest.observers < known.observers) hobserved
        ⟨hback, hknown⟩ fun known op _ hkept _ _ hreturns =>
          ⟨hreturns, Nat.lt_of_lt_of_le hkept.2 (known.observers_operation op).1⟩
    have hnever := hrest.owed (hremoval.operation (.unobserve number forest.observers) trivial hsettled)
      ((hstays removal hgoes).withdrawn hopen) hcounts fun _ _ => Or.inl rfl
    have hcount : later.told forest.observers + 0 + later.waiting number forest.observers = 0 := hnever.count
    show later.told forest.observers = 0
    omega

/-- A token and another one below it. -/
def tokenPair : Forest Rat := ((Forest.empty.add none none).2.add (some 0) none).2

theorem cancellation_goes_down_pair :
    Goes anything .empty tokenPair ∧ (tokenPair.cancel 0 "").reason? 1 = some "cancelled" ∧
      (tokenPair.cancel 1 "stop").reason? 0 = none ∧
      ((tokenPair.observe 1 "lower" none).2.cancel 0 "").told 0 = 1 := by
  have hreached : Goes anything .empty tokenPair :=
    (ReflTransGen.single (Step.done (.root none) trivial trivial rfl)).tail
      (Step.done (.child 0 none) trivial (Nat.lt_succ_self 0) rfl)
  have hbare : ∀ start, tokenPair.Passive start := by
    intro start number token observer _ hfound hin
    match number, hfound with
    | 0, hfound =>
        cases hfound
        cases List.mem_singleton.mp hin
    | 1, hfound =>
        cases hfound
        cases hin
  obtain ⟨-, -, hspread, hobserver⟩ := cancellation_goes_down hreached
  have hlink : tokenPair.Reaches 0 1 := .single ⟨_, rfl, List.mem_singleton_self _⟩
  refine ⟨hreached, ?_, ?_, ?_⟩
  · have hlower := (hspread 0 "" (by decide) rfl (hbare 0)).1.reached 1 (by decide) hlink rfl
    unfold reason?
    rw [hlower]
    rfl
  · have hupper := (hspread 1 "stop" (by decide) rfl (hbare 1)).2.1 0 (.single rfl)
    unfold reason?
    rw [hupper]
    rfl
  · obtain ⟨honce, -⟩ := hobserver 1 "lower" none (by decide) rfl
    have htold := honce ((tokenPair.observe 1 "lower" none).2.cancel 0 "")
      (.single (Step.done (.cancel 0 "") (fun heq => by cases heq) trivial (by cbv)))
    refine htold.trans (if_pos ?_)
    cbv

end

end FixFirst
