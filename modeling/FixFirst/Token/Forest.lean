import FixFirst.Fault
import FixFirst.Keyed
import FixFirst.Quantity

/-!
# Cancellation tokens

A token says whether an operation should go on.  Tokens form a forest: cancelling a token
cancels the tokens below it and nothing else, and a cancelled token keeps its first reason.
Whoever wants to know of a cancellation registers an observer; its notice is given once, at
once if the token is cancelled already.  An observer may cancel a token in turn, which it
looks up by name when it is told; a name that no token goes by ends the cancellation there.

## Main definitions

* `Forest.add`, `Forest.detach` — a new token, below another one or not, and its release
  from there.
* `Forest.observe`, `Forest.unobserve` — registration of observers.
* `Forest.cancel` — cancellation, through `Forest.drain`, which works off what a
  cancellation sets in motion in the order of registration.
* `Forest.settle` — the fault of a name that was looked up in vain.
-/

namespace FixFirst

/-- Who is told of a cancellation. -/
structure Observer where
  id : Nat
  label : String
  /-- The name of a token that the observer cancels in turn. -/
  also : Option String
  deriving DecidableEq, Repr

/-- What happens when a token is cancelled. -/
inductive Listener where
  | child (token : Nat)
  | observer (observer : Observer)
  deriving DecidableEq, Repr

/-- A cancellation token. -/
structure Token (τ : Type) where
  /-- The token above this one. -/
  parent : Option Nat
  /-- When the budget of the token ends. -/
  deadline : Option τ
  /-- Why the token was cancelled, once it is. -/
  reason : Option String
  /-- What happens when the token is cancelled, in order of registration. -/
  listeners : List Listener
  deriving Repr

/-- Whether a token is not cancelled. -/
def Token.active {τ : Type} (token : Token τ) : Bool := token.reason.isNone

/-- That an observer was told of a cancellation. -/
structure Notice where
  observer : Nat
  label : String
  reason : String
  deriving DecidableEq, Repr

/-- All tokens, by number, and the notices given so far. -/
structure Forest (τ : Type) where
  tokens : List (Token τ)
  notices : List Notice
  /-- How many observers were registered so far. -/
  observers : Nat
  /-- The tokens that go by a name. -/
  names : Keyed Nat
  /-- The name that an observer looked up in vain. -/
  missed : Option String
  deriving Repr

/-- What a cancellation sets in motion. -/
inductive Work where
  | cancel (token : Nat) (reason : String)
  | notify (observer : Observer) (reason : String)
  deriving Repr

namespace Work

/-- The reason that a token hands down. -/
def inherited (reason : String) : String := if reason.isEmpty then "cancelled" else reason

/-- What a listener does when its token is cancelled. -/
def ofListener (reason : String) : Listener → Work
  | .child token => .cancel token (inherited reason)
  | .observer observer => .notify observer reason

/-- How much is left to do about a piece of work when no further token is cancelled. -/
def weight : Work → Nat
  | .cancel .. => 1
  | .notify .. => 2

/-- The weight of a list of work. -/
def total : List Work → Nat
  | [] => 0
  | work :: works => work.weight + total works

@[simp] theorem total_nil : total [] = 0 := rfl

@[simp] theorem total_cons (work : Work) (works : List Work) :
    total (work :: works) = work.weight + total works := rfl

/-- What an observer does after its notice, or the name that it looks up in vain. -/
def consequences (names : Keyed Nat) (observer : Observer) : Except String (List Work) :=
  match observer.also with
  | none => .ok []
  | some name =>
    match names.get? name with
    | some token => .ok [.cancel token ("from " ++ observer.label)]
    | none => .error name

theorem total_consequences_append_lt {names : Keyed Nat} {observer : Observer} {next : List Work}
    (reason : String) (works : List Work) (found : consequences names observer = .ok next) :
    total (next ++ works) < total (.notify observer reason :: works) := by
  unfold consequences at found
  split at found
  · cases found
    simp [weight]
  · split at found
    · cases found
      simp [weight]
    · cases found

end Work

namespace Forest

variable {τ : Type}

/-- The forest without tokens. -/
def empty : Forest τ := ⟨[], [], 0, [], none⟩

/-- A token by number. -/
def token? (forest : Forest τ) (number : Nat) : Option (Token τ) := forest.tokens[number]?

/-- Why a token was cancelled, if it was. -/
def reason? (forest : Forest τ) (number : Nat) : Option String := forest.token? number >>= Token.reason

/-- Whether a token is cancelled. -/
def isCancelled (forest : Forest τ) (number : Nat) : Bool := (forest.reason? number).isSome

/-- Whether a token was cancelled because a budget ended. -/
def timedOut (forest : Forest τ) (number : Nat) : Bool := forest.reason? number == some "timeout"

/-- When the budget of a token ends. -/
def deadline? (forest : Forest τ) (number : Nat) : Option τ := forest.token? number >>= Token.deadline

/-- How many tokens are not cancelled. -/
def activeCount (forest : Forest τ) : Nat := forest.tokens.countP Token.active

/-- Notes why a token is cancelled and drops its listeners. -/
def mark (forest : Forest τ) (number : Nat) (reason : String) : Forest τ :=
  { forest with
    tokens := forest.tokens.modify number fun token => { token with reason := some reason, listeners := [] } }

/-- Gives a notice. -/
def note (forest : Forest τ) (observer : Observer) (reason : String) : Forest τ :=
  { forest with notices := forest.notices ++ [⟨observer.id, observer.label, reason⟩] }

@[simp] theorem activeCount_note (forest : Forest τ) (observer : Observer) (reason : String) :
    (forest.note observer reason).activeCount = forest.activeCount := rfl

theorem countP_modify_lt {α : Type} (p : α → Bool) (f : α → α) :
    ∀ (items : List α) (i : Nat) (x : α), items[i]? = some x → p x = true → p (f x) = false →
      (items.modify i f).countP p < items.countP p
  | [], i, x, h, _, _ => by simp at h
  | y :: rest, 0, x, h, hx, hf => by
    simp only [List.getElem?_cons_zero, Option.some.injEq] at h
    subst h
    simp [hx, hf]
  | y :: rest, i + 1, x, h, hx, hf => by
    simp only [List.getElem?_cons_succ] at h
    have ih := countP_modify_lt p f rest i x h hx hf
    simp only [List.modify_succ_cons, List.countP_cons]
    omega

/-- Marking an active token leaves fewer active ones. -/
theorem activeCount_mark_lt {forest : Forest τ} {number : Nat} {token : Token τ} (reason : String)
    (found : forest.token? number = some token) (active : token.active = true) :
    (forest.mark number reason).activeCount < forest.activeCount :=
  countP_modify_lt _ _ _ _ token found active rfl

/-- Works off what is set in motion, what a cancellation adds before what was there. -/
def drain (forest : Forest τ) : List Work → Forest τ
  | [] => forest
  | .cancel number reason :: rest =>
    match found : forest.token? number with
    | none => drain forest rest
    | some token =>
      if active : token.active = true then
        have := activeCount_mark_lt reason found active
        drain (forest.mark number reason) (token.listeners.map (Work.ofListener reason) ++ rest)
      else drain forest rest
  | .notify observer reason :: rest =>
    match found : Work.consequences forest.names observer with
    | .error name => { forest.note observer reason with missed := some name }
    | .ok next =>
      have := Work.total_consequences_append_lt reason rest found
      drain (forest.note observer reason) (next ++ rest)
termination_by works => (forest.activeCount, Work.total works)
decreasing_by
  · exact Prod.Lex.right _ (by simp [Work.weight])
  · exact Prod.Lex.left _ _ this
  · exact Prod.Lex.right _ (by simp [Work.weight])
  · rw [activeCount_note]
    exact Prod.Lex.right _ this

/-- Cancels a token and what is below it, unless it is cancelled already. -/
def cancel (forest : Forest τ) (number : Nat) (reason : String) : Forest τ :=
  forest.drain [.cancel number reason]

/-- Registers a listener; it acts at once if the token is cancelled. -/
def listen (forest : Forest τ) (number : Nat) (listener : Listener) : Forest τ :=
  match forest.reason? number with
  | some reason => forest.drain [Work.ofListener reason listener]
  | none =>
    { forest with
      tokens := forest.tokens.modify number fun token =>
        { token with listeners := token.listeners ++ [listener] } }

/-- Registers an observer of a token under a new number. -/
def observe (forest : Forest τ) (number : Nat) (label : String) (also : Option String) : Nat × Forest τ :=
  let fresh := forest.observers
  (fresh, { forest with observers := fresh + 1 }.listen number (.observer ⟨fresh, label, also⟩))

/-- Drops the listeners of a token that a test singles out. -/
def dropListeners (forest : Forest τ) (number : Nat) (drop : Listener → Bool) : Forest τ :=
  { forest with
    tokens := forest.tokens.modify number fun token =>
      { token with listeners := token.listeners.filter fun listener => !drop listener } }

/-- Takes back the registration of an observer. -/
def unobserve (forest : Forest τ) (number id : Nat) : Forest τ :=
  forest.dropListeners number fun
    | .observer observer => observer.id == id
    | .child _ => false

/-- Releases a token from the one above it. -/
def detach (forest : Forest τ) (number : Nat) : Forest τ :=
  match forest.token? number >>= Token.parent with
  | none => forest
  | some parent => forest.dropListeners parent fun listener => listener == .child number

/-- The earlier of a deadline and the one above, where there are any. -/
def capped [Quantity τ] (deadline above : Option τ) : Option τ :=
  match deadline, above with
  | some own, some other => some (Quantity.least own other)
  | some own, none => some own
  | none, other => other

/-- A new token, below `parent` if there is one; its deadline is not after the one above it. -/
def add [Quantity τ] (forest : Forest τ) (parent : Option Nat) (deadline : Option τ) : Nat × Forest τ :=
  let number := forest.tokens.length
  match parent with
  | none => (number, { forest with tokens := forest.tokens ++ [⟨none, deadline, none, []⟩] })
  | some above =>
    let planted : Forest τ := { forest with
      tokens := forest.tokens ++ [⟨parent, capped deadline (forest.deadline? above), none, []⟩] }
    (number, planted.listen above (.child number))

/-- Lets a token go by a name. -/
def call (forest : Forest τ) (name : String) (number : Nat) : Forest τ :=
  { forest with names := forest.names.put name number }

/-- The fault of a name that an observer looked up in vain, and the forest without it. -/
def settle (forest : Forest τ) : Except Fault Unit × Forest τ :=
  (match forest.missed with
    | some name => .error (.key name)
    | none => .ok (), { forest with missed := none })

/-- The fault of going on with a cancelled token. -/
def checkpoint (forest : Forest τ) (number : Nat) : Except Fault Unit :=
  match forest.reason? number with
  | some reason => .error (.cancelled (some reason))
  | none => .ok ()

end Forest

end FixFirst
