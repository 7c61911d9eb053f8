import FixFirst.Decimal.Layout
import FixFirst.Json.Printer
import FixFirst.Token.Forest

/-!
# Budgets and timers

A clockwork is a forest of tokens with a clock and the timers that cancel tokens when their
budgets end.  The clock moves only by `Clockwork.advance` and by waiting; a timer that the
clock reaches cancels its token for the reason `timeout` and is gone.

## Main definitions

* `runToken`, `phaseToken`, `scopeToken` — tokens with a budget, and the timer for it.
* `release`, `close` — the end of one timer, and of all.
* `advance`, `wait` — how time passes.
-/

namespace FixFirst

/-- A timer: the token it cancels, and when. -/
structure Timer (τ : Type) where
  token : Nat
  due : τ
  deriving Repr

/-- Tokens with a clock and timers. -/
structure Clockwork (τ : Type) where
  now : τ
  forest : Forest τ
  /-- The timers that have not fired, in the order in which they were started. -/
  timers : List (Timer τ)
  deriving Repr

namespace Clockwork

variable {τ : Type} [Quantity τ]

/-- A clockwork without tokens. -/
def starting (now : τ) : Clockwork τ := ⟨now, .empty, []⟩

/-- Whether a token is cancelled. -/
def isCancelled (clock : Clockwork τ) (token : Nat) : Bool := clock.forest.isCancelled token

/-- Cancels a token. -/
def cancel (clock : Clockwork τ) (token : Nat) (reason : String) : Clockwork τ :=
  { clock with forest := clock.forest.cancel token reason }

/-- The time that a token has left; nothing, if it has no deadline. -/
def remaining? (clock : Clockwork τ) (token : Nat) : Option τ :=
  (clock.forest.deadline? token).map fun deadline => Quantity.greatest Quantity.zero (deadline - clock.now)

/-- Whether a token is cancelled or has no time left, though its timer may still have to fire. -/
def expired (clock : Clockwork τ) (token : Nat) : Bool :=
  clock.isCancelled token ||
    match clock.remaining? token with
    | some left => Quantity.isZero left
    | none => false

/-- Starts the timer of a token; a token without time left is cancelled at once. -/
def arm (clock : Clockwork τ) (token : Nat) : Clockwork τ :=
  match clock.remaining? token with
  | none => clock
  | some left =>
    if left ≤ Quantity.zero then clock.cancel token "timeout"
    else { clock with timers := clock.timers ++ [⟨token, clock.now + left⟩] }

/-- A new token without a timer. -/
def plain (clock : Clockwork τ) (parent : Option Nat) (deadline : Option τ) : Nat × Clockwork τ :=
  let (token, forest) := clock.forest.add parent deadline
  (token, { clock with forest := forest })

/-- A new token with a timer. -/
def armed (clock : Clockwork τ) (parent : Option Nat) (deadline : Option τ) : Nat × Clockwork τ :=
  let (token, planted) := clock.plain parent deadline
  (token, planted.arm token)

/-- The token of a run with a budget of `timeout` seconds. -/
def runToken (clock : Clockwork τ) (timeout : Option τ) (parent : Option Nat) : Nat × Clockwork τ :=
  clock.armed parent (timeout.map (clock.now + ·))

/-- A token below `run` that ends `reserve` seconds before it. -/
def phaseToken (clock : Clockwork τ) (run : Nat) (reserve : τ) : Nat × Clockwork τ :=
  clock.armed (some run) ((clock.forest.deadline? run).map (· - reserve))

/-- A token below `parent` with a budget of its own. -/
def scopeToken (clock : Clockwork τ) (parent : Nat) (timeout : Option τ) : Nat × Clockwork τ :=
  clock.armed (some parent) (timeout.map (clock.now + ·))

/-- Ends the timer of a token and releases the token from the one above it. -/
def release (clock : Clockwork τ) (token : Nat) : Clockwork τ :=
  { clock with
    forest := clock.forest.detach token
    timers := clock.timers.filter fun timer => timer.token != token }

/-- Ends all timers. -/
def close (clock : Clockwork τ) : Clockwork τ := { clock with timers := [] }

/-- Whether a cancellation ended because an observer looked up a name in vain.  Nothing else
happens then until the forest is settled. -/
def isStuck (clock : Clockwork τ) : Bool := clock.forest.missed.isSome

/-- Fires timers one after the other. -/
def fireEach : List (Timer τ) → Clockwork τ → Clockwork τ
  | [], clock => clock
  | timer :: rest, clock =>
    if clock.isStuck then clock
    else
      let others := clock.timers.filter fun other => other.token != timer.token
      fireEach rest ({ clock with timers := others }.cancel timer.token "timeout")

/-- Fires the timers that the clock has reached, by due time and then in order of start. -/
def fire (clock : Clockwork τ) : Clockwork τ :=
  let ready := clock.timers.filter fun timer => timer.due ≤ clock.now
  fireEach (ready.mergeSort fun a b => a.due ≤ b.due) clock

/-- Lets `seconds` pass. -/
def advance (clock : Clockwork τ) (seconds : τ) : Clockwork τ :=
  { clock with now := clock.now + seconds }.fire

/-- Lets time pass until `due`, even where the difference of two times is not exact. -/
def advanceTo (clock : Clockwork τ) (due : τ) : Clockwork τ :=
  let moved := clock.advance (Quantity.greatest Quantity.zero (due - clock.now))
  if moved.now < due && !moved.isStuck then { moved with now := due }.fire else moved

/-- The earliest due time. -/
def earliest? (clock : Clockwork τ) : Option τ :=
  clock.timers.foldl
    (fun best timer => match best with
      | none => some timer.due
      | some due => some (Quantity.least due timer.due))
    none

/-- Lets time pass up to `finish`, or without an end, until a token is cancelled or no timer is
left; each step reaches a timer, so `steps` of them are enough if there are no more timers. -/
def waitSteps (token : Nat) (finish : Option τ) : Nat → Clockwork τ → Clockwork τ
  | steps, clock =>
    if clock.isCancelled token || clock.isStuck then clock
    else
      let rest := { clock with now := finish.getD clock.now }
      match steps, clock.earliest? with
      | _, none | 0, _ => rest
      | steps + 1, some due =>
        if finish.any (· < due) then rest
        else waitSteps token finish steps (clock.advanceTo due)

/-- Waits at most `timeout` seconds for the cancellation of a token. -/
def wait (clock : Clockwork τ) (token : Nat) (timeout : Option τ) : Clockwork τ :=
  waitSteps token (timeout.map fun seconds => Quantity.greatest clock.now (clock.now + seconds)) clock.timers.length clock

end Clockwork

/-- A token in words. -/
def Clockwork.describe (clock : Clockwork Float) (token : Nat) : String :=
  let state := match clock.forest.reason? token with
    | some reason => s!"cancelled:{reason}"
    | none => "active"
  let deadline := match clock.forest.deadline? token with
    | some time => String.ofList (Json.plainStyle.text time)
    | none => "None"
  s!"CancellationToken({state}, deadline={deadline})"

end FixFirst
