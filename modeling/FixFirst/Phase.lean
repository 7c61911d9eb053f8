/-!
# Phases of a run

A run moves from `start` through fixing and checking to aggregation, staging and
its end.  Two further states stand beside that line: `degraded` marks in the
history that an engine became unavailable, and `cancelled` ends a run early.

## Main definitions

* `Phase.follows` — which phase may follow which.
* `Tracker` — the current phase and the history of a run.
-/

namespace FixFirst

/-- A state of a run. -/
inductive Phase where
  | start
  | fix
  | check
  | aggregate
  | stage
  | done
  | degraded
  | cancelled
  deriving DecidableEq, Repr

namespace Phase

/-- All phases. -/
def all : List Phase := [start, fix, check, aggregate, stage, done, degraded, cancelled]

/-- The name of a phase. -/
def name : Phase → String
  | start => "start"
  | fix => "fix"
  | check => "check"
  | aggregate => "aggregate"
  | stage => "stage"
  | done => "done"
  | degraded => "degraded"
  | cancelled => "cancelled"

/-- The phase with a name. -/
def ofName? (text : String) : Option Phase := all.find? fun phase => phase.name == text

/-- The phases that may come after a phase. -/
def successors : Phase → List Phase
  | start => [fix, check]
  | fix => [check]
  | check => [aggregate]
  | aggregate => [stage, done]
  | stage => [done]
  | _ => []

/-- Whether `next` may come after a phase. -/
def follows (current next : Phase) : Bool := current.successors.contains next

/-- Whether a run ends in a phase. -/
def isTerminal : Phase → Bool
  | done | cancelled => true
  | _ => false

end Phase

/-- Where a run is, and the phases it has been through. -/
structure Tracker where
  current : Phase
  history : List Phase
  deriving DecidableEq, Repr

namespace Tracker

/-- A run that has just started. -/
def initial : Tracker := ⟨.start, [.start]⟩

/-- Whether the run has ended. -/
def terminal (tracker : Tracker) : Bool := tracker.current.isTerminal

/-- Whether the run went on with fewer engines. -/
def degraded (tracker : Tracker) : Bool := tracker.history.contains .degraded

/-- Moves on to `phase`, if it may come next. -/
def advance? (tracker : Tracker) (phase : Phase) : Option Tracker :=
  if tracker.current.follows phase then some ⟨phase, tracker.history ++ [phase]⟩ else none

/-- Notes once that an engine became unavailable; the current phase stays. -/
def degrade (tracker : Tracker) : Tracker :=
  if tracker.degraded then tracker
  else { tracker with history := tracker.history ++ [.degraded] }

/-- Ends the run early, unless it has ended already. -/
def cancel (tracker : Tracker) : Tracker :=
  if tracker.terminal then tracker else ⟨.cancelled, tracker.history ++ [.cancelled]⟩

/-- The history by name. -/
def names (tracker : Tracker) : List String := tracker.history.map Phase.name

end Tracker

end FixFirst
