import FixFirst.Monitor
import FixFirst.Outcome
import FixFirst.Report
import FixFirst.Session
import FixFirst.Token.Clockwork

/-!
# The world of a run

Everything that a run reads and changes, as one value: the clock with its tokens, the disk,
the memory in use, the sessions of the engines, and a journal of what was done.  What lies
beyond, such as the tools themselves, is a parameter: a value of a type `σ` that only the
engines and the shell look at.

## Main definitions

* `World` — the state, and `Event`, an entry of its journal.
* `Change` — what changes the world and cannot fail.
* `Act` — what changes the world and may fail; what was changed before a fault stays changed.
* `World.budgeted` — work under a token and a budget of its own.
* `World.startMonitor`, `World.stopMonitor` — readings in the background.
-/

namespace FixFirst

/-- An entry of the journal. -/
inductive Event (τ : Type) where
  /-- An engine was bound to a fingerprint. -/
  | prepared (engine fingerprint : String)
  /-- The sessions of an engine were dropped. -/
  | reset (engine : String)
  /-- An engine was called. -/
  | called (engine : String) (pass : Pass) (files : List String)
  /-- A call came back. -/
  | completed (outcome : Outcome τ)
  /-- A command was given to the shell. -/
  | command (arguments : List String) (directory : Option String)
  /-- Workers were taken on. -/
  | pool (workers : Nat)
  /-- A run entered a phase. -/
  | entered (phase : Phase)
  /-- A remark on the course of a run. -/
  | debug (message : String)
  /-- A warning to the user. -/
  | warned (message : String)
  /-- A job was not started, because its token was cancelled. -/
  | unstarted (engine reason : String)
  /-- A job did not come back in the time of grace. -/
  | abandoned (engine : String)
  deriving Repr

/-- The words of an entry that remarks on the course of a run. -/
def Event.remark? {τ : Type} : Event τ → Option String
  | .debug message => some message
  | .unstarted engine reason => some s!"not starting {engine}: {reason}"
  | .abandoned engine => some s!"abandoning {engine} after grace period"
  | _ => none

/-- The state of everything that a run deals with. -/
structure World (τ σ : Type) where
  clock : Clockwork τ
  disk : Disk
  /-- The memory in use at each reading. -/
  memory : Nat → Int
  /-- How many readings were taken. -/
  readings : Nat
  /-- How many readings are taken in the background before the latest sample is asked for, by how
  many there were. -/
  meanwhile : Nat → Nat
  /-- The monitor in charge, if there is one. -/
  monitor : Option (Monitor τ)
  /-- The workbench of each engine. -/
  benches : Keyed Workbench
  journal : List (Event τ)
  /-- The time of day, in seconds. -/
  moment : τ
  /-- A random text. -/
  random : String
  /-- What lies beyond. -/
  outside : σ

/-- What changes the world and cannot fail. -/
abbrev Change (τ σ : Type) := StateM (World τ σ)

/-- What changes the world and may fail. -/
abbrev Act (τ σ : Type) := ExceptT Fault (StateM (World τ σ))

namespace Act

variable {τ σ α : Type}

/-- A result or a fault. -/
def ofExcept : Except Fault α → Act τ σ α
  | .ok value => pure value
  | .error fault => throw fault

/-- What came of an act, as a value. -/
def outcome (act : Act τ σ α) : Change τ σ (Except Fault α) := ExceptT.run act

/-- Performs an act, and turns a fault into a value. -/
def attempt (act : Act τ σ α) : Act τ σ (Except Fault α) :=
  ExceptT.mk do
    let result ← act.outcome
    return .ok result

/-- Performs a change after an act, whatever came of it. -/
def thenAlways (act : Act τ σ α) (after : Change τ σ Unit) : Act τ σ α :=
  ExceptT.mk do
    let result ← act.outcome
    after
    return result

/-- Performs an act after another one, whatever came of that; a fault of it is the fault of both. -/
def ensuring (act : Act τ σ α) (after : Act τ σ Unit) : Act τ σ α :=
  ExceptT.mk do
    let result ← act.outcome
    match ← after.outcome with
    | .ok _ => return result
    | .error fault => return .error fault

end Act

namespace World

/-! ### Small steps

These are stated for both kinds of steps at once. -/

section

variable {τ σ : Type} {m : Type → Type} [Monad m] [MonadState (World τ σ) m]

/-- Writes to the journal. -/
def log (event : Event τ) : m Unit :=
  modify fun world => { world with journal := world.journal ++ [event] }

/-- Works on the clock. -/
def onClock {α : Type} (step : Clockwork τ → α × Clockwork τ) : m α :=
  modifyGet fun world =>
    let (value, clock) := step world.clock
    (value, { world with clock := clock })

/-- Changes the clock. -/
def moveClock (step : Clockwork τ → Clockwork τ) : m Unit :=
  modify fun world => { world with clock := step world.clock }

/-- Asks the clock. -/
def askClock {α : Type} (question : Clockwork τ → α) : m α := do
  return question (← get).clock

/-- The time. -/
def now : m τ := askClock (·.now)

/-- Whether a token is cancelled. -/
def isCancelled (token : Nat) : m Bool := askClock (·.forest.isCancelled token)

/-- The workbench of an engine. -/
def bench (world : World τ σ) (engine : String) : Workbench := (world.benches.get? engine).getD .empty

/-- Changes the workbench of an engine. -/
def onBench (engine : String) (change : Workbench → Workbench) : m Unit :=
  modify fun world => { world with benches := world.benches.put engine (change (world.bench engine)) }

/-- Notes whether readings are being taken in the background. -/
def setRunning (running : Bool) : m Unit :=
  modify fun world => { world with monitor := world.monitor.map fun monitor => { monitor with running := running } }

end

variable {τ σ : Type} [Quantity τ]

/-- Works under a token of its own, below `token` and with a budget.  Says also whether the budget
was overrun while `token` still had time. -/
def budgeted {α : Type} (token : Nat) (budget : τ) (work : Nat → Act τ σ α) : Act τ σ (α × Bool) := do
  let own ← onClock (·.scopeToken token (some budget))
  let result ← (work own).thenAlways (moveClock (·.release own))
  let overran ← askClock fun clock => clock.forest.timedOut own && !clock.expired token
  return (result, overran)

/-! ### Memory -/

/-- Lets the monitor take a reading; without a monitor, nothing. -/
def sample : Act τ σ (Option (Sample τ)) := do
  let world ← get
  match world.monitor with
  | none => return none
  | some monitor =>
    let (outcome, changed) := monitor.sample world.clock.now (world.memory world.readings)
    set { world with monitor := some changed, readings := world.readings + 1 }
    some <$> Act.ofExcept outcome

/-- Takes readings in the background, where a fault comes to nothing. -/
def background : Nat → Act τ σ Unit
  | 0 => return
  | count + 1 => do
    let _ ← sample.attempt
    background count

/-- The latest sample, or a new one if there is none; the background may have been ahead. -/
def latest : Act τ σ (Option (Sample τ)) := do
  let world ← get
  background (world.meanwhile world.readings)
  match (← get).monitor >>= Monitor.latest with
  | some known => return some known
  | none => sample

/-- The level of a new sample; pressure is normal without a monitor. -/
def pressure : Act τ σ Level := do
  return match ← sample with
    | some taken => taken.level
    | none => .normal

/-- The level of the latest sample; pressure is normal without a monitor. -/
def level : Act τ σ Level := do
  return match ← latest with
    | some known => known.level
    | none => .normal

/-- Takes `count` readings, one after each interval. -/
def tick (interval : τ) : Nat → Act τ σ Unit
  | 0 => return
  | count + 1 => do
    moveClock (·.advance interval)
    let _ ← sample
    tick interval count

/-- Starts to take readings: one at once, and `ticks` in the background.  A monitor that has
started already is left as it is. -/
def startMonitor (ticks : Nat) : Act τ σ Unit := do
  match (← get).monitor with
  | none => return
  | some monitor =>
    if monitor.running then return
    let _ ← sample
    setRunning true
    tick monitor.config.interval ticks

/-! ### Waiting -/

/-- Whether the system waits as long as that; `longest` is how long it waits at most, if there is a
limit. -/
def grants (longest : Option τ) (time : τ) : Bool := !longest.any (· < time)

/-- The fault of a wait that is not granted. -/
def refusedWait : Fault := .overflow "the wait is too long"

/-- Ends the readings in the background, which are waited for as long as two intervals. -/
def stopMonitor (longest : Option τ) : Act τ σ Unit := do
  match (← get).monitor with
  | none => return
  | some monitor =>
    if !monitor.running then return
    if !grants longest (monitor.config.interval * Quantity.ofNat 2) then throw refusedWait
    setRunning false

end World

end FixFirst
