import FixFirst.Disk

/-!
# Supervision of a process

How a command becomes a process, and how the process is watched: its program is looked up, it
is started, and it is waited for in short turns.  After each turn that did not see the end of
it, the token of the caller is looked at; once that is cancelled the process is killed.

## Main definitions

* `locate` — the program of a command.
* `supervise` — a whole process, with the trace of what was done about it.
-/

namespace FixFirst

/-- How a process is to be started and watched. -/
structure LaunchOptions where
  directory : Option Path
  environment : Option (Keyed String)
  /-- Whether the process reads nothing. -/
  discardInput : Bool
  /-- How long a turn of waiting is. -/
  interval : Float
  deriving Repr

/-- How a process is started when nothing is said. -/
def LaunchOptions.standard : LaunchOptions := ⟨none, none, true, 0.05⟩

/-- How many seconds a killed process is waited for. -/
def lastWait : Float := 1

/-- What is done about a process. -/
inductive Handling where
  /-- It is waited for, for one turn. -/
  | wait
  | kill
  /-- It is waited for after it was killed. -/
  | reap
  /-- Its channels are closed. -/
  | leave
  deriving Repr

/-- How a process behaves once it is started. -/
structure Behaviour where
  /-- Why it cannot be started. -/
  notFound : Option String
  /-- How many turns of waiting pass before it ends. -/
  turns : Nat
  /-- Its exit status, if it has one. -/
  status : Option Int
  output : String
  errors : String
  deriving Repr

/-- A process that was started. -/
structure Launch where
  /-- The place of the program, and the words after it. -/
  words : List String
  options : LaunchOptions
  deriving Repr

/-- What supervision came to. -/
structure Supervision where
  /-- The process, if it came to that. -/
  started : Option Launch
  trace : List Handling
  /-- The fault, if there was one. -/
  fault : Option Fault
  deriving Repr

/-- The words of a command with the place of its program, where `which` looks up names. -/
def locate (disk : Disk) (which : String → Option String) : List String → Except Fault (List String)
  | [] => .error (.value "subprocess command requires at least one argument")
  | program :: rest =>
    let path := Path.ofText program
    if path.isAbsolute then do
      if ← disk.pathExists path then return path.text :: rest
      else throw (.toolMissing program (some "executable does not exist"))
    else match which program with
      | some place => .ok (place :: rest)
      | none => .error (.toolMissing program (some "executable was not found on PATH"))

/-- Waits for the end of a process that takes `turns` turns.  `reason` tells whether the token
is cancelled after a turn, counted from `turn`. -/
def watch (reason : Nat → Option String) (turn : Nat) : Nat → List Handling × Option Fault
  | 0 => ([.wait, .leave], none)
  | turns + 1 =>
    match reason turn with
    | some why => ([.wait, .kill, .reap, .leave], some (.cancelled (some why)))
    | none =>
      let (trace, fault) := watch reason (turn + 1) turns
      (.wait :: trace, fault)

/-- Starts a process and watches it.  `reason` tells why the token is cancelled after so many
turns of waiting; before the start, after none. -/
def supervise (disk : Disk) (which : String → Option String) (arguments : List String) (options : LaunchOptions)
    (reason : Nat → Option String) (behaviour : Behaviour) : Supervision :=
  match locate disk which arguments with
  | .error fault => ⟨none, [], some fault⟩
  | .ok words =>
    match reason 0 with
    | some why => ⟨none, [], some (.cancelled (some why))⟩
    | none =>
      match behaviour.notFound with
      | some detail => ⟨some ⟨words, options⟩, [], some (.toolMissing (words.headD "") (some detail))⟩
      | none =>
        let (trace, fault) := watch reason 1 behaviour.turns
        ⟨some ⟨words, options⟩, trace, fault⟩

end FixFirst
