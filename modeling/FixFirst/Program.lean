import FixFirst.CommandLine
import FixFirst.Fingerprint
import FixFirst.Registry
import FixFirst.Run

/-!
# The program

What the commands do.  Both make one run and show its report, as a summary or as a document; the
status tells whether the run succeeded.  A configuration that cannot drive a run is told to the
user.

## Main definitions

* `Surroundings` — what a program finds around it.
* `Options.execute` — the run that options ask for.
* `Invocation.perform` — a command from beginning to end.
-/

namespace FixFirst

/-- What a program finds around it. -/
structure Surroundings (σ : Type) where
  shell : Shell Float σ
  schedule : List (Job Float σ) → World Float σ → Schedule
  host : Host
  console : Console
  /-- How deep the documents that tools print may be nested. -/
  nesting : Nat
  /-- How long the system waits at most, if there is a limit. -/
  longestWait : Option Float

/-- How a program ends. -/
structure Ending where
  /-- The exit status. -/
  status : Nat
  shown : Shown
  deriving Repr

/-- The exit status of a success. -/
def statusOk : Nat := 0

/-- The exit status of a run that failed. -/
def statusFailed : Nat := 1

/-- The exit status of a command that could not be carried out. -/
def statusConfig : Nat := 2

/-- Whether a file holds a program or the types of one. -/
def isSource (file : String) : Bool := file.endsWith ".py" || file.endsWith ".pyi"

/-- What an event looks like to the user while a run goes on. -/
def Event.shown {τ : Type} (console : Console) (options : Options) (event : Event τ) : String :=
  match event, event.remark? with
  | .warned message, _ => console.say .warn options.emoji options.look.wish message
  | _, some message =>
    if options.debug then console.say .info false options.look.wish ("[debug] " ++ message) else ""
  | _, none => ""

namespace Options

variable {σ : Type}

/-- The run over files that options ask for. -/
def execute (around : Surroundings σ) (options : Options) (paths : List Path) (critical : Option (List String)) :
    Act Float σ (Report Float) := do
  let config ← Act.ofExcept (options.config around.host)
  let registry ← Act.ofExcept (config.tools (some options.root) around.nesting)
  let engines := registry.entries.values.map (Engine.ofTool around.shell)
  let runner ← Act.ofExcept (Runner.make engines config around.shell around.schedule around.longestWait)
  let disk := (← get).disk
  let fingerprints ← Act.ofExcept (registry.entries.keys.mapM fun name => do
    return (name, ← config.fingerprint disk options.root name))
  runner.run {
    files := paths.map fun path => (options.root.under path).text
    root := some options.root
    fingerprints := fingerprints
    timeout := none
    critical := critical
    token := none
    warmRun := none }

/-- What is shown of a report. -/
def present (console : Console) (disk : Disk) (options : Options) (report : Report Float) : Except Fault Shown :=
  if options.json then (report.rendered disk).map fun document => ⟨document ++ "\n", "", []⟩
  else report.summary disk console options.root options.look

/-- Makes a run and shows its report; `failed` tells which reports are failures. -/
def conclude (around : Surroundings σ) (options : Options) (paths : List Path) (critical : Option (List String))
    (failed : Report Float → Bool) : Act Float σ Ending := do
  let outcome ← (options.execute around paths critical).attempt
  let world ← get
  let course := Shown.ofErrors (String.join (world.journal.map (Event.shown around.console options)))
  match outcome with
  | .ok report =>
    let shown ← Act.ofExcept (options.present around.console world.disk report)
    return ⟨if failed report then statusFailed else statusOk, course ++ shown⟩
  | .error (.config message) =>
    let line := around.console.say .fail options.emoji options.look.wish message
    return ⟨statusConfig, course ++ Shown.ofErrors line⟩
  | .error fault => throw fault

end Options

namespace Invocation

variable {σ : Type}

/-- What the hook says when there is nothing to do. -/
def nothingStaged (console : Console) (options : Options) : Shown :=
  if options.quiet || options.json then .ofErrors ""
  else .ofErrors (console.say .info options.emoji none "No staged Python files to check")

/-- Carries out a command. -/
def perform (around : Surroundings σ) (invocation : Invocation) : Act Float σ Ending := do
  let root ← Act.ofExcept ((← get).disk.resolve invocation.options.root)
  let options := { invocation.options with root := root }
  match invocation.verb with
  | .check => options.conclude around invocation.paths none fun report => !report.success
  | .hook =>
    let staged := (← stagedFiles around.shell root).filter isSource
    if staged.isEmpty then return ⟨statusOk, nothingStaged around.console options⟩
    options.conclude around (staged.map Path.ofText) (some staged) fun report =>
      !report.success || (invocation.strict && !report.stagingWarnings.isEmpty)

end Invocation

end FixFirst
