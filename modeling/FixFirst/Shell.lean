import FixFirst.Text.Lines
import FixFirst.World

/-!
# Commands

Tools are run through a shell: a parameter that takes a command, with the token of the caller
if there is one, and gives back a completed process or a fault.
-/

namespace FixFirst

/-- What a process left behind. -/
structure Completed where
  status : Int
  output : String
  errors : String
  deriving DecidableEq, Repr

/-- The last line that a process wrote, to its error channel if it wrote there at all. -/
def Completed.lastLine? (completed : Completed) : Option String :=
  let text := if completed.errors.isEmpty then completed.output else completed.errors
  (Text.lines (Text.trim text.toList)).getLast?.map String.ofList

/-- A command: the words of it, and the directory to run it in. -/
structure Command where
  arguments : List String
  directory : Option Path
  deriving DecidableEq, Repr

/-- What runs commands. -/
abbrev Shell (τ σ : Type) := Command → Option Nat → Act τ σ Completed

/-- Writes a command to the journal and runs it. -/
def Shell.run {τ σ : Type} (shell : Shell τ σ) (command : Command) (token : Option Nat) : Act τ σ Completed := do
  World.log (.command command.arguments (command.directory.map Path.text))
  shell command token

end FixFirst
