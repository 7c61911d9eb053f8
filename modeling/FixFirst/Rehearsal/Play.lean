import FixFirst.Program
import FixFirst.Rehearsal.Script

/-!
# Playing a command line

A command line is played in the world of a script: the program runs as it would elsewhere, with
the shell of the script, and nobody is looking at the console.
-/

namespace FixFirst.Rehearsal

/-- What came of a command line. -/
inductive Played where
  | misuse
  | help
  /-- The command was carried out, as the journal tells. -/
  | ended (outcome : Except Fault Ending) (journal : List (Event Float))

/-- Jobs come back in the order in which they were started. -/
def inTurn (jobs : List (Job Float Stage)) (_ : World Float Stage) : Schedule := .inOrder jobs.length

/-- What the program finds around it. -/
def surroundingsOf (script : Json) : Surroundings Stage := ⟨shell, inTurn, hostOf script, ⟨false⟩, documentNesting, some longestWait⟩

/-- Plays a command line. -/
def play (script : Json) (words : List String) : Played :=
  let start := world script
  match environmentOf script with
  | .error fault => .ended (.error fault) []
  | .ok environment =>
    match CommandLine.read environment start.disk words with
    | .misuse => .misuse
    | .help => .help
    | .invoke invocation =>
      let (outcome, after) := (invocation.perform (surroundingsOf script)).run.run start
      .ended outcome after.journal

end FixFirst.Rehearsal
