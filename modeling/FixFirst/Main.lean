import FixFirst.Rehearsal.Play

/-!
# The executable

Takes the words of a command line, reads the script of a world from the standard input, and plays
the command line in that world.
-/

namespace FixFirst

/-- How the program is used. -/
def usage : String :=
  "Usage: fixqa [--help] COMMAND [OPTIONS] [PATHS]\n\n" ++
  "  check PATHS  Fix and check the given files, staging what the fixes changed.\n" ++
  "  hook         Fix and check the staged files.\n"

/-- Reads a stream to its end. -/
partial def readAll (stream : IO.FS.Stream) (done : String) : IO String := do
  let line ← stream.getLine
  if line.isEmpty then return done
  readAll stream (done ++ line)

/-- Shows what a program has to show. -/
def Shown.write (shown : Shown) : IO Unit := do
  IO.eprint shown.errors
  for table in shown.tables do
    IO.print table.text
  IO.print shown.output

/-- Tells what came of a command line, and gives the exit status. -/
def Rehearsal.Played.write : Rehearsal.Played → IO UInt32
  | .misuse => do
    IO.eprint usage
    return 2
  | .help => do
    IO.print usage
    return 0
  | .ended (.ok ending) _ => do
    ending.shown.write
    return ending.status.toUInt32
  | .ended (.error fault) _ => do
    IO.eprintln s!"{fault.kind}: {fault.message}"
    return 1

end FixFirst

open FixFirst in
/-- Plays a command line in the world whose script is on the standard input. -/
def main (words : List String) : IO UInt32 := do
  let text ← readAll (← IO.getStdin) ""
  let script := match Json.read Rehearsal.documentNesting text.toList with
    | .ok value => value
    | .error _ => .obj []
  (Rehearsal.play script words).write
