import FixFirst.Shell

/-!
# Staging

Files that were fixed are added to the index of the repository one by one, so that a failure
concerns its own file only.
-/

namespace FixFirst

/-- What became of staging. -/
structure Staging where
  staged : List String
  warnings : List StagingWarning
  deriving Repr

/-- Whether every file was staged. -/
def Staging.complete (staging : Staging) : Bool := staging.warnings.isEmpty

/-- What a command said about its failure. -/
def Completed.complaint (completed : Completed) : String :=
  completed.lastLine?.getD s!"git exited with status {completed.status}"

variable {τ σ : Type}

/-- Runs a command of the version control system; a missing program is a failing command. -/
def git (shell : Shell τ σ) (root : Path) (arguments : List String) : Act τ σ Completed := do
  match ← (shell.run ⟨"git" :: arguments, some root⟩ none).attempt with
  | .ok completed => return completed
  | .error fault =>
    match fault with
    | .toolMissing .. => return ⟨127, "", fault.message⟩
    | _ => throw fault

/-- Adds files to the index, each by itself. -/
def stageEach (shell : Shell τ σ) (root : Path) : List String → Act τ σ Staging
  | [] => return ⟨[], []⟩
  | file :: rest => do
    let completed ← git shell root ["add", "--", file]
    let others ← stageEach shell root rest
    return if completed.status = 0 then { others with staged := file :: others.staged }
      else { others with warnings := ⟨file, completed.complaint⟩ :: others.warnings }

/-- Stages files in the work tree at a root. -/
def stage (shell : Shell τ σ) (root : Path) (files : List String) : Act τ σ Staging := do
  let targets ← Act.ofExcept ((← get).disk.normalizeAll files)
  if targets.isEmpty then return ⟨[], []⟩
  let inside ← git shell root ["rev-parse", "--is-inside-work-tree"]
  if inside.status = 0 && Text.trimmed inside.output == "true" then stageEach shell root targets
  else
    let detail := if inside.status = 0 then "not inside a git work tree" else inside.complaint
    return ⟨[], targets.map fun file => ⟨file, detail⟩⟩

/-- What those of some paths normalise to that exist. -/
def Disk.found (disk : Disk) : List Path → Except Fault (List String)
  | [] => .ok []
  | path :: rest => do
    if ← disk.pathExists path then
      let file ← disk.normalizePath path
      return file :: (← disk.found rest)
    else disk.found rest

/-- The files of a listing that exist, seen from a directory. -/
def listedFiles (disk : Disk) (base : Path) (listing : String) : Except Fault (List String) :=
  let entries := (Text.lines listing.toList).map Text.trim
  disk.found ((entries.filter fun entry => !entry.isEmpty).map fun entry =>
    base.under (Path.ofText (String.ofList entry)))

/-- The files that are staged and exist; without a repository, none. -/
def stagedFiles (shell : Shell τ σ) (root : Path) : Act τ σ (List String) := do
  let top ← git shell root ["rev-parse", "--show-toplevel"]
  if top.status ≠ 0 then return []
  let listed ← git shell root ["diff", "--cached", "--name-only", "--diff-filter=ACMR"]
  if listed.status ≠ 0 then return []
  Act.ofExcept (listedFiles (← get).disk (Path.ofText (Text.trimmed top.output)) listed.output)

end FixFirst
