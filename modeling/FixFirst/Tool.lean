import FixFirst.Config
import FixFirst.Findings.Notices
import FixFirst.Findings.Records
import FixFirst.Shell

/-!
# Tools

A tool is an external program that looks at files or changes them.  There is one for each kind
of issue: a linter, a formatter and a type checker.  What a tool found out is kept in sessions,
and only files whose contents changed are handed to it again; a type checker sees all files at
once, so it looks at all of them again when one has changed.

## Main definitions

* `Tool.checkCommand`, `Tool.fixCommand`, `Tool.accepts`, `Tool.issues` — how a tool is
  spoken to.
* `Tool.check`, `Tool.fix` — looking at files and fixing them, through sessions.
-/

namespace FixFirst

namespace Kind

/-- The name of the tool for a kind of issue. -/
def toolName : Kind → String
  | lint => "ruff"
  | format => "ruff-format"
  | typeCheck => "mypy"

/-- The program to start for a kind of issue. -/
def program : Kind → String
  | lint | format => "ruff"
  | typeCheck => "mypy"

/-- Whether the tool can fix files. -/
def canFix : Kind → Bool
  | lint | format => true
  | typeCheck => false

/-- Whether the tool says exactly what it fixed. -/
def isPrecise : Kind → Bool
  | format => true
  | lint | typeCheck => false

/-- Whether the tool looks at each file by itself. -/
def isPerFile : Kind → Bool
  | lint | format => true
  | typeCheck => false

/-- The kind of the tool with a name. -/
def ofToolName? (name : String) : Option Kind := all.find? fun kind => kind.toolName == name

end Kind

/-- An external program in its setting. -/
structure Tool where
  kind : Kind
  name : String
  settings : EngineConfig
  /-- The directory for caches of all tools. -/
  cacheRoot : Path
  /-- The directory that the program runs in. -/
  directory : Option Path
  /-- How deep the documents that it prints may be nested. -/
  nesting : Nat
  deriving Repr

namespace Tool

/-- A tool, where what is not given takes its usual value. -/
def make (kind : Kind) (name : Option String) (settings : EngineConfig) (cacheRoot directory : Option Path)
    (nesting : Nat) : Tool where
  kind := kind
  name := match name with
    | some given => if given.isEmpty then kind.toolName else given
    | none => kind.toolName
  settings := settings
  cacheRoot := (settings.cacheDirectory.or cacheRoot).getD Host.defaultCache
  directory := directory
  nesting := nesting

/-- The program to start. -/
def executable (tool : Tool) : String :=
  match tool.settings.executable with
  | some program => if program.isEmpty then tool.kind.program else program
  | none => tool.kind.program

/-- The directory for the caches of a tool under a fingerprint. -/
def cacheDirectory (tool : Tool) (fingerprint : String) : Path :=
  (tool.cacheRoot.under (Path.ofText tool.name)).under (Path.ofText (fingerprintKey fingerprint))

/-- The words of the command that looks at files. -/
def checkCommand (tool : Tool) (files : List String) (caches : Path) : List String :=
  let extra := tool.settings.arguments
  tool.executable :: match tool.kind with
    | .lint => ["check", "--output-format", "json"] ++ extra ++ ["--"] ++ files
    | .format => ["format", "--check"] ++ extra ++ ["--"] ++ files
    | .typeCheck =>
      ["-O", "json", "--incremental", "--cache-dir", (caches.under (Path.ofText "mypy")).text,
        "--show-column-numbers", "--no-color-output", "--no-error-summary"] ++ extra ++ files

/-- That a tool cannot fix files. -/
def cannotFix (name : String) : Fault := .unsupported s!"{name} does not support fixing"

/-- The words of the command that fixes files. -/
def fixCommand (tool : Tool) (files : List String) : Except Fault (List String) :=
  let extra := tool.settings.arguments
  match tool.kind with
  | .lint => .ok (tool.executable :: ["check", "--fix", "--output-format", "json"] ++ extra ++ ["--"] ++ files)
  | .format => .ok (tool.executable :: ["format"] ++ extra ++ ["--"] ++ files)
  | .typeCheck => .error (cannotFix tool.name)

/-- What a formatter says about a file that it could not read as source text. -/
def parseFailure : List Char := "error: Failed to".toList

/-- Whether a text occurs in another one. -/
def occurs (word : List Char) : List Char → Bool
  | [] => word.isEmpty
  | c :: rest => word.isPrefixOf (c :: rest) || occurs word rest

/-- Whether the status of a process means that the tool did its work.  A formatter also ends
with status 2 if it met files that are no source text. -/
def accepts (tool : Tool) (completed : Completed) : Bool :=
  if tool.kind = .format && completed.status = 2 then occurs parseFailure completed.errors.toList
  else completed.status = 0 || completed.status = 1

/-- The directory that the paths in the output of a tool are seen from. -/
def viewpoint (tool : Tool) (disk : Disk) : Path := tool.directory.getD (Path.rooted disk.cwd)

/-- The issues that a tool printed. -/
def issues (tool : Tool) (disk : Disk) (completed : Completed) : Except Fault (List Issue) :=
  let cwd := tool.viewpoint disk
  match tool.kind with
  | .lint => Findings.ofLintOutput tool.nesting disk cwd tool.name completed.output
  | .format => Findings.ofFormatOutput disk cwd tool.name completed.output completed.errors
  | .typeCheck => Findings.ofTypeOutput tool.nesting disk cwd tool.name completed.output

/-- The issues that a tool printed while looking at files.  A formatter that found something
must have said what. -/
def checkIssues (tool : Tool) (disk : Disk) (completed : Completed) : Except Fault (List Issue) := do
  let found ← tool.issues disk completed
  if tool.kind = .format && completed.status = 1 &&
      !found.any fun issue => issue.rule == some Findings.formatRule then
    throw (.engineFailure tool.name "reported unformatted files in an unrecognised output format"
      (some completed.status))
  return found

/-- What a tool fixed in the files that it changed. -/
def fixRecords (tool : Tool) (modified : List String) : List FixRecord :=
  modified.map fun file => ⟨file, if tool.kind.isPrecise then some Findings.formatRule else none⟩

variable {τ σ : Type} [Quantity τ]

/-- Runs a command of a tool; a status that the tool does not use for success is a failure. -/
def invoke (shell : Shell τ σ) (tool : Tool) (arguments : List String) (token : Nat) : Act τ σ Completed := do
  let completed ← shell.run ⟨arguments, tool.directory⟩ (some token)
  if tool.accepts completed then return completed
  throw (.engineFailure tool.name (completed.lastLine?.getD s!"exited with status {completed.status}")
    (some completed.status))

/-- Makes the session for files the current one. -/
def focusOn (tool : Tool) (files : List String) : Act τ σ Session := do
  World.onBench tool.name fun bench =>
    bench.focusOn tool.kind.isPerFile (tool.cacheDirectory bench.fingerprint) files
  let bench := (← get).bench tool.name
  return bench.current?.getD (Session.new bench.fingerprint files (tool.cacheDirectory bench.fingerprint))

/-- What is known of files in the current session. -/
def knownIssues (tool : Tool) (files : List String) : Act τ σ (List Issue) := do
  return (((← get).bench tool.name).current?.map fun session => session.cached files).getD []

/-- The result of a call that started at a given time. -/
def result (tool : Tool) (pass : Pass) (issues : List Issue) (started : τ) (cancelled : Bool)
    (modified : List String) (fixed : List FixRecord) : Act τ σ (EngineResult τ) := do
  return {
    engine := tool.name
    kind := tool.kind
    pass := pass
    success := !cancelled
    issues := issues
    duration := (← World.now) - started
    fixable := some tool.kind.canFix
    fixedCount := fixed.length
    modified := modified
    fixed := fixed
    cancelled := cancelled }

/-- A process, or the news that the call was cancelled. -/
def unlessCancelled {α : Type} (act : Act τ σ α) : Act τ σ (Option α) := do
  match ← act.attempt with
  | .ok value => return some value
  | .error (.cancelled _) => return none
  | .error fault => throw fault

/-- Answers for files from the current session alone. -/
def recollect (tool : Tool) (targets : List String) (started : τ) : Act τ σ (EngineResult τ) := do
  World.onBench tool.name (·.update fun session => { session with reused := session.reused + 1 })
  tool.result .check (← tool.knownIssues targets) started false [] []

/-- Notes what the tool printed about the files of a snapshot that it was asked about, and answers for
all of them. -/
def note (tool : Tool) (targets : List String) (digests : Keyed String) (asked : List String) (completed : Completed)
    (started : τ) : Act τ σ (EngineResult τ) := do
  let found ← Act.ofExcept (tool.checkIssues (← get).disk completed)
  let looked := digests.filter fun entry => asked.contains entry.1
  World.onBench tool.name (·.update fun session => session.record looked found)
  tool.result .check (← tool.knownIssues targets) started false [] []

/-- Lets the tool look at stale files, or at all of them if it sees them together only.  When the call
is cancelled, there is an answer only for files that are not stale. -/
def look (shell : Shell τ σ) (tool : Tool) (targets : List String) (digests : Keyed String) (caches : Path)
    (stale : List String) (started : τ) (token : Nat) : Act τ σ (EngineResult τ) := do
  let asked := if tool.kind.isPerFile then stale else targets
  match ← unlessCancelled (tool.invoke shell (tool.checkCommand asked caches) token) with
  | none =>
    let fresh := targets.filter fun file => !stale.contains file
    tool.result .check (← tool.knownIssues fresh) started true [] []
  | some completed => tool.note targets digests asked completed started

/-- Looks at files.  Files whose contents are known are answered from the session; when the
call is cancelled, only those are. -/
def check (shell : Shell τ σ) (tool : Tool) (files : List String) (token : Nat) : Act τ σ (EngineResult τ) := do
  let started ← World.now
  let targets ← Act.ofExcept ((← get).disk.normalizeAll files)
  let digests := (← get).disk.snapshot targets
  let session ← tool.focusOn targets
  let stale := session.stale digests
  if stale.isEmpty then tool.recollect targets started
  else tool.look shell targets digests session.directory stale started token

/-- The issues that a tool printed while fixing; a call that was cancelled printed none. -/
def fixIssues (tool : Tool) (disk : Disk) : Option Completed → Except Fault (List Issue)
  | some completed => tool.issues disk completed
  | none => .ok []

/-- Notes what became of files that were to be fixed.  What the tool printed describes the new
contents, so it is recorded for them; of the files that changed, nothing older is kept. -/
def settle (tool : Tool) (targets : List String) (before : Keyed String) (completed : Option Completed) (started : τ) :
    Act τ σ (EngineResult τ) := do
  let found ← Act.ofExcept (tool.fixIssues (← get).disk completed)
  let after := (← get).disk.snapshot targets
  let modified := targets.filter fun file => before.get? file != after.get? file
  let described := if completed.isSome then after else []
  World.onBench tool.name (·.update fun session => (session.forget modified).record described found)
  tool.result .fix (found.filter fun issue => targets.contains issue.file) started completed.isNone modified
    (tool.fixRecords modified)

/-- Fixes files. -/
def fix (shell : Shell τ σ) (tool : Tool) (files : List String) (token : Nat) : Act τ σ (EngineResult τ) := do
  if !tool.kind.canFix then throw (cannotFix tool.name)
  let started ← World.now
  let targets ← Act.ofExcept ((← get).disk.normalizeAll files)
  let _ ← tool.focusOn targets
  let before := (← get).disk.snapshot targets
  let command ← Act.ofExcept (tool.fixCommand targets)
  let completed ← unlessCancelled (tool.invoke shell command token)
  tool.settle targets before completed started

end Tool

end FixFirst
