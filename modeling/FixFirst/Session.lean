import FixFirst.Digest.Sha256
import FixFirst.Issue

/-!
# Sessions

A session holds what an engine found out about files, so that it need not look again: for each
file the digest of the contents that were looked at, and the issues found in them.  A session
belongs to one fingerprint of the configuration.  An engine keeps its sessions on a workbench.

## Main definitions

* `Session.stale`, `Session.record`, `Session.forget`, `Session.cached` — the entries of a
  session.
* `Workbench.focusOn` — the session for a set of files, found, extended or made.
-/

namespace FixFirst

/-- What was found out about one file. -/
structure Entry where
  /-- The digest of the contents that were looked at. -/
  digest : String
  issues : List Issue
  deriving DecidableEq, Repr

/-- What was found out under one fingerprint. -/
structure Session where
  fingerprint : String
  /-- The files that the session is about, each once. -/
  files : List String
  /-- The directory for caches of the tool. -/
  directory : Path
  /-- How many calls were answered from the entries alone. -/
  reused : Nat
  entries : Keyed Entry
  deriving Repr

/-- Whether two lists have the same members. -/
def sameMembers (first second : List String) : Bool :=
  first.all second.contains && second.all first.contains

/-- A short key for a fingerprint. -/
def fingerprintKey (fingerprint : String) : String :=
  String.ofList ((Digest.Sha256.hexDigest (Digest.textBytes fingerprint)).toList.take 16)

namespace Session

/-- A session without entries. -/
def new (fingerprint : String) (files : List String) (directory : Path) : Session :=
  ⟨fingerprint, firsts files, directory, 0, []⟩

/-- Extends the files that a session is about. -/
def absorb (session : Session) (files : List String) : Session :=
  { session with files := firsts (session.files ++ files) }

/-- Whether nothing is known of a file with these contents. -/
def isStale (session : Session) (file digest : String) : Bool :=
  match session.entries.get? file with
  | some entry => entry.digest != digest
  | none => true

/-- The files of a snapshot that have to be looked at, in its order. -/
def stale (session : Session) (digests : Keyed String) : List String :=
  (digests.filter fun file => session.isStale file.1 file.2).map (·.1)

/-- Notes what was found in the files of a snapshot; issues in other files are left out. -/
def record (session : Session) (digests : Keyed String) (issues : List Issue) : Session :=
  { session with
    entries := digests.foldl
      (fun entries file => entries.put file.1 ⟨file.2, issues.filter fun issue => issue.file == file.1⟩)
      session.entries }

/-- Drops what is known of files. -/
def forget (session : Session) (files : List String) : Session :=
  { session with entries := files.foldl Keyed.erase session.entries }

/-- What is known of files, in their order. -/
def cached (session : Session) (files : List String) : List Issue :=
  files.flatMap fun file => ((session.entries.get? file).map (·.issues)).getD []

end Session

/-- The sessions of an engine. -/
structure Workbench where
  /-- The fingerprint that the next calls are for. -/
  fingerprint : String
  /-- The sessions, oldest first. -/
  sessions : List Session
  /-- The files of the session that was used last. -/
  focus : Option (List String)
  deriving Repr

namespace Workbench

/-- A workbench without sessions. -/
def empty : Workbench := ⟨"", [], none⟩

/-- The session that was used last. -/
def current? (bench : Workbench) : Option Session :=
  bench.focus >>= fun files => bench.sessions.find? fun session => sameMembers session.files files

/-- Drops all sessions. -/
def reset (bench : Workbench) : Workbench := { bench with sessions := [], focus := none }

/-- Binds a workbench to a fingerprint; sessions for another one are dropped. -/
def prepare (bench : Workbench) (fingerprint : String) : Workbench :=
  let bound := { bench with fingerprint := fingerprint }
  match bench.current? with
  | some session => if session.fingerprint = fingerprint then bound else bound.reset
  | none => bound

/-- How many sessions are kept where each set of files has its own. -/
def capacity : Nat := 32

/-- Puts a session in the place of the one about the same files, or after all others; the
oldest go when there are too many. -/
def keep (bench : Workbench) (session : Session) : Workbench :=
  let about (other : Session) : Bool := sameMembers other.files session.files
  let sessions :=
    if bench.sessions.any about then bench.sessions.map fun other => if about other then session else other
    else bench.sessions ++ [session]
  { bench with
    sessions := sessions.drop (sessions.length - capacity)
    focus := some session.files }

/-- Makes the session for a set of files the current one.  With one session for all files it
is extended; otherwise each set of files has its own. -/
def focusOn (bench : Workbench) (shared : Bool) (directory : Path) (files : List String) : Workbench :=
  let fresh := Session.new bench.fingerprint files directory
  if shared then
    match bench.current? with
    | some session =>
      if session.fingerprint = bench.fingerprint then
        let grown := session.absorb files
        { bench with sessions := [grown], focus := some grown.files }
      else { bench with sessions := [fresh], focus := some fresh.files }
    | none => { bench with sessions := [fresh], focus := some fresh.files }
  else
    match bench.sessions.find? fun session => sameMembers session.files files with
    | some session =>
      if session.fingerprint = bench.fingerprint then { bench with focus := some session.files }
      else bench.keep fresh
    | none => bench.keep fresh

/-- Changes the current session; its files stay. -/
def update (bench : Workbench) (change : Session → Session) : Workbench :=
  match bench.focus with
  | none => bench
  | some files =>
    { bench with
      sessions := bench.sessions.map fun session =>
        if sameMembers session.files files then change session else session }

end Workbench

end FixFirst
