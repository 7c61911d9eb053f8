import FixFirst.Disk.Basic
import FixFirst.Fault

/-!
# Walking along names

The system walks along the names of a path from the root.  It replaces a link by its target, seen
from the directory that holds the link, and `..` leads to the directory above what has been
reached.  It gives up at a name that does not exist, and when it meets too many links.  It refuses to
look up a name or a path that is too long, and any name in a directory that is locked.

## Main definitions

* `Disk.refusal?` — why a name cannot be looked up.
* `Disk.walk` — where names lead to; `Disk.lead`, where a path leads to.
* `Disk.locate?` — the place that a path leads to.
* `Disk.linkAt?` — the target of the link that a path leads to.
* `Disk.pathExists`, `Disk.isFile` — what a path leads to; a refusal is not an answer.
-/

namespace FixFirst

/-- Why the system refuses to look up a name. -/
inductive Refusal where
  /-- The name or the path is too long. -/
  | tooLong
  /-- The directory is locked. -/
  | locked
  deriving DecidableEq, Repr

/-- The fault of a path that is refused. -/
def Refusal.fault (path : Path) : Refusal → Fault
  | tooLong => .system (s!"[Errno 36] File name too long: " ++ String.ofList (Text.quoted path.text.toList))
  | locked => .denied (s!"[Errno 13] Permission denied: " ++ String.ofList (Text.quoted path.text.toList))

/-- Where names lead to. -/
inductive Walk where
  /-- A file or a directory. -/
  | reached (names : List String)
  /-- A link that was not to be followed. -/
  | link (target : String)
  /-- Too many links. -/
  | endless
  /-- A name that does not exist. -/
  | lost
  /-- A name that cannot be looked up. -/
  | refused (refusal : Refusal)
  deriving DecidableEq, Repr

namespace Disk

/-- The most links that are followed along one path. -/
def linkLimit : Nat := 40

/-- Whether no name can be looked up in a directory. -/
def isLocked (disk : Disk) (names : List String) : Bool :=
  disk.locked.contains (Path.rootedText names) && !(names.isPrefixOf disk.cwd && names != disk.cwd)

/-- Why a name cannot be looked up in a directory, if that is so. -/
def refusal? (disk : Disk) (here : List String) (name : String) : Option Refusal :=
  if !disk.isDirectory here then none
  else if disk.isLocked here then some .locked
  else if disk.longestName.any (· < name.utf8ByteSize) then some .tooLong
  else none

/-- Walks along names from the place `here`, following at most `links` links.  A link in the last
place is followed only if `through` says so. -/
def walk (disk : Disk) (through : Bool) (links : Nat) (here : List String) : List String → Walk
  | [] => .reached here
  | name :: rest =>
    match disk.refusal? here name with
    | some refusal => .refused refusal
    | none =>
      if name = ".." then
        if disk.isDirectory here then walk disk through links here.dropLast rest else .lost
      else
        match disk.link? (here ++ [name]) with
        | none =>
          if disk.present (here ++ [name]) then walk disk through links (here ++ [name]) rest else .lost
        | some target =>
          if rest.isEmpty && !through then .link target
          else match links with
            | 0 => .endless
            | left + 1 =>
              let path := Path.ofText target
              walk disk through left (if path.isAbsolute then [] else here) (path.names ++ rest)
termination_by names => (links, names.length)

/-- Where a path leads to; a link in the last place is followed only if `through` says so. -/
def lead (disk : Disk) (through : Bool) (path : Path) : Walk :=
  if disk.longestPath.any (· < path.text.utf8ByteSize) then .refused .tooLong
  else disk.walk through linkLimit [] (disk.namesFrom path)

/-- Where a path leads to, all links being followed. -/
def follow (disk : Disk) (path : Path) : Walk := disk.lead true path

/-- The place that a path leads to, if nothing on the way is missing. -/
def locate? (disk : Disk) (path : Path) : Option (List String) :=
  match disk.follow path with
  | .reached names => some names
  | _ => none

/-- The target of the link that a path leads to, if it leads to one. -/
def linkAt? (disk : Disk) (path : Path) : Option String :=
  match disk.lead false path with
  | .link target => some target
  | _ => none

/-- Whether a path leads to a place of a certain kind. -/
def leadsTo (disk : Disk) (kind : List String → Bool) (path : Path) : Except Fault Bool :=
  if path.hasNul then .ok false
  else match disk.follow path with
    | .reached names => .ok (kind names)
    | .refused refusal => .error (refusal.fault path)
    | _ => .ok false

/-- Whether a path leads to a file or a directory. -/
def pathExists (disk : Disk) (path : Path) : Except Fault Bool := disk.leadsTo (fun _ => true) path

/-- Whether a path leads to a file. -/
def isFile (disk : Disk) (path : Path) : Except Fault Bool :=
  disk.leadsTo (fun names => (disk.file? names).isSome) path

/-- Whether a place cannot be opened. -/
def isClosed (disk : Disk) (names : List String) : Bool := disk.unreadable.contains (Path.rootedText names)

/-- The bytes of the file a path leads to, if it can be opened. -/
def read? (disk : Disk) (path : Path) : Option (List UInt8) := do
  let names ← disk.locate? path
  if disk.isClosed names then none else disk.file? names

/-- Whether a path can be opened; a path that leads nowhere is not in the way. -/
def allows (disk : Disk) (path : Path) : Bool :=
  !path.hasNul && !(disk.locate? path).any disk.isClosed

end Disk

end FixFirst
