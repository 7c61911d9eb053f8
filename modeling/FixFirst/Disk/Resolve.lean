import FixFirst.Disk.Walk

/-!
# Resolving paths

A path is resolved name by name, whether its names exist or not: a link is replaced by what its
target resolves to, and `..` removes the name before it.  What a link resolves to is remembered
under the path that led to it.  A link that is met again while it is being resolved cannot be
resolved; the names from there on are kept as they are written.

## Main definitions

* `Disk.resolveFrom` — resolves names, one after the other.
* `Disk.resolve` — the absolute path that a path resolves to.
* `Disk.normalize` — the absolute text of a path: the home directory filled in and links resolved.
  A path that cannot be resolved keeps its names.
-/

namespace FixFirst

/-- What the links that were met resolve to, by the text of the path that led to each; nothing yet
for a link under way. -/
abbrev Trail := Keyed (Option Path)

/-- What came of resolving names. -/
inductive Resolved where
  /-- A path without links, and the links that were met. -/
  | path (path : Path) (trail : Trail)
  /-- A link was met again; its path and the names left, as they are written. -/
  | stuck (text : String)
  /-- Links led to links too often. -/
  | deep
  /-- A name cannot be looked up. -/
  | unusable
  deriving DecidableEq, Repr

namespace Disk

/-- Resolves names from the path `here`; links may be nested `depth` deep. -/
def resolveFrom (disk : Disk) (depth : Nat) (trail : Trail) (here : Path) : List String → Resolved
  | [] => .path here trail
  | name :: rest =>
    if name = "" || name = "." then resolveFrom disk depth trail here rest
    else if name = ".." then resolveFrom disk depth trail here.above rest
    else
      let place := here.child name
      if place.hasNul then .unusable
      else match disk.linkAt? place with
        | none => resolveFrom disk depth trail place rest
        | some target =>
          match trail.get? place.text with
          | some (some known) => resolveFrom disk depth trail known rest
          | some none => .stuck (Path.joinTexts place.text ("/".intercalate rest))
          | none =>
            match depth with
            | 0 => .deep
            | left + 1 =>
              let start := if target.startsWith "/" then Path.rooted [] else here
              match resolveFrom disk left ((place.text, none) :: trail) start (Path.partsOf target) with
              | .path known trail => resolveFrom disk (left + 1) ((place.text, some known) :: trail) known rest
              | .stuck text => .stuck (Path.joinTexts text ("/".intercalate rest))
              | failed => failed
termination_by names => (depth, names.length)

/-- Resolves all names of a path. -/
def resolveNames (disk : Disk) (path : Path) : Resolved :=
  disk.resolveFrom disk.nesting [] (if path.isAbsolute then .rooted [] else ⟨0, []⟩) path.names

/-- The absolute path of a resolved one, which may not be a link that never ends. -/
def settle (disk : Disk) (path : Path) : Except Fault Path :=
  let place := (disk.absolute path).collapsed
  if place.hasNul then .error (.value "embedded null byte")
  else match disk.follow place with
    | .endless => .error (.runtime s!"Symlink loop from '{place.text}'")
    | _ => .ok place

/-- The absolute path that a path resolves to, existing or not. -/
def resolve (disk : Disk) (path : Path) : Except Fault Path :=
  match disk.resolveNames path with
  | .path found _ => disk.settle found
  | .stuck text => disk.settle (Path.ofText text)
  | .deep => .error (.nesting "maximum recursion depth exceeded")
  | .unusable => .error (.value "embedded null byte")

/-- Fills in the home directory for a first name `~`, or the one of the user whose name follows. -/
def expandHome (disk : Disk) (path : Path) : Except Fault Path :=
  if path.isAbsolute then .ok path
  else match path.names with
    | name :: rest =>
      if name.toList.head? != some '~' then .ok path
      else if name = "~" then .ok (Path.rooted (disk.home ++ rest))
      else if name.contains '\x00' then .error (.value "embedded null byte")
      else match disk.users.get? (String.ofList name.toList.tail) with
        | some place => .ok (Path.rooted (place ++ rest))
        | none => .error (.runtime "Could not determine home directory.")
    | [] => .ok path

/-- The absolute text of a path. -/
def normalizePath (disk : Disk) (path : Path) : Except Fault String := do
  let expanded ← disk.expandHome path
  match disk.resolve expanded with
  | .ok place => .ok place.text
  | .error (.value reason) => .error (.value reason)
  | .error _ => .ok (disk.absolute expanded).text

/-- The absolute text of the path that a text denotes. -/
def normalize (disk : Disk) (text : String) : Except Fault String :=
  disk.normalizePath (Path.ofText text)

/-- The absolute texts of paths, without repetitions. -/
def normalizeAll (disk : Disk) (texts : List String) : Except Fault (List String) := do
  return firsts (← texts.mapM disk.normalize)

end Disk

end FixFirst
