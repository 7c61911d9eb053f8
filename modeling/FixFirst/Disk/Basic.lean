import FixFirst.Keyed
import FixFirst.Path

/-!
# Disks

A disk holds files with their bytes, symbolic links with their targets, and directories.  Every
place on it is named from the root.
-/

namespace FixFirst

/-- A disk, the directories that paths are seen from, and what the system sets limits to. -/
structure Disk where
  /-- The bytes of each file, by absolute path. -/
  files : Keyed (List UInt8)
  /-- The target of each symbolic link, by absolute path. -/
  links : Keyed String
  /-- Further directories; the ones above files and links exist in any case. -/
  directories : List String
  /-- Files and directories that cannot be opened. -/
  unreadable : List String
  /-- Directories in which no name can be looked up; the ones above the working directory are open
  in any case. -/
  locked : List String
  /-- The working directory. -/
  cwd : List String
  /-- The home directory. -/
  home : List String
  /-- The home directories of the other users, by their names. -/
  users : Keyed (List String)
  /-- The most bytes of a name, if there is a limit. -/
  longestName : Option Nat
  /-- The most bytes of a path, if there is a limit. -/
  longestPath : Option Nat
  /-- How many links may lead to one another. -/
  nesting : Nat
  deriving DecidableEq, Repr

namespace Disk

/-- A disk without entries, other users and limits to names; the working directory and the home
directory are as given. -/
def empty (cwd home : List String) : Disk where
  files := []
  links := []
  directories := []
  unreadable := []
  locked := []
  cwd
  home
  users := []
  longestName := none
  longestPath := none
  nesting := 0

/-- Every path that is an entry of its own. -/
def entries (disk : Disk) : List String :=
  disk.files.keys ++ disk.links.keys ++ disk.directories ++ [Path.rootedText disk.cwd, Path.rootedText disk.home]

/-- The bytes of the file at a place. -/
def file? (disk : Disk) (names : List String) : Option (List UInt8) :=
  disk.files.get? (Path.rootedText names)

/-- The target of the link at a place. -/
def link? (disk : Disk) (names : List String) : Option String :=
  disk.links.get? (Path.rootedText names)

/-- Whether a place is a directory. -/
def isDirectory (disk : Disk) (names : List String) : Bool :=
  names.isEmpty || names == disk.cwd || names == disk.home ||
    disk.directories.contains (Path.rootedText names) ||
    disk.entries.any fun entry =>
      let parts := Path.namesOf entry
      names.isPrefixOf parts && parts.length != names.length

/-- Whether there is a file or a directory at a place. -/
def present (disk : Disk) (names : List String) : Bool :=
  (disk.file? names).isSome || disk.isDirectory names

/-- The names of a path, seen from the root. -/
def namesFrom (disk : Disk) (path : Path) : List String :=
  if path.isAbsolute then path.names else disk.cwd ++ path.names

/-- The absolute form of a path, without following links. -/
def absolute (disk : Disk) (path : Path) : Path := (Path.rooted disk.cwd).under path

/-- Gives a file new bytes, or removes it. -/
def write (disk : Disk) (path : String) : Option (List UInt8) → Disk
  | some bytes => { disk with files := disk.files.put path bytes }
  | none => { disk with files := disk.files.erase path }

end Disk

end FixFirst
