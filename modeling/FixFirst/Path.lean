import FixFirst.Text.CharClass

/-!
# Paths

A path is a root and the names below it.  Reading a path drops the empty names and
the dots; the names `..` stay, because what is above a link is decided by the disk.
-/

namespace FixFirst

/-- A path: the number of slashes of its root (none for a relative path) and its names. -/
structure Path where
  slashes : Nat
  names : List String
  deriving DecidableEq, Repr

namespace Path

/-- The parts of a text between its slashes. -/
def partsOf (text : String) : List String := (Text.fields '/' text.toList).map String.ofList

/-- The names between the slashes of a text, without the empty ones and the dots. -/
def namesOf (text : String) : List String :=
  (partsOf text).filter fun name => name != "" && name != "."

/-- The path a text denotes.  Two slashes at the start are a root of their own; any other
positive number counts as one. -/
def ofText (text : String) : Path :=
  let count := (text.toList.takeWhile (· == '/')).length
  ⟨if count = 0 then 0 else if count = 2 then 2 else 1, namesOf text⟩

/-- The text of a path; the empty relative path is a dot. -/
def text (path : Path) : String :=
  if path.slashes = 0 && path.names.isEmpty then "."
  else String.ofList (List.replicate path.slashes '/') ++ "/".intercalate path.names

/-- Whether a path starts at the root. -/
def isAbsolute (path : Path) : Bool := path.slashes != 0

/-- `path` seen from the directory `base`. -/
def under (base path : Path) : Path :=
  if path.isAbsolute then path else { base with names := base.names ++ path.names }

/-- The path of names below the root. -/
def rooted (names : List String) : Path := ⟨1, names⟩

/-- The text of names below the root. -/
def rootedText (names : List String) : String := (rooted names).text

/-- The path of a name in the directory that `path` leads to. -/
def child (path : Path) (name : String) : Path := { path with names := path.names ++ [name] }

/-- The directory above: the last name goes, unless it leads up itself.  Nothing is above the root. -/
def above (path : Path) : Path :=
  if path.names.getLast? == some ".." || (path.names.isEmpty && !path.isAbsolute) then path.child ".."
  else { path with names := path.names.dropLast }

/-- A text behind another one, with a slash between them; a text that starts with a slash stands
for itself. -/
def joinTexts (base rest : String) : String :=
  if rest.startsWith "/" then rest
  else if base.isEmpty || base.endsWith "/" then base ++ rest
  else base ++ "/" ++ rest

/-- What is left of `path` below `base`. -/
def below? (base path : Path) : Option Path :=
  if base.slashes = path.slashes && base.names.isPrefixOf path.names then
    some ⟨0, path.names.drop base.names.length⟩
  else none

/-- Removes each `..` together with the name before it, whatever that name is a name of. -/
def collapse (names : List String) : List String :=
  names.foldl (fun done name => if name = ".." then done.dropLast else done ++ [name]) []

/-- The path without its `..`, whatever the names before them are names of. -/
def collapsed (path : Path) : Path := { path with names := collapse path.names }

/-- Whether a name of the path holds a NUL character. -/
def hasNul (path : Path) : Bool :=
  path.names.any fun name => name.toList.contains (Char.ofNat 0)

end Path

end FixFirst
