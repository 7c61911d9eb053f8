import FixFirst.Findings.Records

/-!
# Findings printed as notices

A formatter names the files that it would change in one of three layouts: a sentence with
the path; a line with path, place and notice; or a notice followed by a locator line.  It
names the files that it could not read in the lines of its error output.

## Main definitions

* `notice` — what one line of the output says.
* `failure?` — what one line of the error output says.
* `ofFormatOutput` — the issues of both outputs: one warning for each file, then the errors.
-/

namespace FixFirst.Findings

open Text

/-- The text after a word that it starts with. -/
def afterWord? : List Char → List Char → Option (List Char)
  | [], text => some text
  | c :: word, d :: text => if c = d then afterWord? word text else none
  | _ :: _, [] => none

/-- The texts that may follow one or more blanks: after all of them first, then with the blanks
given back one by one. -/
def afterBlanks (text : List Char) : List (List Char) :=
  let count := (text.takeWhile isBlank).length
  (List.range count).map fun back => text.drop (count - back)

/-- The digits at the start of a text, if there are any, and the rest. -/
def digits? (text : List Char) : Option (List Char × List Char) :=
  let found := text.takeWhile isDecimal
  if found.isEmpty then none else some (found, text.dropWhile isDecimal)

/-- A line and a column, as written. -/
structure Position where
  line : List Char
  column : List Char
  deriving Repr

/-- A position `:line:column` at the start of a text, and the rest. -/
def position? (text : List Char) : Option (Position × List Char) :=
  match text with
  | ':' :: afterColon =>
    match digits? afterColon with
    | some (line, ':' :: afterLine) =>
      match digits? afterLine with
      | some (column, rest) => some (⟨line, column⟩, rest)
      | none => none
    | _ => none
  | _ => none

/-- The shortest path, of at least one character, after which `tail` finds what it looks for.
The characters already taken are in `taken`, newest first. -/
def shortestPath? {α : Type} (tail : List Char → Option α) (taken : List Char) :
    List Char → Option (List Char × α)
  | [] => none
  | c :: rest =>
    match tail rest with
    | some found => some ((c :: taken).reverse, found)
    | none => shortestPath? tail (c :: taken) rest

/-- What a line of the output says. -/
inductive Notice where
  /-- A path that would be changed, without a place. -/
  | reformat (path : List Char)
  /-- A path that would be changed, at a place. -/
  | located (path : List Char) (position : Position)
  /-- The next locator names a path that would be changed. -/
  | header
  /-- A locator: a path and a place. -/
  | locator (path : List Char) (position : Position)
  /-- Anything else. -/
  | noise
  deriving Repr

/-- The path of a sentence such as `Would reformat: a/b`. -/
def reformat? (line : List Char) : Option (List Char) := do
  let rest ← afterWord? "Would reformat:".toList line
  let path := trimStart rest
  if path.isEmpty || path.length = rest.length then none else some path

/-- The place in a notice such as `:1:1: unformatted: ...`. -/
def conciseTail? (text : List Char) : Option Position :=
  match position? text with
  | some (position, ':' :: rest) =>
    if (afterBlanks rest).any fun body => (afterWord? "unformatted:".toList body).isSome then
      some position
    else none
  | _ => none

/-- Whether a line announces a locator. -/
def isHeader (line : List Char) : Bool :=
  match afterWord? "unformatted:".toList line with
  | some (c :: _) => isBlank c
  | _ => false

/-- A place at the end of a line. -/
def finalPosition? (text : List Char) : Option Position :=
  match position? text with
  | some (position, rest) => if rest.all isBlank then some position else none
  | none => none

/-- The path and place of a locator such as `--> a/b:1:2`. -/
def locator? (line : List Char) : Option (List Char × Position) := do
  let rest ← afterWord? "-->".toList line
  (afterBlanks rest).findSome? (shortestPath? finalPosition? [])

/-- What a line says, blanks around it being cut off. -/
def notice (line : List Char) : Notice :=
  let body := trim line
  match reformat? body with
  | some path => .reformat path
  | none =>
    match shortestPath? conciseTail? [] body with
    | some (path, position) => .located path position
    | none =>
      if isHeader body then .header
      else match locator? body with
        | some (path, position) => .locator path position
        | none => .noise

/-- A file that could not be formatted: its path, the place, and what was said. -/
structure Failure where
  path : List Char
  position : Position
  message : List Char
  deriving Repr

/-- A place followed by a message. -/
def failureTail? (text : List Char) : Option (Position × List Char) :=
  match position? text with
  | some (position, ':' :: rest) => some (position, trimStart rest)
  | _ => none

/-- What a line of the error output says about a file. -/
def failure? (line : List Char) : Option Failure := do
  let afterError ← afterWord? "error:".toList (trim line)
  let sentence := trimStart afterError
  if sentence.length = afterError.length then none
  else
    let verb ← afterWord? "Failed to ".toList sentence
    let rest ← (afterWord? "parse".toList verb) <|> (afterWord? "format".toList verb)
    let (path, position, message) ← (afterBlanks rest).findSome? (shortestPath? failureTail? [])
    return ⟨path, position, message⟩

/-- The rule of every file that is not formatted. -/
def formatRule : String := "format"

/-- The warning for a file that is not formatted. -/
def formatWarning (disk : Disk) (cwd : Path) (tool : String) (path : List Char) (line column : Int) :
    Except Fault Issue :=
  Finding.issue disk
    { kind := .format
      severity := .warning
      file := cwd.under (Path.ofText (String.ofList path))
      line, column
      endLine := none
      endColumn := none
      rule := some formatRule
      message := "File is not formatted"
      suggestion := some "Run the formatter to rewrite the file"
      tool }

/-- The error for a file that could not be formatted. -/
def formatError (disk : Disk) (cwd : Path) (tool : String) (failure : Failure) : Except Fault Issue := do
  let line ← wholeNumber failure.position.line
  let column ← wholeNumber failure.position.column
  Finding.issue disk
    { kind := .format
      severity := .error
      file := cwd.under (Path.ofText (String.ofList failure.path))
      line, column
      endLine := none
      endColumn := none
      rule := none
      message := if failure.message.isEmpty then "File could not be formatted" else String.ofList failure.message
      suggestion := none
      tool }

/-- The warnings so far, and whether a header waits for its locator. -/
structure Warnings where
  issues : List Issue
  waiting : Bool

/-- Adds a warning, unless its file has one. -/
def Warnings.add (warnings : Warnings) (issue : Issue) : Warnings :=
  if warnings.issues.any fun known => known.file == issue.file then warnings
  else { warnings with issues := warnings.issues ++ [issue] }

/-- Takes in one line of the output. -/
def Warnings.take (disk : Disk) (cwd : Path) (tool : String) (warnings : Warnings) (line : List Char) :
    Except Fault Warnings :=
  match notice line with
  | .reformat path => do return warnings.add (← formatWarning disk cwd tool path 1 1)
  | .located path position => do
    let row ← wholeNumber position.line
    let column ← wholeNumber position.column
    return warnings.add (← formatWarning disk cwd tool path row column)
  | .header => .ok { warnings with waiting := true }
  | .locator path position =>
    if warnings.waiting then do
      let row ← wholeNumber position.line
      let column ← wholeNumber position.column
      return { warnings.add (← formatWarning disk cwd tool path row column) with waiting := false }
    else .ok warnings
  | .noise => .ok warnings

/-- The issues in the two outputs of a formatter that ran in `cwd`. -/
def ofFormatOutput (disk : Disk) (cwd : Path) (tool : String) (output errors : String) :
    Except Fault (List Issue) := do
  let warnings ← (lines output.toList).foldlM (Warnings.take disk cwd tool) ⟨[], false⟩
  let failures := (lines errors.toList).filterMap failure?
  let found ← failures.mapM (formatError disk cwd tool)
  return warnings.issues ++ found

end FixFirst.Findings
