import FixFirst.Issue
import FixFirst.Json.Printer
import FixFirst.Text.Lines

/-!
# Findings printed as JSON

A tool prints its findings as one JSON document, or as one document a line with other lines
in between.  Each object found there is a finding, if it names a file.  A field of an
unexpected type counts as absent.

## Main definitions

* `records` — the documents of an output.
* `ofLintOutput` — the issues of a linter, whose objects hold their places as rows and columns.
* `ofTypeOutput` — the issues of a type checker, whose columns count from zero.
-/

namespace FixFirst.Findings

open Text

/-- The fault of a whole number with too many digits. -/
def oversized (digits : Nat) : Fault :=
  .value (s!"Exceeds the limit ({maxDigits} digits) for integer string conversion: value has {digits} digits; " ++
    "use sys.set_int_max_str_digits() to increase the limit")

/-- What is wrong with an array or an object that lies too deep. -/
def tooDeep (holder : String) : Fault :=
  .nesting s!"maximum recursion depth exceeded while decoding a JSON {holder} from a unicode string"

/-- The fault of a text that is not just no document, if it is one.  Texts with half of a pair alone
are none that this library has, so there is no saying what is in such a document. -/
def faultOf? : Json.ReadFault → Option Fault
  | .malformed => none
  | .oversized digits => some (oversized digits)
  | .deepArray => some (tooDeep "array")
  | .deepObject => some (tooDeep "object")
  | .halved => some (.value "surrogates not allowed")

/-- How much of a text that is no whole number is shown. -/
def shownLength : Nat := 200

/-- The whole number that a text denotes, or what is wrong with it. -/
def wholeNumber (text : List Char) : Except Fault Int :=
  match wholeNumber? text with
  | some number => .ok number
  | none =>
    let digits := ((splitSign text).2.takeWhile isDecimal).length
    if maxDigits < digits then .error (oversized digits)
    else
      let shown := String.ofList ((quoted text).take shownLength)
      .error (.value s!"invalid literal for int() with base 10: {shown}")

/-- The documents in lines, each line that is not a document being skipped. -/
def lineRecords (room : Nat) : List (List Char) → Except Fault (List Json)
  | [] => .ok []
  | line :: rest =>
    let body := trim line
    if body.isEmpty then lineRecords room rest
    else match Json.read room body with
      | .ok value => (lineRecords room rest).map (value :: ·)
      | .error cause => match faultOf? cause with
        | none => lineRecords room rest
        | some fault => .error fault

/-- The value of an output: the document it is, or the list of the documents in its lines; `room` is
how deep documents may be nested. -/
def records (room : Nat) (output : List Char) : Except Fault Json :=
  let body := trim output
  if body.isEmpty then .ok (.arr [])
  else match Json.read room body with
    | .ok value => .ok value
    | .error cause => match faultOf? cause with
      | none => (lineRecords room (lines body)).map .arr
      | some fault => .error fault

/-- The text of a field, unless it is blank. -/
def optionalText (value : Option Json) : Option (List Char) :=
  match value with
  | none | some .null => none
  | some given =>
    let body := trim given.plainText
    if body.isEmpty then none else some body

/-- The text of a field as a string. -/
def optionalString (value : Option Json) : Option String := (optionalText value).map String.ofList

/-- The whole number of a field: a number, or a text of digits after any number of minus signs,
which then has to be a number. -/
def optionalInt (value : Option Json) : Except Fault (Option Int) :=
  match value with
  | some (.int number) => .ok (some number)
  | some (.str text) =>
    let body := trim text.toList
    if allDigits (body.dropWhile (· == '-')) then (wholeNumber body).map some else .ok none
  | _ => .ok none

/-- The members of a field that is an object. -/
def memberOf (entries : Keyed Json) (name : String) : Keyed Json :=
  ((entries.get? name).map Json.members).getD []

/-- A number, or one if there is none or it is zero. -/
def orOne (value : Option Int) : Int :=
  match value with
  | some number => if number = 0 then 1 else number
  | none => 1

/-- The issue of an object that a linter printed. -/
def lintIssue? (disk : Disk) (cwd : Path) (tool : String) (entries : Keyed Json) :
    Except Fault (Option Issue) :=
  match optionalString (entries.get? "filename") with
  | none => .ok none
  | some file => do
    let location := memberOf entries "location"
    let ending := memberOf entries "end_location"
    let code := optionalText (entries.get? "code")
    let line ← optionalInt (location.get? "row")
    let column ← optionalInt (location.get? "column")
    let endLine ← optionalInt (ending.get? "row")
    let endColumn ← optionalInt (ending.get? "column")
    let finding : Finding :=
      { kind := .lint
        severity := match code with
          | some text => Severity.ofCode text .warning
          | none => .error
        file := cwd.under (Path.ofText file)
        line := orOne line
        column := orOne column
        endLine, endColumn
        rule := code.map String.ofList
        message := (optionalString (entries.get? "message")).getD ""
        suggestion := optionalString ((memberOf entries "fix").get? "message")
        tool }
    return some (← finding.issue disk)

/-- The issue of an object that a type checker printed. -/
def typeIssue? (disk : Disk) (cwd : Path) (tool : String) (entries : Keyed Json) :
    Except Fault (Option Issue) :=
  match optionalString (entries.get? "file") with
  | none => .ok none
  | some file => do
    let line ← optionalInt (entries.get? "line")
    let column ← optionalInt (entries.get? "column")
    let finding : Finding :=
      { kind := .typeCheck
        severity := Severity.ofLabel ((optionalText (entries.get? "severity")).getD []) .error
        file := cwd.under (Path.ofText file)
        line := match line with
          | some number => if 0 < number then number else 1
          | none => 1
        column := match column with
          | some number => if 0 ≤ number then number + 1 else 1
          | none => 1
        endLine := none
        endColumn := none
        rule := optionalString (entries.get? "code")
        message := (optionalString (entries.get? "message")).getD ""
        suggestion := optionalString (entries.get? "hint")
        tool }
    return some (← finding.issue disk)

/-- The issues that `issue?` makes of the objects of an output, in order. -/
def ofOutput (room : Nat) (issue? : Keyed Json → Except Fault (Option Issue)) (output : String) :
    Except Fault (List Issue) := do
  let value ← records room output.toList
  let found ← value.objects.mapM issue?
  return found.filterMap id

/-- The issues in the output of a linter that ran in `cwd`. -/
def ofLintOutput (room : Nat) (disk : Disk) (cwd : Path) (tool : String) (output : String) :
    Except Fault (List Issue) :=
  ofOutput room (lintIssue? disk cwd tool) output

/-- The issues in the output of a type checker that ran in `cwd`. -/
def ofTypeOutput (room : Nat) (disk : Disk) (cwd : Path) (tool : String) (output : String) :
    Except Fault (List Issue) :=
  ofOutput room (typeIssue? disk cwd tool) output

end FixFirst.Findings
