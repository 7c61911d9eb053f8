import FixFirst.Phase
import FixFirst.Text.Digit
import FixFirst.Text.Quoted

/-!
# Faults

Everything that can go wrong, as causes.  The wording of a cause is in
`Fault.message`, the name of its kind in `Fault.kind`; nothing else in the library
spells them out.
-/

namespace FixFirst

/-- A step from a record or a list to a part of it. -/
inductive Step where
  | field (name : String)
  | index (position : Nat)
  deriving DecidableEq, Repr

/-- The text of a step. -/
def Step.text : Step → String
  | field name => name
  | index position => String.ofList (Text.natText position)

/-- What is wrong with a value that was given for a field. -/
inductive Flaw where
  | missing
  | notInteger
  | fractional
  | unreadableInteger
  | oversizedInteger
  | notNumber
  | unreadableNumber
  | notBoolean
  | unreadableBoolean
  | notText
  | notChoice (options : List String)
  | notPath
  | notList
  | notMap
  | notRecord (title : String)
  | tooSmall (least : String)
  | notAbove (bound : String)
  | tooLarge (most : String)
  | notBelow (bound : String)
  | rejected (reason : String)
  | frozen
  | unknownField (name : String)
  | notFinite
  deriving DecidableEq, Repr

namespace Flaw

/-- The name of a flaw. -/
def name : Flaw → String
  | missing => "missing"
  | notInteger => "int_type"
  | fractional => "int_from_float"
  | unreadableInteger => "int_parsing"
  | oversizedInteger => "int_parsing_size"
  | notNumber => "float_type"
  | unreadableNumber => "float_parsing"
  | notBoolean => "bool_type"
  | unreadableBoolean => "bool_parsing"
  | notText => "string_type"
  | notChoice _ => "enum"
  | notPath => "path_type"
  | notList => "list_type"
  | notMap => "dict_type"
  | notRecord _ => "model_type"
  | tooSmall _ => "greater_than_equal"
  | notAbove _ => "greater_than"
  | tooLarge _ => "less_than_equal"
  | notBelow _ => "less_than"
  | rejected _ => "value_error"
  | frozen => "frozen_instance"
  | unknownField _ => "no_such_attribute"
  | notFinite => "finite_number"

/-- Quoted alternatives, the last two of them joined by a word. -/
def alternatives : List String → String
  | [] => ""
  | [last] => s!"'{last}'"
  | [first, last] => s!"'{first}' or '{last}'"
  | first :: rest => s!"'{first}', " ++ alternatives rest

/-- What is said about a flaw. -/
def message : Flaw → String
  | missing => "Field required"
  | notInteger => "Input should be a valid integer"
  | fractional => "Input should be a valid integer, got a number with a fractional part"
  | unreadableInteger => "Input should be a valid integer, unable to parse string as an integer"
  | oversizedInteger => "Unable to parse input string as an integer, exceeded maximum size"
  | notNumber => "Input should be a valid number"
  | unreadableNumber => "Input should be a valid number, unable to parse string as a number"
  | notBoolean => "Input should be a valid boolean"
  | unreadableBoolean => "Input should be a valid boolean, unable to interpret input"
  | notText => "Input should be a valid string"
  | notChoice options => "Input should be " ++ alternatives options
  | notPath => "Input is not a valid path"
  | notList => "Input should be a valid list"
  | notMap => "Input should be a valid dictionary"
  | notRecord title => s!"Input should be a valid dictionary or instance of {title}"
  | tooSmall least => s!"Input should be greater than or equal to {least}"
  | notAbove bound => s!"Input should be greater than {bound}"
  | tooLarge most => s!"Input should be less than or equal to {most}"
  | notBelow bound => s!"Input should be less than {bound}"
  | rejected reason => s!"Value error, {reason}"
  | frozen => "Instance is frozen"
  | unknownField field => s!"Object has no attribute '{field}'"
  | notFinite => "Input should be a finite number"

end Flaw

/-- A value as it is shown when something is wrong with it. -/
structure Exhibit where
  /-- The text of the value. -/
  text : String
  /-- The sort of values that it belongs to. -/
  sort : String
  deriving DecidableEq, Repr

namespace Exhibit

/-- The longest start of a text that has at most `size` bytes. -/
def startOf (size : Nat) : List Char → List Char
  | [] => []
  | c :: rest => if c.utf8Size ≤ size then c :: startOf (size - c.utf8Size) rest else []

/-- How many bytes of a text are shown. -/
def limit : Nat := 50

/-- The text of a value; the middle of a long one is left out. -/
def short (exhibit : Exhibit) : String :=
  if exhibit.text.utf8ByteSize ≤ limit then exhibit.text
  else
    let chars := exhibit.text.toList
    String.ofList (startOf 25 chars ++ "...".toList ++ (startOf 24 chars.reverse).reverse)

end Exhibit

/-- A flaw, the place of the value that has it, and the value. -/
structure Problem where
  place : List Step
  flaw : Flaw
  given : Exhibit
  deriving DecidableEq, Repr

/-- What is said about a problem.  The page of the manual about its flaw has the name of the flaw; where the
manual is, is not said. -/
def Problem.text (problem : Problem) : String :=
  let place := if problem.place.isEmpty then "" else ".".intercalate (problem.place.map Step.text) ++ "\n"
  let flaw := problem.flaw
  place ++ s!"  {flaw.message} [type={flaw.name}, input_value={problem.given.short}, " ++
    s!"input_type={problem.given.sort}]\n    For further information visit {flaw.name}"

/-- What is said about a phase that may not come next. -/
def Phase.refusal (source target : Phase) : String := s!"cannot move from {source.name} to {target.name}"

/-- Why an operation did not give a result. -/
inductive Fault where
  /-- The configuration cannot drive a run. -/
  | config (message : String)
  /-- A tool is not installed. -/
  | toolMissing (tool : String) (detail : Option String)
  /-- An engine ran and failed; its exit status, when known. -/
  | engineFailure (engine message : String) (status : Option Int)
  /-- The token of the operation was cancelled. -/
  | cancelled (reason : Option String)
  /-- A phase was entered that may not follow the current one. -/
  | transition (source target : Phase)
  /-- A record was given values that it does not accept. -/
  | invalid (title : String) (problems : List Problem)
  /-- The operation is not supported. -/
  | unsupported (message : String)
  /-- The operating system refused. -/
  | system (message : String)
  /-- The operating system denied access. -/
  | denied (message : String)
  /-- A value is out of its domain. -/
  | value (message : String)
  /-- A value is of the wrong kind. -/
  | type (message : String)
  /-- A key is not in a map. -/
  | key (message : String)
  /-- A record has no such part, or the part cannot be set. -/
  | part (message : String)
  /-- The tags of a marked text do not fit together. -/
  | markup (message : String)
  /-- The surroundings do not allow the operation. -/
  | runtime (message : String)
  /-- A number is beyond the range of its format. -/
  | overflow (message : String)
  /-- Values lie too deep in one another. -/
  | nesting (message : String)
  deriving DecidableEq, Repr

namespace Fault

/-- What is said about a fault. -/
def message : Fault → String
  | config text => text
  | toolMissing tool detail =>
    match detail with
    | some text => if text.isEmpty then s!"{tool} is not available" else s!"{tool} is not available: {text}"
    | none => s!"{tool} is not available"
  | engineFailure engine text _ => s!"{engine}: {text}"
  | cancelled reason =>
    match reason with
    | some text => if text.isEmpty then "operation cancelled" else text
    | none => "operation cancelled"
  | transition source target => source.refusal target
  | invalid title problems =>
    let errors := if problems.length = 1 then "error" else "errors"
    s!"{problems.length} validation {errors} for {title}\n" ++ "\n".intercalate (problems.map Problem.text)
  | unsupported text => text
  | system text => text
  | denied text => text
  | part text => text
  | markup text => text
  | value text => text
  | type text => text
  | key text => if text.isEmpty then "" else String.ofList (Text.quoted text.toList)
  | runtime text => text
  | overflow text => text
  | nesting text => text

/-- The name of the kind of a fault. -/
def kind : Fault → String
  | config _ => "ConfigError"
  | toolMissing .. => "ToolMissingError"
  | engineFailure .. => "EngineFailureError"
  | cancelled _ => "OperationCancelledError"
  | transition .. => "PhaseTransitionError"
  | invalid .. => "ValidationError"
  | unsupported _ => "NotImplementedError"
  | system _ => "OSError"
  | denied _ => "PermissionError"
  | part _ => "AttributeError"
  | markup _ => "MarkupError"
  | value _ => "ValueError"
  | type _ => "TypeError"
  | key _ => "KeyError"
  | runtime _ => "RuntimeError"
  | overflow _ => "OverflowError"
  | nesting _ => "RecursionError"

/-- Whether a fault is one of the domain, and not of a value or the system. -/
def ofDomain : Fault → Bool
  | config _ | toolMissing .. | engineFailure .. | cancelled _ | transition .. => true
  | _ => false

/-- Whether a fault is an expected way for an engine to fail: one of the domain, a missing
capability, a refusal of the system, or a value out of its domain. -/
def isExpected : Fault → Bool
  | unsupported _ | system _ | denied _ | value _ | invalid .. => true
  | fault => fault.ofDomain

end Fault

end FixFirst
