import FixFirst.Schema.Record
import FixFirst.Severity

/-!
# Issues

An issue is one finding of one engine at one place of one file.  Two issues are the same
finding when kind of engine, file, line, column and rule agree.
-/

namespace FixFirst

/-- The kinds of engines. -/
inductive Kind where
  | typeCheck
  | lint
  | format
  deriving DecidableEq, Repr

namespace Kind

/-- All kinds. -/
def all : List Kind := [typeCheck, lint, format]

/-- The name of a kind. -/
def name : Kind → String
  | typeCheck => "type-check"
  | lint => "lint"
  | format => "format"

/-- The symbol of a kind. -/
def symbol : Kind → String
  | typeCheck => "TYPE_CHECK"
  | lint => "LINT"
  | format => "FORMAT"

/-- The text by which a kind is shown when something is wrong around it. -/
def shownText (kind : Kind) : String := s!"<EngineKind.{kind.symbol}: '{kind.name}'>"

end Kind

/-- One finding. -/
structure Issue where
  kind : Kind
  severity : Severity
  /-- The absolute path of the file. -/
  file : String
  line : Nat
  column : Nat
  endLine : Option Int
  endColumn : Option Int
  rule : Option String
  message : String
  suggestion : Option String
  /-- The name of the engine that reported the issue. -/
  tool : Option String
  deriving DecidableEq, Repr

/-- What two reports of the same finding agree on. -/
structure Identity where
  kind : Kind
  file : String
  line : Nat
  column : Nat
  rule : Option String
  deriving DecidableEq, Repr

namespace Issue

/-- The identity of an issue. -/
def identity (issue : Issue) : Identity :=
  ⟨issue.kind, issue.file, issue.line, issue.column, issue.rule⟩

/-- The fields of an issue. -/
def schema (disk : Disk) : Schema Issue :=
  .constant "Issue" ⟨.lint, .error, "", 1, 1, none, none, none, "", none, none⟩
    [.needed "engine" (.choice Kind.all Kind.name) (·.kind) (fun issue value => { issue with kind := value }),
     .needed "severity" (.choice Severity.all Severity.name) (·.severity)
       (fun issue value => { issue with severity := value }),
     .needed "file" (.file disk) (·.file) (fun issue value => { issue with file := value }),
     .given "line" (.count 0) (·.line) (fun issue value => { issue with line := value }),
     .given "col" (.count 0) (·.column) (fun issue value => { issue with column := value }),
     .given "end_line" (.optional .integer) (·.endLine) (fun issue value => { issue with endLine := value }),
     .given "end_col" (.optional .integer) (·.endColumn) (fun issue value => { issue with endColumn := value }),
     .given "rule_id" (.optional .text) (·.rule) (fun issue value => { issue with rule := value }),
     .needed "message" .text (·.message) (fun issue value => { issue with message := value }),
     .given "suggestion" (.optional .text) (·.suggestion)
       (fun issue value => { issue with suggestion := value }),
     .given "tool" (.optional .text) (·.tool) (fun issue value => { issue with tool := value })]

end Issue

/-- What a tool said about one place, before it is known to be an issue. -/
structure Finding where
  kind : Kind
  severity : Severity
  file : Path
  line : Int
  column : Int
  endLine : Option Int
  endColumn : Option Int
  rule : Option String
  message : String
  suggestion : Option String
  tool : String
  deriving Repr

/-- A path as it is shown when something is wrong with it. -/
def Path.exhibit (path : Path) : Exhibit :=
  let quoted := String.ofList (Text.quoted path.text.toList)
  ⟨s!"PosixPath({quoted})", "PosixPath"⟩

/-- The issue of a finding: its file is made absolute, and its line and column may not be
negative. -/
def Finding.issue (disk : Disk) (finding : Finding) : Except Fault Issue :=
  let below (name : String) (value : Int) : List Problem :=
    if value < 0 then [⟨[.field name], .tooSmall "0", (Json.int value).exhibit⟩] else []
  let finish (file : String) (found : List Problem) : Except Fault Issue :=
    let problems := found ++ below "line" finding.line ++ below "col" finding.column
    if problems.isEmpty then
      .ok ⟨finding.kind, finding.severity, file, finding.line.toNat, finding.column.toNat,
        finding.endLine, finding.endColumn, finding.rule, finding.message, finding.suggestion,
        some finding.tool⟩
    else .error (.invalid "Issue" problems)
  match disk.normalizePath finding.file with
  | .ok file => finish file []
  | .error (.value reason) => finish "" [⟨[.field "file"], .rejected reason, finding.file.exhibit⟩]
  | .error fault => .error fault

/-- A file that an engine fixed, and the rule if it is known. -/
structure FixRecord where
  file : String
  rule : Option String
  deriving DecidableEq, Repr

/-- The fields of a fix record. -/
def FixRecord.schema (disk : Disk) : Schema FixRecord :=
  .constant "FixRecord" ⟨"", none⟩
    [.needed "file" (.file disk) (·.file) (fun entry value => { entry with file := value }),
     .given "rule_id" (.optional .text) (·.rule) (fun entry value => { entry with rule := value })]

end FixFirst
