import FixFirst.Text.Blank

/-!
# Severity

How grave a finding is.  Tools name severities in their own words or hide them in the
first letter of a rule code; both are mapped onto three levels.
-/

namespace FixFirst

/-- How grave a finding is. -/
inductive Severity where
  | error
  | warning
  | info
  deriving DecidableEq, Repr

namespace Severity

/-- All severities, the gravest first. -/
def all : List Severity := [error, warning, info]

/-- The name of a severity. -/
def name : Severity → String
  | error => "error"
  | warning => "warning"
  | info => "info"

/-- The severity with a name. -/
def ofName? (text : String) : Option Severity := all.find? fun severity => severity.name == text

/-- The place of a severity in the order of gravity; errors come first. -/
def rank : Severity → Nat
  | error => 0
  | warning => 1
  | info => 2

/-- Whether a severity is as grave as `threshold` or graver. -/
def atLeast (severity threshold : Severity) : Bool := severity.rank ≤ threshold.rank

/-- The severity by the first letter of a rule code: E and F are errors and W is a warning, in
either case. -/
def ofCode (code : List Char) (default : Severity) : Severity :=
  match code with
  | [] => default
  | head :: _ =>
    if head.toUpper = 'E' || head.toUpper = 'F' then error
    else if head.toUpper = 'W' then warning
    else default

/-- The words of tools for severities. -/
def labels : List (String × Severity) :=
  [("error", error), ("fatal", error), ("warning", warning), ("warn", warning), ("note", info),
   ("notice", info), ("info", info), ("hint", info)]

/-- The severity by a tool's word for it, in any case and with blanks around it. -/
def ofLabel (label : List Char) (default : Severity) : Severity :=
  let word := String.ofList (Text.lowerAscii (Text.trim label))
  ((labels.find? fun entry => entry.1 == word).map (·.2)).getD default

end Severity

end FixFirst
