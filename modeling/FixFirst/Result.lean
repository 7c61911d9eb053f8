import FixFirst.Issue

/-!
# Results of engines

What one call of one engine gave: the issues it reported, the files it changed, and whether
it went through.
-/

namespace FixFirst

/-- What an engine is called for. -/
inductive Pass where
  | fix
  | check
  deriving DecidableEq, Repr

namespace Pass

/-- Both passes. -/
def all : List Pass := [fix, check]

/-- The name of a pass. -/
def name : Pass → String
  | fix => "fix"
  | check => "check"

end Pass

/-- What one call of an engine gave. -/
structure EngineResult (τ : Type) where
  engine : String
  kind : Kind
  pass : Pass
  success : Bool
  issues : List Issue
  duration : τ
  fixable : Option Bool
  fixedCount : Int
  /-- The files that the call changed. -/
  modified : List String
  /-- What the call fixed. -/
  fixed : List FixRecord
  cancelled : Bool
  deriving Repr

/-- The fields of a result. -/
def EngineResult.schema (disk : Disk) : Schema (EngineResult Float) :=
  .plain "EngineResult" ⟨"", .lint, .check, false, [], 0, none, 0, [], [], false⟩
    [.needed "engine" .text (·.engine) (fun result value => { result with engine := value }),
     .needed "kind" (.choice Kind.all Kind.name) (·.kind) (fun result value => { result with kind := value }),
     .given "phase" (.choice Pass.all Pass.name) (·.pass) (fun result value => { result with pass := value }),
     .needed "success" .boolean (·.success) (fun result value => { result with success := value }),
     .given "issues" (.list (Issue.schema disk).codec) (·.issues)
       (fun result value => { result with issues := value }),
     .given "duration" .number (·.duration) (fun result value => { result with duration := value }),
     .given "fixable" (.optional .boolean) (·.fixable) (fun result value => { result with fixable := value }),
     .given "fixed_count" .integer (·.fixedCount) (fun result value => { result with fixedCount := value }),
     .given "modified_files" (.files disk) (·.modified) (fun result value => { result with modified := value }),
     .given "fixed" (.list (FixRecord.schema disk).codec) (·.fixed)
       (fun result value => { result with fixed := value }),
     .given "cancelled" .boolean (·.cancelled) (fun result value => { result with cancelled := value })]

end FixFirst
