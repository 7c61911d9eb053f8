import FixFirst.Result

/-!
# Outcomes of engine calls

What became of one call of an engine.  A call that came back gave a result, found its tool
missing, or failed; one that did not come back in time, or was never started, is abandoned.
-/

namespace FixFirst

/-- How a call of an engine ends. -/
inductive Reply (τ : Type) where
  | result (result : EngineResult τ)
  | fault (fault : Fault)
  /-- The call does not come back. -/
  | silence
  deriving Repr

/-- What became of a call. -/
inductive Verdict (τ : Type) where
  | result (result : EngineResult τ)
  /-- The tool is missing. -/
  | missing (message : String)
  | failure (message : String)
  | abandoned
  deriving Repr

/-- What became of a call of an engine. -/
structure Outcome (τ : Type) where
  engine : String
  pass : Pass
  verdict : Verdict τ
  deriving Repr

namespace Outcome

variable {τ : Type}

/-- The result of a call that gave one. -/
def result? (outcome : Outcome τ) : Option (EngineResult τ) :=
  match outcome.verdict with
  | .result result => some result
  | _ => none

/-- Whether a call was abandoned. -/
def isAbandoned (outcome : Outcome τ) : Bool :=
  match outcome.verdict with
  | .abandoned => true
  | _ => false

end Outcome

/-- What is said about the failure of a call: an expected fault speaks for itself, any other is
named too. -/
def Fault.failureText (fault : Fault) : String :=
  if fault.isExpected then if fault.message.isEmpty then fault.kind else fault.message
  else s!"{fault.kind}: {fault.message}"

end FixFirst
