import FixFirst.Tool

/-!
# Engines

An engine is whatever can be asked to look at files, or to fix them.  A tool is one; others are
given by their behaviour.
-/

namespace FixFirst

/-- Something that looks at files and may fix them. -/
structure Engine (τ σ : Type) where
  name : String
  kind : Kind
  /-- Whether the engine can fix files. -/
  canFix : Bool
  /-- Whether the engine says exactly what it fixed. -/
  precise : Bool
  /-- Binds the engine to a fingerprint. -/
  prepare : String → Change τ σ Unit
  /-- Drops what the engine remembers. -/
  reset : Change τ σ Unit
  /-- Looks at files under a token. -/
  check : List String → Nat → Change τ σ (Reply τ)
  /-- Fixes files under a token. -/
  fix : List String → Nat → Change τ σ (Reply τ)

/-- What came of an act, as a reply. -/
def Reply.ofAct {τ σ : Type} (act : Act τ σ (EngineResult τ)) : Change τ σ (Reply τ) := do
  return match ← act.outcome with
    | .ok value => Reply.result value
    | .error cause => Reply.fault cause

namespace Engine

variable {τ σ : Type}

/-- Calls an engine. -/
def call (engine : Engine τ σ) : Pass → List String → Nat → Change τ σ (Reply τ)
  | .check => engine.check
  | .fix => engine.fix

/-- A tool as an engine. -/
def ofTool [Quantity τ] (shell : Shell τ σ) (tool : Tool) : Engine τ σ where
  name := tool.name
  kind := tool.kind
  canFix := tool.kind.canFix
  precise := tool.kind.isPrecise
  prepare fingerprint := World.onBench tool.name (·.prepare fingerprint)
  reset := World.onBench tool.name Workbench.reset
  check files token := Reply.ofAct (tool.check shell files token)
  fix files token := Reply.ofAct (tool.fix shell files token)

end Engine

end FixFirst
