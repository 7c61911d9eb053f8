import FixFirst.Tool

/-!
# Registries

A registry holds engines under their names, in the order in which they were registered.
-/

namespace FixFirst

/-- Engines by name. -/
structure Registry (α : Type) where
  entries : Keyed α
  deriving Repr

namespace Registry

variable {α : Type}

/-- The registry without engines. -/
def empty : Registry α := ⟨[]⟩

/-- Registers an engine under a name that is not taken. -/
def register (registry : Registry α) (name : String) (engine : α) : Except Fault (Registry α) :=
  if registry.entries.holds name then .error (.config s!"engine '{name}' registered twice")
  else .ok ⟨registry.entries.put name engine⟩

/-- The engine under a name. -/
def get (registry : Registry α) (name : String) : Except Fault α :=
  match registry.entries.get? name with
  | some engine => .ok engine
  | none => .error (.config s!"unknown engine '{name}'")

end Registry

/-- The names of all tools, sorted. -/
def toolNames : String := ", ".intercalate ((Kind.all.map Kind.toolName).mergeSort fun a b => a ≤ b)

/-- The tool that a configuration describes under a name. -/
def Config.tool {τ : Type} (config : Config τ) (directory : Option Path) (nesting : Nat) (name : String) :
    Except Fault Tool := do
  match Kind.ofToolName? name with
  | none => throw (.config s!"unknown engine '{name}'; expected one of {toolNames}")
  | some kind =>
    return .make kind (some name) (← config.engine name) (some config.execution.cacheDirectory) directory
      nesting

/-- The tools that a configuration enables. -/
def Config.tools {τ : Type} (config : Config τ) (directory : Option Path) (nesting : Nat) :
    Except Fault (Registry Tool) :=
  config.enabledEngines.foldlM
    (fun registry name => do registry.register name (← config.tool directory nesting name)) .empty

end FixFirst
