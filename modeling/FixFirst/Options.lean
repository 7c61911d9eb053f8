import FixFirst.Config
import FixFirst.Json.Fields
import FixFirst.Summary

/-!
# Options

The options that every command takes, and the configuration of the run that they ask for.
Options become wishes, values that still have to pass the checks of the settings they are
meant for, and wishes become a configuration.

## Main definitions

* `Wishes.config` — the configuration that wishes lead to.
* `Options.config` — the configuration that options ask for.
-/

namespace FixFirst

/-- What the user asked for. -/
structure Options where
  /-- The root of the project. -/
  root : Path
  /-- The budget of the run in seconds. -/
  timeout : Option Float
  /-- How many engines may run at once. -/
  jobs : Option Int
  /-- Whether fixes are applied. -/
  fix : Bool
  /-- Whether fixed files are staged. -/
  stage : Bool
  /-- The engines to run; all of them, if none is named. -/
  engines : List String
  /-- The least severity that makes the run fail. -/
  failOn : Severity
  /-- Whether the report is written as a document. -/
  json : Bool
  emoji : Bool
  color : Bool
  /-- Whether warnings are left out while the run goes on. -/
  quiet : Bool
  warmRun : Bool
  metrics : Bool
  /-- Whether remarks on the course of the run are shown. -/
  debug : Bool
  deriving Repr

namespace Options

/-- The options of a user who gives none. -/
def standard (root : Path) : Options :=
  ⟨root, none, none, true, true, [], .warning, false, true, true, false, false, false, false⟩

/-- How the user wants to be told things. -/
def look (options : Options) : Look := ⟨options.emoji, options.color⟩

end Options

/-- Values for settings, as they were asked for. -/
structure Wishes where
  /-- The budget of the run; nothing is asked for by `null`. -/
  timeout : Json
  /-- How many engines may run at once; nothing is asked for by `null`. -/
  jobs : Json
  fix : Json
  stage : Json
  /-- The engines to run; all of them, if none is named. -/
  engines : List String
  failOn : Severity
  json : Json
  emoji : Json
  color : Json
  quiet : Json
  warmRun : Json
  metrics : Json
  deriving Repr

namespace Wishes

/-- The names among the given ones that no engine has, sorted and each once. -/
def unknownEngines {τ : Type} (wishes : Wishes) (config : Config τ) : List String :=
  (firsts (wishes.engines.filter fun name => !config.engines.holds name)).mergeSort fun a b => a ≤ b

/-- Leaves only the named engines enabled, if any is named. -/
def chooseEngines {τ : Type} (wishes : Wishes) (config : Config τ) : Except Fault (Config τ) :=
  if wishes.engines.isEmpty then .ok config
  else
    let unknown := wishes.unknownEngines config
    if unknown.isEmpty then
      .ok { config with engines := config.engines.map fun (name, settings) =>
        (name, { settings with enabled := wishes.engines.contains name }) }
    else .error (.config ("unknown engine(s): " ++ ", ".intercalate unknown))

/-- The settings that are asked for and their values, in the order in which they are assigned. -/
def settings (wishes : Wishes) : List (List String × Json) :=
  let unless' (name : String) (value : Json) : List (List String × Json) :=
    if value.isNull then [] else [(["execution", name], value)]
  unless' "timeout" wishes.timeout ++ unless' "jobs" wishes.jobs ++
  [(["execution", "fix"], wishes.fix),
   (["execution", "auto_stage"], wishes.stage),
   (["execution", "fail_on"], .str wishes.failOn.name),
   (["execution", "warm_run"], wishes.warmRun),
   (["execution", "track_metrics"], wishes.metrics),
   (["output", "emoji"], wishes.emoji),
   (["output", "color"], wishes.color),
   (["output", "quiet"], if wishes.quiet.isSomething then wishes.quiet else wishes.json)]

/-- The configuration of the run: the settings are assigned one after the other, up to the first
that is refused, and then the engines are chosen. -/
def config (host : Host) (wishes : Wishes) : Except Fault (Config Float) := do
  let _ ← host.parallelJobs
  let assigned ← wishes.settings.foldlM
    (fun config (path, value) => do
      let (outcome, changed) ← config.assign host path value
      outcome
      return changed)
    (Config.standard host)
  wishes.chooseEngines assigned

end Wishes

namespace Options

/-- Options as wishes. -/
def wishes (options : Options) : Wishes where
  timeout := (options.timeout.map Json.num).getD .null
  jobs := (options.jobs.map Json.int).getD .null
  fix := .bool options.fix
  stage := .bool options.stage
  engines := options.engines
  failOn := options.failOn
  json := .bool options.json
  emoji := .bool options.emoji
  color := .bool options.color
  quiet := .bool options.quiet
  warmRun := .bool options.warmRun
  metrics := .bool options.metrics

/-- The configuration of the run. -/
def config (host : Host) (options : Options) : Except Fault (Config Float) := options.wishes.config host

end Options

end FixFirst
