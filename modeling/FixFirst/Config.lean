import FixFirst.Quantity
import FixFirst.Schema.Record
import FixFirst.Severity

/-!
# Configuration

The settings of a run in five sections.  Each setting has its bounds, which are checked
whenever a section is read or a setting is assigned; in the batching section the least size
may not exceed the target size.
-/

namespace FixFirst

/-- What the surroundings contribute to the settings that are left out. -/
structure Host where
  /-- The number of processors, when known. -/
  processors : Option Nat
  /-- The directory for caches, when the environment names one. -/
  cacheDirectory : Option String
  deriving Repr

namespace Host

/-- Three quarters of the processors, computed on binary numbers, and at least one.  There may not
be more processors than such a number can tell. -/
def parallelJobs (host : Host) : Except Fault Nat :=
  let count := match host.processors with
    | some count => if count = 0 then 1 else count
    | none => 1
  match Codec.numberOfInt? count with
  | some processors => .ok (max 1 (((Exact.ofFloat (processors * 0.75)).truncate?).getD 0).toNat)
  | none => .error (.overflow "too many processors")

/-- The fault of not being able to tell how many jobs to run. -/
def jobsFault? (host : Host) : Option Fault :=
  match host.parallelJobs with
  | .ok _ => none
  | .error fault => some fault

/-- The directory for caches when none is named. -/
def defaultCache : Path := Path.ofText ".fixqa-cache"

/-- The directory for caches. -/
def cacheRoot (host : Host) : Path :=
  match host.cacheDirectory with
  | some name => if name.isEmpty then defaultCache else Path.ofText name
  | none => defaultCache

end Host

/-- How a run is executed. -/
structure ExecutionConfig (τ : Type) where
  /-- How many engines may run at once. -/
  jobs : Nat
  /-- The budget of a run in seconds. -/
  timeout : τ
  /-- Whether fixes are applied. -/
  fix : Bool
  /-- Whether fixes are applied one engine after the other. -/
  serialFix : Bool
  /-- Whether fixed files are staged. -/
  autoStage : Bool
  warmRun : Bool
  trackMetrics : Bool
  /-- The least severity that makes a run fail. -/
  failOn : Severity
  /-- How long an engine may go on after cancellation. -/
  gracePeriod : τ
  /-- The part of the budget that is kept for what follows checking. -/
  reserveRatio : τ
  cacheDirectory : Path
  deriving Repr

/-- The fields of the execution section. -/
def ExecutionConfig.schema (host : Host) : Schema (ExecutionConfig Float) :=
  .plain "ExecutionConfig"
    ⟨host.parallelJobs.toOption.getD 1, 30, true, true, true, false, false, .warning, 0.5, 0.05, host.cacheRoot⟩
    [{ Field.given "jobs" (.count 1) (·.jobs) (fun config value => { config with jobs := value }) with
       lapse := host.jobsFault? },
     .given "timeout" (.above 0 .number) (·.timeout) (fun config value => { config with timeout := value }),
     .given "fix" .boolean (·.fix) (fun config value => { config with fix := value }),
     .given "serial_fix" .boolean (·.serialFix) (fun config value => { config with serialFix := value }),
     .given "auto_stage" .boolean (·.autoStage) (fun config value => { config with autoStage := value }),
     .given "warm_run" .boolean (·.warmRun) (fun config value => { config with warmRun := value }),
     .given "track_metrics" .boolean (·.trackMetrics) (fun config value => { config with trackMetrics := value }),
     { Field.given "fail_on" (.choice Severity.all Severity.name) (·.failOn)
         (fun config value => { config with failOn := value }) with roomy := true },
     .given "grace_period" (.atLeast 0 .number) (·.gracePeriod)
       (fun config value => { config with gracePeriod := value }),
     .given "reserve_ratio" (.atLeast 0 (.below 1 .number)) (·.reserveRatio)
       (fun config value => { config with reserveRatio := value }),
     .given "cache_dir" .path (·.cacheDirectory) (fun config value => { config with cacheDirectory := value })]

/-- How files are put into batches. -/
structure BatchConfig (τ : Type) where
  targetSize : Nat
  minSize : Nat
  /-- The time every batch gets. -/
  baseTimeout : τ
  /-- The time a batch gets for each of its files. -/
  perFileTimeout : τ
  /-- How often a file may be put off. -/
  maxDeferrals : Nat
  /-- The part of the budget that counts as its end. -/
  imminentRatio : τ
  deriving Repr

/-- The fields of the batching section; the least size may not exceed the target size. -/
def BatchConfig.schema : Schema (BatchConfig Float) where
  title := "BatchConfig"
  blank := ⟨100, 1, 10, 0.05, 2, 0.1⟩
  fields :=
    [.given "target_size" (.count 1) (·.targetSize) (fun config value => { config with targetSize := value }),
     .given "min_size" (.count 1) (·.minSize) (fun config value => { config with minSize := value }),
     .given "base_timeout" (.atLeast 0 .number) (·.baseTimeout)
       (fun config value => { config with baseTimeout := value }),
     .given "per_file_timeout" (.atLeast 0 .number) (·.perFileTimeout)
       (fun config value => { config with perFileTimeout := value }),
     .given "max_deferrals" (.count 0) (·.maxDeferrals) (fun config value => { config with maxDeferrals := value }),
     .given "imminent_ratio" (.atLeast 0 (.atMost 1 .number)) (·.imminentRatio)
       (fun config value => { config with imminentRatio := value })]
  accepts config := config.minSize ≤ config.targetSize
  refusal := "min_size must not exceed target_size"
  upkeep := .checked
  derived := []

/-- When memory pressure is felt. -/
structure ResourceConfig (τ : Type) where
  enabled : Bool
  /-- The memory limit in mebibytes. -/
  memoryLimit : τ
  /-- The part of the limit from which pressure is elevated. -/
  elevatedRatio : τ
  /-- Reaching the limit within so many seconds is critical. -/
  horizon : τ
  /-- The time between two samples. -/
  interval : τ
  /-- How many samples a trend is taken from. -/
  window : Nat
  deriving Repr

/-- The fields of the resource section. -/
def ResourceConfig.schema : Schema (ResourceConfig Float) :=
  .computing (.plain "ResourceConfig" ⟨true, 1024, 0.7, 5, 0.1, 10⟩
    [.given "enabled" .boolean (·.enabled) (fun config value => { config with enabled := value }),
     .given "memory_limit_mb" (.above 0 .number) (·.memoryLimit)
       (fun config value => { config with memoryLimit := value }),
     .given "elevated_ratio" (.above 0 (.atMost 1 .number)) (·.elevatedRatio)
       (fun config value => { config with elevatedRatio := value }),
     .given "horizon" (.above 0 .number) (·.horizon) (fun config value => { config with horizon := value }),
     .given "interval" (.above 0 .number) (·.interval) (fun config value => { config with interval := value }),
     .given "window" (.count 2) (·.window) (fun config value => { config with window := value })])
    ["memory_limit_bytes"]

/-- The memory limit in whole bytes. -/
def ResourceConfig.limitBytes {τ : Type} [Quantity τ] (config : ResourceConfig τ) : Except Fault Int :=
  match Quantity.truncate? (config.memoryLimit * Quantity.ofNat 1024 * Quantity.ofNat 1024) with
  | some bytes => .ok bytes
  | none => .error (.overflow "the memory limit has no whole part")

/-- The settings of one engine. -/
structure EngineConfig where
  enabled : Bool
  executable : Option String
  arguments : List String
  cacheDirectory : Option Path
  deriving DecidableEq, Repr

/-- The settings of an engine about which nothing is said. -/
def EngineConfig.standard : EngineConfig := ⟨true, none, [], none⟩

/-- The fields of the settings of an engine. -/
def EngineConfig.schema : Schema EngineConfig :=
  .plain "EngineConfig" .standard
    [.given "enabled" .boolean (·.enabled) (fun config value => { config with enabled := value }),
     .given "executable" (.optional .text) (·.executable) (fun config value => { config with executable := value }),
     .given "args" (.list .text) (·.arguments) (fun config value => { config with arguments := value }),
     .given "cache_dir" (.optional .path) (·.cacheDirectory)
       (fun config value => { config with cacheDirectory := value })]

/-- How a run talks to its user. -/
structure OutputConfig where
  emoji : Bool
  color : Bool
  quiet : Bool
  deriving DecidableEq, Repr

/-- The fields of the output section. -/
def OutputConfig.schema : Schema OutputConfig :=
  .plain "OutputConfig" ⟨true, true, false⟩
    [.given "emoji" .boolean (·.emoji) (fun config value => { config with emoji := value }),
     .given "color" .boolean (·.color) (fun config value => { config with color := value }),
     .given "quiet" .boolean (·.quiet) (fun config value => { config with quiet := value })]

/-- The settings of a run. -/
structure Config (τ : Type) where
  execution : ExecutionConfig τ
  batching : BatchConfig τ
  resources : ResourceConfig τ
  output : OutputConfig
  engines : Keyed EngineConfig
  deriving Repr

namespace Config

/-- The names of the engines that are configured when nothing is said. -/
def standardEngines : List String := ["ruff", "ruff-format", "mypy"]

/-- Settings by engine name; no name may be blank. -/
def engineTable : Codec (Keyed EngineConfig) :=
  (Codec.map EngineConfig.schema.codec).limited
    (fun table => table.keys.all fun name => !(Text.trim name.toList).isEmpty)
    (.rejected "engine names must not be empty")

/-- The settings of a run about which nothing is said.  How many jobs to run must be known. -/
def standard (host : Host) : Config Float :=
  ⟨(ExecutionConfig.schema host).blank, BatchConfig.schema.blank, ResourceConfig.schema.blank,
    OutputConfig.schema.blank, standardEngines.map fun name => (name, .standard)⟩

/-- The sections of a configuration. -/
def schema (host : Host) : Schema (Config Float) :=
  .plain "Config" (standard host)
    [{ Field.given "execution" (ExecutionConfig.schema host).codec (·.execution)
         (fun config value => { config with execution := value }) with lapse := host.jobsFault? },
     .given "batching" BatchConfig.schema.codec (·.batching) (fun config value => { config with batching := value }),
     .given "resources" ResourceConfig.schema.codec (·.resources)
       (fun config value => { config with resources := value }),
     .given "output" OutputConfig.schema.codec (·.output) (fun config value => { config with output := value }),
     .given "engines" engineTable (·.engines) (fun config value => { config with engines := value })]

variable {τ : Type}

/-- The names of the engines that are enabled, in order. -/
def enabledEngines (config : Config τ) : List String :=
  config.engines.filterMap fun entry => if entry.2.enabled then some entry.1 else none

/-- The settings of an engine. -/
def engine (config : Config τ) (name : String) : Except Fault EngineConfig :=
  match config.engines.get? name with
  | some settings => .ok settings
  | none => .error (.config s!"no configuration for engine '{name}'")

/-- Assigns inside a section and puts the section back. -/
def assignIn {R : Type} (schema : Schema R) (part : R) (put : R → Config Float) (path : List String) (value : Json) :
    Except Fault (Except Fault Unit × Config Float) :=
  (schema.assignAt (.of part) path value).map fun (outcome, draft) => (outcome, put draft.record)

/-- Assigns `value` to the setting that `path` leads to, through sections and engines: the
fault, if any, and the configuration afterwards.  The result is a fault if the path leads
nowhere. -/
def assign (host : Host) (config : Config Float) (path : List String) (value : Json) :
    Except Fault (Except Fault Unit × Config Float) :=
  match path with
  | "execution" :: setting :: rest =>
    assignIn (ExecutionConfig.schema host) config.execution ({ config with execution := · }) (setting :: rest) value
  | "batching" :: setting :: rest =>
    assignIn BatchConfig.schema config.batching ({ config with batching := · }) (setting :: rest) value
  | "resources" :: setting :: rest =>
    assignIn ResourceConfig.schema config.resources ({ config with resources := · }) (setting :: rest) value
  | "output" :: setting :: rest =>
    assignIn OutputConfig.schema config.output ({ config with output := · }) (setting :: rest) value
  | "engines" :: engine :: setting :: rest =>
    match config.engines.get? engine with
    | none => .error (.key engine)
    | some settings =>
      assignIn EngineConfig.schema settings (fun changed => { config with engines := config.engines.put engine changed })
        (setting :: rest) value
  | _ => assignIn (schema host) config id path value

end Config

end FixFirst
