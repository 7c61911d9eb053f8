import FixFirst.Engine
import FixFirst.Rehearsal.Script

/-!
# Engines of a rehearsal

An engine that plays a script: each call takes the next part of it, the last of which repeats.
-/

namespace FixFirst.Rehearsal

/-- An engine that plays a script. -/
structure Player where
  name : String
  kind : Kind
  canFix : Bool
  precise : Bool
  /-- What calls to look at files do. -/
  checks : List Json
  /-- What calls to fix files do; without a list, the engine cannot fix. -/
  fixes : Option (List Json)

/-- The kind with a name. -/
def kindOf (name : Json) : Except Fault Kind :=
  match Kind.all.find? fun kind => name.asText? == some kind.name with
  | some kind => .ok kind
  | none => .error (.value "no such kind of engine")

/-- An engine, as a script spells it. -/
def Player.ofJson (value : Json) : Except Fault Player := do
  let kind ← kindOf ((value.get? "kind").getD (.str "lint"))
  return ⟨value.textAt "name", kind, value.flagAt "supports_fix", value.flagAt "precise",
    value.itemsAt "check", (value.get? "fix").map Json.items⟩

/-- What is known of an issue beside what a script says. -/
def usual (kind : Kind) : Keyed Json :=
  [("engine", .str kind.name), ("severity", .str "warning"), ("message", .str "m")]

/-- Members of an object, and others that are used where the object has none. -/
def withDefaults (defaults : Keyed Json) (value : Json) : Keyed Json :=
  value.members.foldl (fun (members : Keyed Json) entry => members.put entry.1 entry.2) defaults

/-- The issues of a part: the ones it lists, and for each file the ones it finds everywhere. -/
def issuesOf (part : Json) (files : List String) : List Json :=
  part.itemsAt "issues" ++ files.flatMap fun file =>
    (part.itemsAt "each").map fun issue => .obj (issue.members.put "file" (.str file))

/-- Members as they are shown when something is wrong with them: the first one is a kind, which
has a text of its own unless a script spells it. -/
def shownMembers (kind : Kind) (spelled : Bool) (members : Keyed Json) : Exhibit :=
  let shown := (Json.obj members).exhibit
  match members with
  | (key, _) :: rest =>
    if spelled then shown
    else
      let others := String.ofList (((Json.obj rest).exhibit.text.toList).drop 1)
      { shown with text := s!"\x7b'{key}': {kind.shownText}, {others}" }
  | [] => shown

/-- An issue of a scripted engine. -/
def issueOf (disk : Disk) (kind : Kind) (spec : Json) : Except Fault Issue :=
  let schema := Issue.schema disk
  let members := withDefaults (usual kind) spec
  (schema.readMembers members (shownMembers kind (spec.has "engine") members)).result schema.title

/-- The result of a part. -/
def resultOf (disk : Disk) (player : Player) (pass : Pass) (part : Json) (files : List String) :
    Except Fault (EngineResult Float) := do
  let modified := match part.member "modified" with
    | .str "all" => .arr (files.map Json.str)
    | value => value
  let fixed := match part.member "fixed" with
    | .null => .arr []
    | .str "modified" =>
      .arr (modified.items.map fun file => Json.obj [("file", file), ("rule_id", part.member "rule")])
    | value => value
  let name := match part.member "as" with
    | .null => .str player.name
    | value => value
  let issues ← (issuesOf part files).mapM (issueOf disk player.kind)
  let result ← (EngineResult.schema disk).parse (.obj [
    ("engine", name),
    ("kind", .str player.kind.name),
    ("phase", .str pass.name),
    ("success", (part.get? "success").getD (.bool true)),
    ("duration", (part.get? "duration").getD (.num 0)),
    ("fixed_count", (part.get? "fixed_count").getD (.int fixed.items.length)),
    ("modified_files", modified),
    ("fixed", fixed),
    ("cancelled", (part.get? "cancelled").getD (.bool false))])
  return { result with issues := issues }

/-- The next part of a script. -/
def nextPart (player : Player) (pass : Pass) (parts : List Json) : Turn Json := do
  let key := pass.name ++ ":" ++ player.name
  let count := ((← get).outside.played.get? key).getD 0
  modify fun world =>
    { world with outside := { world.outside with played := world.outside.played.put key (count + 1) } }
  return (parts[count]?.or parts.getLast?).getD (.obj [])

/-- Plays a part: its effects, then silence, a fault, or a result. -/
def playPart (player : Player) (pass : Pass) (part : Json) (files : List String) (token : Nat) :
    Turn (Reply Float) := do
  if let .error fault ← (Effects.ofJson part).happen.run then return .fault fault
  if part.flagAt "hang" then
    World.moveClock (·.wait token none)
    return .silence
  if let some mishap := mishapAt? part "error" then return .fault (mishap.fault player.name)
  if part.flagAt "observe" && (← World.isCancelled token) then
    return .result ⟨player.name, player.kind, pass, false, [], 0, none, 0, [], [], true⟩
  return match resultOf (← get).disk player pass part files with
    | .ok result => .result result
    | .error fault => .fault fault

/-- An engine that plays a script. -/
def Player.engine (player : Player) : Engine Float Stage where
  name := player.name
  kind := player.kind
  canFix := player.canFix
  precise := player.precise
  prepare _ := return
  reset := return
  check files token := do
    playPart player .check (← nextPart player .check player.checks) files token
  fix files token := do
    match player.fixes with
    | none => return .fault (Tool.cannotFix player.name)
    | some parts => playPart player .fix (← nextPart player .fix parts) files token

/-- A tool, as a script spells it. -/
def toolOf (value : Json) : Except Fault Tool := do
  let settings ← EngineConfig.schema.parse ((value.get? "settings").getD (.obj []))
  let path key := (value.textAt? key).map Path.ofText
  match Kind.ofToolName? (value.textAt "tool") with
  | none => .error (.key (value.textAt "tool"))
  | some kind => return .make kind (value.textAt? "name") settings (path "cache_root") (path "cwd") documentNesting

/-- An engine, as a script spells it: a tool, or one that plays a script. -/
def engineOf (value : Json) : Except Fault (Engine Float Stage) := do
  if value.has "tool" then return .ofTool shell (← toolOf value)
  return (← Player.ofJson value).engine

end FixFirst.Rehearsal
