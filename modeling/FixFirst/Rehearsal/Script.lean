import FixFirst.Json.Fields
import FixFirst.Shell

/-!
# Rehearsals

A rehearsal is a run in which everything beyond the program is played from a script: the
contents of the disk, the readings of memory, and what commands do and print.

## Main definitions

* `Effects` — what a scripted step does to the world.
* `Rule`, `shell` — the shell that answers commands by the first rule that fits.
* `world` — the world at the start of a rehearsal.
-/

namespace FixFirst.Rehearsal

/-- A scripted fault; the tool is the one that meets it, unless the script names another. -/
structure Mishap where
  kind : String
  message : String
  tool : Option String
  deriving Repr

namespace Mishap

/-- A scripted fault, as a script spells it. -/
def ofJson (value : Json) : Mishap := ⟨value.textAt "kind", value.textAt "message", value.textAt? "tool"⟩

/-- The fault, where `context` is the tool that meets it. -/
def fault (mishap : Mishap) (context : String) : Fault :=
  let tool := mishap.tool.getD context
  let detail := if mishap.message.isEmpty then none else some mishap.message
  match mishap.kind with
  | "missing" => .toolMissing tool detail
  | "failure" => .engineFailure tool mishap.message none
  | "cancelled" => .cancelled detail
  | "config" => .config mishap.message
  | "os" => .system mishap.message
  | "value" => .value mishap.message
  | "key" => .key mishap.message
  | "runtime" => .runtime mishap.message
  | "type" => .type mishap.message
  | _ => .unsupported mishap.message

end Mishap

/-- A scripted fault, if there is one. -/
def mishapAt? (value : Json) (key : String) : Option Mishap :=
  match value.member key with
  | .null => none
  | spec => some (.ofJson spec)

/-- What a scripted step does to the world. -/
structure Effects where
  /-- New texts of files; a file without one is removed. -/
  writes : List (String × Option String)
  /-- How much time passes. -/
  seconds : Option (Amount Float)
  /-- Why the token from outside is cancelled, if it is. -/
  cancel : Option String
  deriving Repr

/-- The effects that a script asks for. -/
def Effects.ofJson (value : Json) : Effects :=
  ⟨(value.member "write").members.mapValues Json.asText?, value.amountAt? "advance", value.textAt? "cancel"⟩

/-- The answer to the commands that hold certain words. -/
structure Rule where
  words : List String
  /-- How often the rule still applies; without a number, always. -/
  times : Option Int
  effects : Effects
  mishap : Option Mishap
  /-- Whether the token is looked at while the command runs. -/
  polls : Bool
  completed : Completed
  deriving Repr

namespace Rule

/-- A rule, as a script spells it. -/
def ofJson (value : Json) : Rule :=
  ⟨value.textsAt "match", value.integerAt? "times", .ofJson value, mishapAt? value "raise", value.flagAt "poll",
    ⟨(value.integerAt? "rc").getD 0, value.textAt "stdout", value.textAt "stderr"⟩⟩

/-- Whether a rule applies to a command. -/
def fits (rule : Rule) (arguments : List String) : Bool :=
  rule.words.all arguments.contains && rule.times.all (0 < ·)

/-- A rule after it was applied. -/
def used (rule : Rule) : Rule := { rule with times := rule.times.map (· - 1) }

/-- The first rule that fits, and the rules after its use. -/
def pick? (arguments : List String) : List Rule → Option (Rule × List Rule)
  | [] => none
  | rule :: rest =>
    if rule.fits arguments then some (rule, rule.used :: rest)
    else (pick? arguments rest).map fun (found, others) => (found, rule :: others)

end Rule

/-- What lies beyond a rehearsed world. -/
structure Stage where
  rules : List Rule
  /-- The token from outside. -/
  external : Option Nat
  /-- How many calls of each scripted engine were played. -/
  played : Keyed Nat
  deriving Repr

/-- A step in a rehearsed world that cannot fail. -/
abbrev Turn := Change Float Stage

/-- Lets effects happen: files are written, time passes, the token from outside is cancelled.  A
whole number of seconds that is too large for the clock is a fault. -/
def Effects.happen (effects : Effects) : Act Float Stage Unit := do
  modify fun world => { world with
    disk := effects.writes.foldl (fun disk entry => disk.write entry.1 (entry.2.map Digest.textBytes)) world.disk }
  if let some amount := effects.seconds then
    match amount.value? with
    | some seconds => World.moveClock (·.advance seconds)
    | none => throw (.overflow "int too large to convert to float")
  if let some reason := effects.cancel then
    if let some token := (← get).outside.external then World.moveClock (·.cancel token reason)

/-- The fault of a cancelled token. -/
def checkpoint (token : Option Nat) : Act Float Stage Unit := do
  if let some number := token then
    Act.ofExcept ((← get).clock.forest.checkpoint number)

/-- The shell of a rehearsal.  A command without a rule succeeds and prints nothing. -/
def shell : Shell Float Stage := fun command token => do
  checkpoint token
  let world ← get
  match Rule.pick? command.arguments world.outside.rules with
  | none => return ⟨0, "", ""⟩
  | some (rule, rules) =>
    set { world with outside := { world.outside with rules := rules } }
    rule.effects.happen
    if let some mishap := rule.mishap then throw (mishap.fault (command.arguments.headD ""))
    if rule.polls then checkpoint token
    return rule.completed

/-- Readings one after the other, the last of which repeats. -/
def readings (values : List Int) (index : Nat) : Int := (values[index]?.or values.getLast?).getD 0

/-- How deep links may lead to one another, as far as a rehearsal goes. -/
def linkNesting : Nat := 970

/-- How deep documents may be nested, as far as a rehearsal goes. -/
def documentNesting : Nat := 988

/-- How many seconds the system of a rehearsal waits at most. -/
def longestWait : Float := 9223372036

/-- The disk of a script. -/
def diskOf (value : Json) : Disk :=
  { Disk.empty ["proj"] ["home", "u"] with
    files := (value.member "files_on_disk").members.mapValues fun text => Digest.textBytes (text.asText?.getD "")
    links := (value.member "links").members.mapValues fun text => text.asText?.getD ""
    directories := value.textsAt "dirs"
    unreadable := value.textsAt "unreadable"
    nesting := linkNesting }

/-- A variable of the environment.  A name is not empty and holds no equals sign, and neither a name
nor a text holds NUL. -/
def variableOf (name text : String) : Except Fault (String × String) :=
  if name.contains '\x00' || text.contains '\x00' then .error (.value "embedded null byte")
  else if name.contains '=' then .error (.value "illegal environment variable name")
  else if name.isEmpty then .error (.system "a variable without a name")
  else .ok (name, text)

/-- The environment of a script. -/
def environmentOf (value : Json) : Except Fault (Keyed String) :=
  (value.member "env").members.mapM fun (name, text) => variableOf name (text.asText?.getD "")

/-- What a script says of the surroundings, when the environment is that of its start no more. -/
def laterHostOf (value : Json) : Host :=
  { processors := match value.get? "cpus" with
      | some count => count.asInteger?.map Int.toNat
      | none => some 8
    cacheDirectory := none }

/-- What a script says of the surroundings. -/
def hostOf (value : Json) : Host :=
  { laterHostOf value with cacheDirectory := (value.member "env").textAt? "FIXQA_CACHE_DIR" }

/-- The rules of a script. -/
def rulesOf (value : Json) : List Rule := (value.itemsAt "rules").map Rule.ofJson

/-- The world at the start of a rehearsal. -/
def world (value : Json) : World Float Stage where
  clock := .starting (value.numberAt "start")
  disk := diskOf value
  memory := readings ((value.itemsAt "rss").map fun item => item.asInteger?.getD 0)
  readings := 0
  meanwhile _ := 0
  monitor := none
  benches := []
  journal := []
  moment := 1700000000
  random := "0a1b2c3d"
  outside := ⟨rulesOf value, none, []⟩

end FixFirst.Rehearsal
