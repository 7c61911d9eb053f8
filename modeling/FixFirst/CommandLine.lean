import FixFirst.Options

/-!
# The command line

A command line names a command and gives it options and files.  An option has a long name or a
letter; it takes a value, or is a switch that turns a setting on or off.  A value follows its
option as the next word, behind an equals sign after a long name, or right behind the letter.
Letters may share one dash.  Options and files come in any order, the last word on a setting
counts, and after two dashes every word is a file.

## Main definitions

* `CommandLine.scan` — sorts words into what is given for settings and the other words.
* `CommandLine.read` — what a command line asks for.
-/

namespace FixFirst

/-- The commands. -/
inductive Verb where
  /-- Fix and check files. -/
  | check
  /-- Fix and check the files that are staged. -/
  | hook
  deriving DecidableEq, Repr

namespace Verb

/-- All commands. -/
def all : List Verb := [check, hook]

/-- The name of a command. -/
def name : Verb → String
  | check => "check"
  | hook => "hook"

/-- The command with a name. -/
def ofName? (text : String) : Option Verb := all.find? fun verb => verb.name == text

end Verb

/-- A command with all that it needs. -/
structure Invocation where
  verb : Verb
  options : Options
  /-- The files to work on. -/
  paths : List Path
  /-- Whether a file that could not be staged makes the command fail. -/
  strict : Bool
  deriving Repr

/-- What a command line asks for. -/
inductive Intent where
  /-- Nothing that can be done. -/
  | misuse
  /-- An explanation. -/
  | help
  | invoke (invocation : Invocation)
  deriving Repr

namespace CommandLine

open Text

/-- What options set. -/
inductive Setting where
  | root
  | timeout
  | jobs
  | fix
  | stage
  | engine
  | failOn
  | json
  | emoji
  | color
  | quiet
  | warmRun
  | metrics
  | debug
  | strictStaging
  | help
  deriving DecidableEq, Repr

/-- What an option does. -/
inductive Use where
  /-- It takes a value. -/
  | value
  /-- It turns its setting on or off. -/
  | switch (on : Bool)
  deriving DecidableEq, Repr

/-- An option that a command knows. -/
structure Known where
  /-- The name, with its dashes. -/
  name : String
  setting : Setting
  use : Use
  deriving DecidableEq, Repr

/-- The options of every command. -/
def shared : List Known :=
  [⟨"--root", .root, .value⟩, ⟨"-r", .root, .value⟩,
   ⟨"--timeout", .timeout, .value⟩, ⟨"-t", .timeout, .value⟩,
   ⟨"--jobs", .jobs, .value⟩, ⟨"-j", .jobs, .value⟩,
   ⟨"--fix", .fix, .switch true⟩, ⟨"--no-fix", .fix, .switch false⟩,
   ⟨"--stage", .stage, .switch true⟩, ⟨"--no-stage", .stage, .switch false⟩,
   ⟨"--engine", .engine, .value⟩, ⟨"-e", .engine, .value⟩,
   ⟨"--fail-on", .failOn, .value⟩,
   ⟨"--json", .json, .switch true⟩,
   ⟨"--emoji", .emoji, .switch true⟩, ⟨"--no-emoji", .emoji, .switch false⟩,
   ⟨"--color", .color, .switch true⟩, ⟨"--no-color", .color, .switch false⟩,
   ⟨"--quiet", .quiet, .switch true⟩, ⟨"-q", .quiet, .switch true⟩,
   ⟨"--warm-run", .warmRun, .switch true⟩,
   ⟨"--metrics", .metrics, .switch true⟩,
   ⟨"--debug", .debug, .switch true⟩,
   ⟨"--help", .help, .switch true⟩]

/-- The options of a command. -/
def knownBy : Verb → List Known
  | .check => shared
  | .hook => shared ++ [⟨"--strict-staging", .strictStaging, .switch true⟩]

/-- What is given for a setting. -/
inductive Given where
  | text (setting : Setting) (value : String)
  | switch (setting : Setting) (on : Bool)
  deriving DecidableEq, Repr

/-- What a word gives for settings, and the setting whose value is the word after it. -/
structure Opening where
  given : List Given
  waiting : Option Setting
  deriving DecidableEq, Repr

/-- The letters behind one dash.  What follows the letter of an option that takes a value is that
value. -/
def ofLetters (known : List Known) : List Char → Option Opening
  | [] => some ⟨[], none⟩
  | letter :: rest => do
    let entry ← known.find? fun entry => entry.name == String.ofList ['-', letter]
    match entry.use with
    | .switch on =>
      let others ← ofLetters known rest
      return { others with given := .switch entry.setting on :: others.given }
    | .value =>
      return if rest.isEmpty then ⟨[], some entry.setting⟩
        else ⟨[.text entry.setting (String.ofList rest)], none⟩

/-- A word cut at its first equals sign. -/
def cutAtEquals (word : List Char) : List Char × Option (List Char) :=
  match word.dropWhile (· != '=') with
  | [] => (word, none)
  | _ :: value => (word.takeWhile (· != '='), some value)

/-- A word that starts with two dashes: the name of an option, perhaps with its value. -/
def ofLongName (known : List Known) (word : List Char) : Option Opening := do
  let (name, value?) := cutAtEquals word
  let entry ← known.find? fun entry => entry.name == String.ofList name
  match entry.use, value? with
  | .value, some value => return ⟨[.text entry.setting (String.ofList value)], none⟩
  | .value, none => return ⟨[], some entry.setting⟩
  | .switch on, none => return ⟨[.switch entry.setting on], none⟩
  | .switch _, some _ => none

/-- What a word gives, if it starts with a dash and does not end there. -/
def ofDashed (known : List Known) (word : String) : Option Opening :=
  match word.toList with
  | '-' :: '-' :: rest => ofLongName known ('-' :: '-' :: rest)
  | _ :: rest => ofLetters known rest
  | [] => none

/-- Whether a word is meant as an option. -/
def isDashed (word : String) : Bool := word.toList.head? == some '-' && 1 < word.length

/-- Sorted words. -/
structure Sentence where
  given : List Given
  /-- The words that are not about settings. -/
  others : List String
  deriving DecidableEq, Repr

/-- Sorts words; an unknown option, a missing value or one that is not asked for is a misuse. -/
def scan (known : List Known) : List String → Option Sentence
  | [] => some ⟨[], []⟩
  | [word] =>
    if word = "--" then some ⟨[], []⟩
    else if isDashed word then
      match ofDashed known word with
      | some ⟨given, none⟩ => some ⟨given, []⟩
      | _ => none
    else some ⟨[], [word]⟩
  | word :: next :: rest =>
    if word = "--" then some ⟨[], next :: rest⟩
    else if isDashed word then
      match ofDashed known word with
      | none => none
      | some ⟨given, none⟩ =>
        (scan known (next :: rest)).map fun sentence => { sentence with given := given ++ sentence.given }
      | some ⟨given, some setting⟩ =>
        (scan known rest).map fun sentence =>
          { sentence with given := given ++ .text setting next :: sentence.given }
    else
      (scan known (next :: rest)).map fun sentence => { sentence with others := word :: sentence.others }

namespace Sentence

/-- The values that are given for a setting. -/
def texts (sentence : Sentence) (setting : Setting) : List String :=
  sentence.given.filterMap fun given => match given with
    | .text about value => if about = setting then some value else none
    | .switch .. => none

/-- The last value that is given for a setting. -/
def text? (sentence : Sentence) (setting : Setting) : Option String := (sentence.texts setting).getLast?

/-- How a setting is switched at last. -/
def switch? (sentence : Sentence) (setting : Setting) : Option Bool :=
  (sentence.given.filterMap fun given => match given with
    | .switch about on => if about = setting then some on else none
    | .text .. => none).getLast?

/-- How a setting is switched, or something else instead. -/
def switch (sentence : Sentence) (setting : Setting) (fallback : Bool) : Bool :=
  (sentence.switch? setting).getD fallback

/-- The last value of a setting, once it was understood; a value that cannot be understood is a
misuse. -/
def understood? {α : Type} (sentence : Sentence) (setting : Setting) (understand : String → Option α) :
    Option (Option α) :=
  match sentence.text? setting with
  | none => some none
  | some text => (understand text).map some

end Sentence

/-- A budget: a number of at least a hundredth of a second. -/
def budget? (text : String) : Option Float := (lenientDecimal? text.toList).filter fun seconds => 0.01 ≤ seconds

/-- A number of jobs: a whole number that is not below one. -/
def jobs? (text : String) : Option Int := (Codec.integerText? text.toList).filter fun count => 1 ≤ count

/-- A severity, in any case. -/
def severity? (text : String) : Option Severity := Severity.ofName? (String.ofList (lowerAscii text.toList))

/-- A switch of the environment: off when it is not set or blank. -/
def environmentSwitch? (environment : Keyed String) (name : String) : Option Bool :=
  let word := String.ofList (lowerAscii (trim ((environment.get? name).getD "").toList))
  if word.isEmpty || Codec.falseWords.contains word then some false
  else if Codec.trueWords.contains word then some true
  else none

/-- How a setting is switched, by the environment if the command line does not say. -/
def switchOr? (environment : Keyed String) (name : String) (sentence : Sentence) (setting : Setting) : Option Bool :=
  (sentence.switch? setting).or (environmentSwitch? environment name)

/-- The options that sorted words ask for. -/
def options? (environment : Keyed String) (cwd : Path) (sentence : Sentence) : Option Options := do
  let timeout ← sentence.understood? .timeout budget?
  let jobs ← sentence.understood? .jobs jobs?
  let failOn ← sentence.understood? .failOn severity?
  let warmRun ← switchOr? environment "FIXQA_WARM_RUN" sentence .warmRun
  let metrics ← switchOr? environment "FIXQA_TRACK_METRICS" sentence .metrics
  return {
    root := ((sentence.text? .root).map Path.ofText).getD cwd
    timeout := timeout
    jobs := jobs
    fix := sentence.switch .fix true
    stage := sentence.switch .stage true
    engines := sentence.texts .engine
    failOn := failOn.getD .warning
    json := sentence.switch .json false
    emoji := sentence.switch .emoji true
    color := sentence.switch .color true
    quiet := sentence.switch .quiet false
    warmRun := warmRun
    metrics := metrics
    debug := sentence.switch .debug false }

/-- Whether a command may be given such files: one at least to check, none to the hook. -/
def takesFiles : Verb → List String → Bool
  | .check, files => !files.isEmpty
  | .hook, files => files.isEmpty

/-- Whether a word may stand for a file or a directory: if there is one, it can be opened. -/
def standsForPlace (disk : Disk) (word : String) : Bool := word.isEmpty || disk.allows (Path.ofText word)

/-- What the words after the name of a command ask for. -/
def readCommand (environment : Keyed String) (disk : Disk) (verb : Verb) (words : List String) : Intent :=
  match scan (knownBy verb) words with
  | none => .misuse
  | some sentence =>
    if sentence.switch .help false then .help
    else match options? environment (Path.rooted disk.cwd) sentence with
      | none => .misuse
      | some options =>
        let places := (sentence.text? .root).toList ++ sentence.others
        if takesFiles verb sentence.others && places.all (standsForPlace disk) then
          .invoke ⟨verb, options, sentence.others.map Path.ofText, sentence.switch .strictStaging false⟩
        else .misuse

/-- The options before the name of a command, of which there is only the one for help: whether it
is given, and the words from the name on. -/
def beforeCommand : List String → Option (Bool × List String)
  | [] => some (false, [])
  | word :: rest =>
    if word = "--" then some (false, rest)
    else if isDashed word then
      if word = "--help" then (beforeCommand rest).map fun (_, others) => (true, others) else none
    else some (false, word :: rest)

/-- What a command line asks for.  A word behind two dashes that is not a command is looked at
once more, as an option. -/
def read (environment : Keyed String) (disk : Disk) (words : List String) : Intent :=
  match beforeCommand words with
  | none => .misuse
  | some (true, _) => .help
  | some (false, []) => .misuse
  | some (false, name :: rest) =>
    match Verb.ofName? name with
    | some verb => readCommand environment disk verb rest
    | none =>
      match beforeCommand (name :: rest) with
      | some (true, _) => .help
      | _ => .misuse

end CommandLine

end FixFirst
