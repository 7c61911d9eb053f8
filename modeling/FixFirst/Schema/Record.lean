import FixFirst.Schema.Codec

/-!
# Records

A record is described by its fields, in order: their names, how each is read into the
record and written from it, and whether it has to be given.  From the description follow
reading a whole record, writing it, and assigning a single field.

A record may have a rule across its fields.  Reading refuses a record that breaks the
rule.  Assigning a field checks the value before it is stored and the rule afterwards,
unless records of the kind never change, or are kept without checks.

## Main definitions

* `Field` — one field of a record.
* `Schema` — the description of a kind of records.
* `Draft` — a record together with the values that were assigned to it without a check.
-/

namespace FixFirst

/-- A field of records `R`. -/
structure Field (R : Type) where
  name : String
  required : Bool
  read : Json → R → Reading R
  write : R → Json
  /-- How something is written that was assigned without a check. -/
  restate : Json → Json
  /-- The fault of leaving the field out where its usual value cannot be had. -/
  lapse : Option Fault := none
  /-- Whether values of the field have parts that take assignments, which are of no consequence. -/
  roomy : Bool := false

namespace Field

variable {R α : Type}

/-- A field that has to be given. -/
def needed (name : String) (codec : Codec α) (get : R → α) (set : R → α → R) : Field R :=
  { name := name
    required := true
    read := fun value record => (codec.decode value).map (set record)
    write := fun record => codec.encode (get record)
    restate := codec.restate }

/-- A field that may be left out. -/
def given (name : String) (codec : Codec α) (get : R → α) (set : R → α → R) : Field R :=
  { needed name codec get set with required := false }

end Field

/-- What becomes of a value that is assigned to a field. -/
inductive Upkeep where
  /-- It is refused, as records never change. -/
  | frozen
  /-- It is checked and then stored. -/
  | checked
  /-- It is stored as it is. -/
  | unchecked
  deriving DecidableEq, Repr

/-- The description of records `R`. -/
structure Schema (R : Type) where
  /-- What a record is called. -/
  title : String
  /-- A record with the values of the fields that are left out. -/
  blank : R
  fields : List (Field R)
  /-- The rule across the fields. -/
  accepts : R → Bool
  /-- What is said of a record that breaks the rule. -/
  refusal : String
  /-- What becomes of a value that is assigned to a field. -/
  upkeep : Upkeep
  /-- The names of what is computed from the fields. -/
  derived : List String

namespace Schema

variable {R : Type}

/-- A description without a rule across its fields, of records that may change. -/
def plain (title : String) (blank : R) (fields : List (Field R)) : Schema R :=
  ⟨title, blank, fields, fun _ => true, "", .checked, []⟩

/-- A description of records that never change. -/
def constant (title : String) (blank : R) (fields : List (Field R)) : Schema R :=
  { plain title blank fields with upkeep := .frozen }

/-- A description of records that are kept without checks. -/
def loose (title : String) (blank : R) (fields : List (Field R)) : Schema R :=
  { plain title blank fields with upkeep := .unchecked }

/-- The same description, with names of what is computed from the fields. -/
def computing (schema : Schema R) (names : List String) : Schema R := { schema with derived := names }

/-- Reads fields into `record`, after the `problems` found so far.  Where a field is missing, the
members are shown as `shown`. -/
def readFields (members : Keyed Json) (shown : Exhibit) : List (Field R) → R → List Problem → Reading R
  | [], record, problems => if problems.isEmpty then .good record else .flawed problems
  | field :: rest, record, problems =>
    match members.get? field.name with
    | none =>
      match field.lapse with
      | some fault => .broken fault
      | none =>
        readFields members shown rest record
          (if field.required then problems ++ [⟨[.field field.name], .missing, shown⟩] else problems)
    | some value =>
      match (field.read value record).under (.field field.name) with
      | .good changed => readFields members shown rest changed problems
      | .flawed found => readFields members shown rest record (problems ++ found)
      | .broken fault => .broken fault

/-- Reads a record from members that are shown as `shown` when something is wrong with them. -/
def readMembers (schema : Schema R) (members : Keyed Json) (shown : Exhibit) : Reading R :=
  (readFields members shown schema.fields schema.blank []).andThen fun record =>
    if schema.accepts record then .good record else .flawed [⟨[], .rejected schema.refusal, shown⟩]

/-- Reads a record. -/
def read (schema : Schema R) : Json → Reading R
  | .obj members => schema.readMembers members (Json.obj members).exhibit
  | value => .flaw value (.notRecord schema.title)

/-- Writes a record. -/
def write (schema : Schema R) (record : R) : Json :=
  .obj (schema.fields.map fun field => (field.name, field.write record))

/-- The codec of records. -/
def codec (schema : Schema R) : Codec R := { decode := schema.read, encode := schema.write }

/-- What can be asked of every record and is computed. -/
def alwaysDerived : List String := ["model_extra", "model_fields_set"]

/-- Whether a name is that of something computed, which cannot be assigned. -/
def isDerived (schema : Schema R) (name : String) : Bool :=
  schema.derived.contains name || alwaysDerived.contains name

/-- Whether a name is private: a value may be assigned to it and is of no consequence, unless the
name is one that every record has. -/
def isPrivate (name : String) : Bool := name.startsWith "_"

/-- The name under which a record has all its values. -/
def allValues : String := "__dict__"

/-- The fault of assigning a value to a name that every record has: what a record is cannot be a
value, all its values can only be a map, and the others cannot be assigned. -/
def privateFault? (name : String) (value : Json) : Option Fault :=
  if name = "__class__" then some (.type s!"{name} must be set to a class")
  else if name = allValues then
    match value with
    | .obj _ => none
    | _ => some (.type s!"{name} must be set to a dictionary")
  else if ["__weakref__", "__fields__", "__fields_set__"].contains name then
    some (.part s!"'{name}' cannot be set")
  else none

/-- The field of a name. -/
def field? (schema : Schema R) (name : String) : Option (Field R) :=
  schema.fields.find? fun field => field.name == name

/-- Checks `value` and assigns it to the field `name`: the fault, if any, and the record
afterwards. -/
def check (schema : Schema R) (record : R) (name : String) (value : Json) : Except Fault Unit × R :=
  match schema.field? name with
  | none => (.error (.invalid schema.title [⟨[.field name], .unknownField name, value.exhibit⟩]), record)
  | some field =>
    match (field.read value record).under (.field name) with
    | .good changed =>
      if schema.accepts changed then (.ok (), changed)
      else (.error (.invalid schema.title [⟨[], .rejected schema.refusal, value.exhibit⟩]), changed)
    | .flawed problems => (.error (.invalid schema.title problems), record)
    | .broken fault => (.error fault, record)

end Schema

/-- A record and the values that were assigned to its fields without a check. -/
structure Draft (R : Type) where
  record : R
  /-- The values by the names of the fields. -/
  taken : Keyed Json
  /-- Whether the values of the record itself are gone. -/
  emptied : Bool

/-- A record to which nothing was assigned. -/
def Draft.of {R : Type} (record : R) : Draft R := ⟨record, [], false⟩

namespace Schema

variable {R : Type}

/-- Assigns `value` to a private name. -/
def assignPrivate (draft : Draft R) (name : String) (value : Json) : Except Fault Unit × Draft R :=
  match privateFault? name value with
  | some fault => (.error fault, draft)
  | none => (.ok (), if name = allValues then { draft with taken := value.members, emptied := true } else draft)

/-- Assigns `value` to the field `name`: the fault, if any, and the draft afterwards. -/
def assign (schema : Schema R) (draft : Draft R) (name : String) (value : Json) : Except Fault Unit × Draft R :=
  if isPrivate name then assignPrivate draft name value
  else if schema.upkeep = .frozen then
    (.error (.invalid schema.title [⟨[.field name], .frozen, value.exhibit⟩]), draft)
  else if schema.isDerived name then (.error (.part s!"'{name}' cannot be set"), draft)
  else if schema.upkeep = .checked then
    let (outcome, record) := schema.check draft.record name value
    (outcome, { draft with record := record })
  else match schema.field? name with
    | none => (.error (.value s!"there is no field '{name}'"), draft)
    | some _ => (.ok (), { draft with taken := draft.taken.put name value })

/-- What comes of assigning to a part of a value of a field.  The name of a choice, what it stands
for and its rank cannot be assigned. -/
def assignPart (roomy : Bool) (name : String) (value : Json) : Except Fault Unit :=
  let refused : Fault := .part s!"'{name}' cannot be set"
  if name = "__class__" then .error ((privateFault? name value).getD refused)
  else if !roomy || ["name", "value", "rank", "__weakref__"].contains name then .error refused
  else match privateFault? name value with
    | some fault => if name = allValues then .error fault else .ok ()
    | none => .ok ()

/-- Assigns `value` to what `path` leads to: a field of the record or, as far as nothing further
can be reached, a part of the value of a field, which rarely takes assignments.  The result is a
fault if the path leads nowhere. -/
def assignAt (schema : Schema R) (draft : Draft R) (path : List String) (value : Json) :
    Except Fault (Except Fault Unit × Draft R) :=
  match path with
  | [name] => .ok (schema.assign draft name value)
  | [field, name] =>
    match schema.field? field with
    | some found => .ok (assignPart found.roomy name value, draft)
    | none => .error (.part s!"there is no field '{field}'")
  | _ => .error (.part "the path leads nowhere")

/-- Writes a record, with the values that were assigned without a check. -/
def writeDraft (schema : Schema R) (draft : Draft R) : Json :=
  .obj (schema.fields.filterMap fun field =>
    match draft.taken.get? field.name with
    | some value => some (field.name, field.restate value)
    | none => if draft.emptied then none else some (field.name, field.write draft.record))

/-- The record that a value denotes. -/
def parse (schema : Schema R) (value : Json) : Except Fault R := (schema.read value).result schema.title

end Schema

end FixFirst
