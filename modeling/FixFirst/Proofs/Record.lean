import FixFirst.Proofs.Json.Spread
import FixFirst.Proofs.Schema

/-!
# Records said by documents

A record is written with a member for each field; the members that hold nothing are left out.  A codec says a value if
what it writes can stand in a document and is read as the value, though what holds nothing is left out everywhere in
it.  A record is said if each of its fields is: one that is left out has its usual value.

## Main definitions

* `Codec.Says` — whether what a codec writes says a value.
* `Field.Carries`, `Carried` — whether a field, and fields one after the other, make one record of another.

## Main statements

* `Codec.says_list`, `Codec.says_map` — lists and maps of what is said are said.
* `Schema.says_of_carried` — a record is said if its fields make it of the record of usual values.
-/

namespace FixFirst

variable {R α β : Type}

/-- Readings that all give a value give all the values. -/
theorem Reading.collect_map (read : β → Reading α) (value : β → α) {items : List β}
    (h : ∀ item ∈ items, read item = .good (value item)) : collect (items.map read) = .good (items.map value) := by
  induction items with
  | nil => rfl
  | cons item items ih =>
      obtain ⟨hitem, hrest⟩ := List.forall_mem_cons.mp h
      rw [List.map_cons, collect, hitem, ih hrest]
      rfl

namespace Json

@[simp] theorem isNull_dropNulls (value : Json) : value.dropNulls.isNull = value.isNull := by
  cases value <;> rfl

theorem keys_dropNullsMembers_sublist (members : List (String × Json)) :
    ((dropNullsMembers members).map (·.1)).Sublist (members.map (·.1)) := by
  induction members with
  | nil => exact List.Sublist.refl _
  | cons member members ih =>
      rw [dropNullsMembers]
      split
      · exact ih.cons _
      · exact ih.cons_cons _

/-- What is there under a key that is among the members once, when the members that hold nothing are left out. -/
theorem get?_dropNullsMembers {members : List (String × Json)} (hkeys : (members.map (·.1)).Nodup) {key : String}
    {value : Json} (hmember : (key, value) ∈ members) :
    Keyed.get? (dropNullsMembers members) key = if value.isNull then none else some value.dropNulls := by
  induction members with
  | nil => exact absurd hmember List.not_mem_nil
  | cons member members ih =>
      obtain ⟨hfresh, hrest⟩ := List.nodup_cons.mp hkeys
      have hnone : ∀ entries : List (String × Json), key ∉ entries.map (·.1) → Keyed.get? entries key = none := by
        intro entries hnot
        rw [← Option.not_isSome_iff_eq_none]
        exact fun hsome => hnot ((Keyed.holds_iff entries key).mp hsome)
      rw [dropNullsMembers]
      rcases List.mem_cons.mp hmember with rfl | hin
      · have hleft : key ∉ (dropNullsMembers members).map (·.1) :=
          fun hin => hfresh ((keys_dropNullsMembers_sublist members).subset hin)
        split
        · exact hnone _ hleft
        · rw [Keyed.get?_cons, if_pos rfl]
      · have hother : member.1 ≠ key := by
          intro hsame
          have hkey : key ∈ members.map (·.1) := List.mem_map_of_mem hin
          rw [← hsame] at hkey
          exact hfresh hkey
        split
        · exact ih hrest hin
        · rw [Keyed.get?_cons, if_neg hother, ih hrest hin]

end Json

/-! ### Values -/

namespace Codec

/-- Whether what a codec writes for a value says it: it is something, it can stand in a document, where it is nested
no deeper than `depth` and has the whole numbers `numbers`, and without what holds nothing it is read as the value. -/
structure Says (codec : Codec α) (value : α) (depth : Nat) (numbers : List Int) : Prop where
  something : (codec.encode value).isNull = false
  definite : (codec.encode value).dropNulls.Definite
  nesting : (codec.encode value).dropNulls.nesting ≤ depth
  numbers : (codec.encode value).dropNulls.numbers = numbers
  decode : codec.decode (codec.encode value).dropNulls = .good value

theorem says_text (body : String) (depth : Nat) : text.Says body depth [] :=
  ⟨rfl, trivial, Nat.zero_le _, rfl, rfl⟩

theorem says_integer (n : Int) (depth : Nat) : integer.Says n depth [n] :=
  ⟨rfl, trivial, Nat.zero_le _, rfl, rfl⟩

theorem says_number {x : Float} (h : Quantity.isFinite x = true) (depth : Nat) : number.Says x depth [] :=
  ⟨rfl, h, Nat.zero_le _, rfl, rfl⟩

theorem says_boolean (truth : Bool) (depth : Nat) : boolean.Says truth depth [] :=
  ⟨rfl, trivial, Nat.zero_le _, rfl, rfl⟩

theorem says_count {least n : Nat} (h : least ≤ n) (depth : Nat) : (count least).Says n depth [(n : Int)] := by
  refine ⟨rfl, trivial, Nat.zero_le _, rfl, ?_⟩
  have hread : (count least).decode (.int n) = .good n := by
    have hleast : (least : Int) ≤ n := Int.ofNat_le.mpr h
    simp only [count, integer, Reading.andThen, if_pos hleast, Int.toNat_natCast]
  exact hread

/-- A choice is said where different options have different names. -/
theorem says_choice {options : List α} {name : α → String} {option : α} (hin : option ∈ options)
    (hname : ∀ other ∈ options, name other = name option → other = option) (depth : Nat) :
    (choice options name).Says option depth [] := by
  refine ⟨rfl, trivial, Nat.zero_le _, rfl, ?_⟩
  have hfound : options.find? (fun other => (Json.str (name option)).isText (name other)) = some option := by
    cases hfind : options.find? (fun other => (Json.str (name option)).isText (name other)) with
    | none =>
        have hnot := List.find?_eq_none.mp hfind option hin
        simp [Json.isText] at hnot
    | some other =>
        have hsame := List.find?_some hfind
        rw [hname other (List.mem_of_find?_eq_some hfind) (beq_iff_eq.mp hsame).symm]
  have hread : (choice options name).decode (.str (name option)) = .good option := by
    simp only [choice, hfound]
  exact hread

/-- The path of a file is said if normalising does not change it. -/
theorem says_file {disk : Disk} {path : String} (h : disk.normalize path = .ok path) (depth : Nat) :
    (file disk).Says path depth [] := by
  have hread : (file disk).decode (.str path) = .good path := by
    simp only [file, normalFile, h, ofNormal]
  exact ⟨rfl, trivial, Nat.zero_le _, rfl, hread⟩

theorem dropNullsItems_map (encode : α → Json) (values : List α) :
    Json.dropNullsItems (values.map encode) = values.map fun value => (encode value).dropNulls := by
  induction values with
  | nil => rfl
  | cons value values ih => rw [List.map_cons, Json.dropNullsItems, ih, List.map_cons]

/-- A list of what is said is said. -/
theorem says_list {codec : Codec α} {values : List α} {depth : Nat} {numbers : α → List Int}
    (h : ∀ value ∈ values, codec.Says value depth (numbers value)) :
    codec.list.Says values (depth + 1) (values.flatMap numbers) := by
  have hitems : (codec.list.encode values).dropNulls = .arr (values.map fun value => (codec.encode value).dropNulls) :=
    congrArg Json.arr (dropNullsItems_map codec.encode values)
  have hparts : Json.DefiniteItems (values.map fun value => (codec.encode value).dropNulls) ∧
      Json.nestingItems (values.map fun value => (codec.encode value).dropNulls) ≤ depth ∧
      Json.itemNumbers (values.map fun value => (codec.encode value).dropNulls) = values.flatMap numbers := by
    clear hitems
    induction values with
    | nil => exact ⟨trivial, Nat.zero_le _, rfl⟩
    | cons value values ih =>
        obtain ⟨hvalue, hrest⟩ := List.forall_mem_cons.mp h
        obtain ⟨hdefinite, hnesting, hnumbers⟩ := ih hrest
        refine ⟨⟨hvalue.definite, hdefinite⟩, max_le hvalue.nesting hnesting, ?_⟩
        rw [List.map_cons, Json.itemNumbers, hvalue.numbers, hnumbers, List.flatMap_cons]
  have hread : codec.list.decode (.arr (values.map fun value => (codec.encode value).dropNulls)) = .good values := by
    have hvalues := Reading.collect_map
      (fun entry : α × Nat => (codec.decode (codec.encode entry.1).dropNulls).under (.index entry.2)) Prod.fst
      fun entry (hin : entry ∈ values.zipIdx) =>
        Reading.under_eq_good.mpr (h entry.1 (List.fst_mem_of_mem_zipIdx hin)).decode
    rw [List.zipIdx_map_fst] at hvalues
    simpa [list, List.zipIdx_map, Function.comp_def] using hvalues
  exact ⟨rfl, hitems ▸ hparts.1, hitems ▸ Nat.succ_le_succ hparts.2.1, hitems ▸ hparts.2.2, hitems ▸ hread⟩

/-- A map of what is said is said. -/
theorem says_map {codec : Codec α} {entries : Keyed α} {depth : Nat} (numbers : α → List Int)
    (hkeys : (Keyed.keys entries).Nodup) (h : ∀ entry ∈ entries, codec.Says entry.2 depth (numbers entry.2)) :
    codec.map.Says entries (depth + 1) (entries.flatMap fun entry => numbers entry.2) := by
  have hmembers : codec.map.encode entries = .obj (entries.map fun entry => (entry.1, codec.encode entry.2)) := rfl
  have hkept : Json.dropNullsMembers (entries.map fun entry => (entry.1, codec.encode entry.2)) =
      entries.map fun entry => (entry.1, (codec.encode entry.2).dropNulls) := by
    clear hmembers hkeys
    induction entries with
    | nil => rfl
    | cons entry entries ih =>
        obtain ⟨hentry, hrest⟩ := List.forall_mem_cons.mp h
        rw [List.map_cons, Json.dropNullsMembers, hentry.something, if_neg Bool.false_ne_true, ih hrest, List.map_cons]
  have hparts : Json.DefiniteMembers (entries.map fun entry => (entry.1, (codec.encode entry.2).dropNulls)) ∧
      Json.nestingMembers (entries.map fun entry => (entry.1, (codec.encode entry.2).dropNulls)) ≤ depth ∧
      Json.memberNumbers (entries.map fun entry => (entry.1, (codec.encode entry.2).dropNulls)) =
        entries.flatMap fun entry => numbers entry.2 := by
    clear hmembers hkept hkeys
    induction entries with
    | nil => exact ⟨trivial, Nat.zero_le _, rfl⟩
    | cons entry entries ih =>
        obtain ⟨hentry, hrest⟩ := List.forall_mem_cons.mp h
        obtain ⟨hdefinite, hnesting, hnumbers⟩ := ih hrest
        refine ⟨⟨hentry.definite, hdefinite⟩, max_le hentry.nesting hnesting, ?_⟩
        rw [List.map_cons, Json.memberNumbers, hentry.numbers, hnumbers, List.flatMap_cons]
  have hnodup : ((entries.map fun entry => (entry.1, (codec.encode entry.2).dropNulls)).map (·.1)).Nodup := by
    rw [List.map_map]
    exact hkeys
  have hread : codec.map.decode (.obj (entries.map fun entry => (entry.1, (codec.encode entry.2).dropNulls))) =
      .good entries := by
    have hentries := Reading.collect_map
      (fun entry : String × α =>
        ((codec.decode (codec.encode entry.2).dropNulls).under (.field entry.1)).map fun value => (entry.1, value)) id
      fun entry (hin : entry ∈ entries) => Reading.map_eq_good.mpr ⟨entry.2, Reading.under_eq_good.mpr (h entry hin).decode, rfl⟩
    rw [List.map_id] at hentries
    simpa [map, Function.comp_def] using hentries
  rw [← hkept] at hparts hnodup hread
  exact ⟨rfl, ⟨hnodup, hparts.1⟩, Nat.succ_le_succ hparts.2.1, hparts.2.2, hread⟩

end Codec

/-! ### Fields -/

/-- Whether a field that is written for a record makes one record of another: either it holds nothing, and is left out
where it may be, or it is read. -/
inductive Field.Carries (field : Field R) (record before : R) (depth : Nat) : List Int → R → Prop where
  | absent (nothing : (field.write record).isNull = true) (optional : field.required = false)
      (usual : field.lapse = none) : Carries field record before depth [] before
  | present {after : R} (something : (field.write record).isNull = false)
      (definite : (field.write record).dropNulls.Definite) (nesting : (field.write record).dropNulls.nesting ≤ depth)
      (read : field.read (field.write record).dropNulls before = .good after) :
      Carries field record before depth (field.write record).dropNulls.numbers after

/-- Whether fields that are written for a record make one record of another, one after the other. -/
inductive Carried (record : R) (depth : Nat) : List (Field R) → R → List Int → R → Prop where
  | nil (before : R) : Carried record depth [] before [] before
  | cons {field : Field R} {rest : List (Field R)} {before between after : R} {first others : List Int}
      (head : field.Carries record before depth first between) (tail : Carried record depth rest between others after) :
      Carried record depth (field :: rest) before (first ++ others) after

namespace Field

variable {name : String} {codec : Codec α} {get : R → α} {set : R → α → R} {record : R} {depth : Nat} {numbers : List Int}

/-- A field that writes what is said, and reads it, is carried. -/
theorem carries_of_says {field : Field R} {value : α} {before after : R} (h : codec.Says value depth numbers)
    (hwrite : field.write record = codec.encode value)
    (hread : field.read (codec.encode value).dropNulls before = .good after) :
    field.Carries record before depth numbers after := by
  obtain ⟨hsomething, hdefinite, hnesting, hnumbers, -⟩ := h
  rw [← hwrite] at hsomething hdefinite hnesting hnumbers hread
  rw [← hnumbers]
  exact .present hsomething hdefinite hnesting hread

theorem carries_needed (h : codec.Says (get record) depth numbers) (before : R) :
    (needed name codec get set).Carries record before depth numbers (set before (get record)) :=
  carries_of_says h rfl (Reading.map_eq_good.mpr ⟨get record, h.decode, rfl⟩)

theorem carries_given (h : codec.Says (get record) depth numbers) (before : R) :
    (given name codec get set).Carries record before depth numbers (set before (get record)) :=
  carries_of_says h rfl (Reading.map_eq_good.mpr ⟨get record, h.decode, rfl⟩)

/-- A field of what may be there is carried if what is there is said, and nothing is the usual value. -/
theorem carries_optional {get : R → Option α} {set : R → Option α → R} {numbers : α → List Int} {before : R}
    (h : ∀ value ∈ get record, codec.Says value depth (numbers value)) (husual : set before none = before) :
    (given name (.optional codec) get set).Carries record before depth ((get record).toList.flatMap numbers)
      (set before (get record)) := by
  have hwrite : (given name (.optional codec) get set).write record = (Codec.optional codec).encode (get record) := rfl
  cases hvalue : get record with
  | none =>
      rw [hvalue] at hwrite
      rw [husual]
      exact .absent (congrArg Json.isNull hwrite) rfl rfl
  | some value =>
      rw [hvalue] at hwrite
      have hsays := h value hvalue
      have hdecode : (Codec.optional codec).decode (codec.encode value).dropNulls = .good (some value) := by
        have hsomething := hsays.something
        have hread := hsays.decode
        rw [← Json.isNull_dropNulls] at hsomething
        cases hwritten : (codec.encode value).dropNulls with
        | null =>
            rw [hwritten] at hsomething
            cases hsomething
        | _ =>
            rw [hwritten] at hread
            exact Reading.map_eq_good.mpr ⟨value, hread, rfl⟩
      rw [Option.toList_some, List.flatMap_singleton]
      exact carries_of_says hsays hwrite (Reading.map_eq_good.mpr ⟨some value, hdecode, rfl⟩)

end Field

/-! ### Records -/

namespace Schema

variable {record : R} {depth : Nat} {numbers : List Int}

/-- The members of a record that hold something. -/
def kept (fields : List (Field R)) (record : R) : List (String × Json) :=
  Json.dropNullsMembers (fields.map fun field => (field.name, field.write record))

theorem kept_of_carried {fields : List (Field R)} {before after : R} (h : Carried record depth fields before numbers after) :
    Json.DefiniteMembers (kept fields record) ∧ Json.nestingMembers (kept fields record) ≤ depth ∧
      Json.memberNumbers (kept fields record) = numbers := by
  induction h with
  | nil => exact ⟨trivial, Nat.zero_le _, rfl⟩
  | cons head _ ih =>
      obtain ⟨hdefinite, hnesting, hnumbers⟩ := ih
      cases head with
      | absent nothing =>
          rw [kept, List.map_cons, Json.dropNullsMembers, if_pos nothing]
          exact ⟨hdefinite, hnesting, hnumbers⟩
      | present something definite nesting =>
          rw [kept, List.map_cons, Json.dropNullsMembers, if_neg (by rw [something]; decide)]
          refine ⟨⟨definite, hdefinite⟩, max_le nesting hnesting, ?_⟩
          rw [Json.memberNumbers, ← hnumbers]
          rfl

theorem readFields_of_carried {members : Keyed Json} {shown : Exhibit} {fields : List (Field R)} {before after : R}
    (h : Carried record depth fields before numbers after)
    (hmembers : ∀ field ∈ fields, members.get? field.name =
      if (field.write record).isNull then none else some (field.write record).dropNulls) :
    readFields members shown fields before [] = .good after := by
  induction h with
  | nil => rfl
  | cons head _ ih =>
      obtain ⟨hfield, hrest⟩ := List.forall_mem_cons.mp hmembers
      rw [readFields, hfield]
      cases head with
      | absent nothing optional usual => simp [nothing, optional, usual, ih hrest]
      | present something definite nesting read => simp [something, Reading.under_eq_good.mpr read, ih hrest]

/-- A record is said if its fields make it of the record of usual values. -/
theorem says_of_carried {schema : Schema R} (hnames : (schema.fields.map (·.name)).Nodup)
    (haccepts : schema.accepts record = true)
    (h : Carried record depth schema.fields schema.blank numbers record) :
    schema.codec.Says record (depth + 1) numbers := by
  obtain ⟨hdefinite, hnesting, hnumbers⟩ := kept_of_carried h
  have hkeys : ((schema.fields.map fun field => (field.name, field.write record)).map (·.1)).Nodup := by
    rw [List.map_map]
    exact hnames
  have hread : schema.read (.obj (kept schema.fields record)) = .good record := by
    refine Reading.andThen_eq_good.mpr ⟨record, readFields_of_carried h fun field hin => ?_, if_pos haccepts⟩
    exact Json.get?_dropNullsMembers hkeys (List.mem_map_of_mem hin)
  exact ⟨rfl, ⟨(Json.keys_dropNullsMembers_sublist _).nodup hkeys, hdefinite⟩, Nat.succ_le_succ hnesting, hnumbers, hread⟩

end Schema

end FixFirst
