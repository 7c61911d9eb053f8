import FixFirst.Schema.Record

/-!
# What reading and assigning keep

A record comes about by reading its fields one after the other into a record of usual values, and it changes
by reading a single field.  So what every field keeps holds of all records that are read, and of what becomes
of them by assignments.  The rule across the fields is another matter: a record that is read obeys it, but a
value that is assigned is stored before the rule is looked at.

## Main definitions

* `Schema.Keeps` — whether reading any field keeps a property of records.
* `Schema.Refused` — an assignment that is refused by the rule across the fields.
* `Schema.Assigned` — what an assignment may come to.

## Main statements

* `Schema.holds_of_read` — what holds of every record that is read.
* `Schema.assigned_assignAt` — what assigning to a record may come to.
* `Schema.Assigned.keeps` — assignments keep what reading keeps.
-/

namespace FixFirst

variable {R α β : Type}

/-! ### Readings -/

namespace Reading

theorem map_eq_good {f : α → β} {reading : Reading α} {result : β} :
    reading.map f = good result ↔ ∃ value, reading = good value ∧ f value = result := by
  cases reading <;> simp [map]

theorem andThen_eq_good {reading : Reading α} {next : α → Reading β} {result : β} :
    reading.andThen next = good result ↔ ∃ value, reading = good value ∧ next value = good result := by
  cases reading <;> simp [andThen]

theorem under_eq_good {step : Step} {reading : Reading α} {value : α} :
    reading.under step = good value ↔ reading = good value := by
  cases reading <;> simp [under]

theorem result_eq_ok {title : String} {reading : Reading α} {value : α} :
    reading.result title = .ok value ↔ reading = good value := by
  cases reading <;> simp [result]

end Reading

namespace Codec

/-- A value that has to meet a condition is one that was read and meets it. -/
theorem limited_eq_good {codec : Codec α} {holds : α → Bool} {flaw : Flaw} {given : Json} {value : α} :
    (codec.limited holds flaw).decode given = .good value ↔ codec.decode given = .good value ∧ holds value = true := by
  refine Reading.andThen_eq_good.trans ⟨?_, ?_⟩
  · rintro ⟨read, hread, hif⟩
    split at hif
    · rename_i hholds
      cases hif
      exact ⟨hread, hholds⟩
    · cases hif
  · rintro ⟨hread, hholds⟩
    exact ⟨value, hread, if_pos hholds⟩

theorem above_eq_good {bound : Float} {codec : Codec Float} {given : Json} {value : Float} :
    (codec.above bound).decode given = .good value ↔ codec.decode given = .good value ∧ bound < value := by
  rw [above, limited_eq_good, decide_eq_true_eq]

theorem atLeast_eq_good {bound : Float} {codec : Codec Float} {given : Json} {value : Float} :
    (codec.atLeast bound).decode given = .good value ↔ codec.decode given = .good value ∧ bound ≤ value := by
  rw [atLeast, limited_eq_good, decide_eq_true_eq]

theorem atMost_eq_good {bound : Float} {codec : Codec Float} {given : Json} {value : Float} :
    (codec.atMost bound).decode given = .good value ↔ codec.decode given = .good value ∧ value ≤ bound := by
  rw [atMost, limited_eq_good, decide_eq_true_eq]

theorem below_eq_good {bound : Float} {codec : Codec Float} {given : Json} {value : Float} :
    (codec.below bound).decode given = .good value ↔ codec.decode given = .good value ∧ value < bound := by
  rw [below, limited_eq_good, decide_eq_true_eq]

theorem le_of_count {least : Nat} {given : Json} {value : Nat} (h : (count least).decode given = .good value) :
    least ≤ value := by
  obtain ⟨number, -, hif⟩ := Reading.andThen_eq_good.mp h
  split at hif
  · cases hif
    omega
  · cases hif

end Codec

/-! ### Reading -/

namespace Schema

/-- Whether reading any field keeps a property of records. -/
def Keeps (schema : Schema R) (holds : R → Prop) : Prop :=
  ∀ field ∈ schema.fields, ∀ value before after, holds before → field.read value before = .good after → holds after

/-- What holds of a record whose fields are left out, and what reading a field keeps, holds of every record
whose fields are read. -/
theorem holds_of_readFields {holds : R → Prop} {members : Keyed Json} {shown : Exhibit} {fields : List (Field R)}
    {start record : R} {problems : List Problem}
    (hkeep : ∀ field ∈ fields, ∀ value before after, holds before → field.read value before = .good after → holds after)
    (hstart : holds start) (hread : readFields members shown fields start problems = .good record) : holds record := by
  induction fields generalizing start problems with
  | nil =>
      unfold readFields at hread
      split at hread
      · cases hread
        exact hstart
      · cases hread
  | cons field rest ih =>
      have hrest := fun other hin => hkeep other (List.mem_cons_of_mem _ hin)
      unfold readFields at hread
      split at hread
      · split at hread
        · cases hread
        · exact ih hrest hstart hread
      · rename_i value _
        split at hread
        · rename_i changed hfield
          exact ih hrest
            (hkeep field List.mem_cons_self value start changed hstart (Reading.under_eq_good.mp hfield)) hread
        · exact ih hrest hstart hread
        · cases hread

/-- A record that is read has what reading keeps, and obeys the rule across the fields. -/
theorem holds_of_read {schema : Schema R} {holds : R → Prop} {value : Json} {record : R} (hkeeps : schema.Keeps holds)
    (hblank : holds schema.blank) (h : schema.read value = .good record) :
    holds record ∧ schema.accepts record = true := by
  cases value with
  | obj members =>
      obtain ⟨read, hread, hif⟩ := Reading.andThen_eq_good.mp h
      split at hif
      · rename_i haccepts
        cases hif
        exact ⟨holds_of_readFields hkeeps hblank hread, haccepts⟩
      · cases hif
  | _ => cases h

end Schema

/-- What assigning a value that was read keeps, reading a field keeps. -/
theorem Field.keeps {holds : R → Prop} {codec : Codec α} {set : R → α → R}
    (hset : ∀ given value before, codec.decode given = .good value → holds before → holds (set before value))
    (given : Json) (before after : R) (hbefore : holds before)
    (hread : (codec.decode given).map (set before) = .good after) : holds after := by
  obtain ⟨value, hvalue, rfl⟩ := Reading.map_eq_good.mp hread
  exact hset given value before hvalue hbefore

/-! ### Assigning -/

namespace Schema

/-- An assignment that is refused by the rule across the fields: a value was read into the record, which
breaks the rule, and the record has the value though the assignment fails. -/
structure Refused (schema : Schema R) (record : R) (fault : Fault) (after : R) : Prop where
  /-- A field was read. -/
  read : ∃ field ∈ schema.fields, ∃ value, field.read value record = .good after ∧
    fault = .invalid schema.title [⟨[], .rejected schema.refusal, value.exhibit⟩]
  /-- The record breaks the rule. -/
  breaks : schema.accepts after = false

/-- What an assignment to a record may come to. -/
inductive Assigned (schema : Schema R) (record : R) : Except Fault Unit → R → Prop where
  /-- Nothing changes: what was assigned is of no consequence, or it was refused before it was stored. -/
  | kept (outcome : Except Fault Unit) : Assigned schema record outcome record
  /-- A value is stored, and the record obeys the rule across the fields. -/
  | stored {field : Field R} {value : Json} {after : R} (mem : field ∈ schema.fields)
      (read : field.read value record = .good after) (accepts : schema.accepts after = true) :
      Assigned schema record (.ok ()) after
  /-- A value is stored, and then the record is refused. -/
  | refused {fault : Fault} {after : R} (refused : schema.Refused record fault after) :
      Assigned schema record (.error fault) after

variable {schema : Schema R} {record : R}

theorem assigned_check (name : String) (value : Json) :
    schema.Assigned record (schema.check record name value).1 (schema.check record name value).2 := by
  unfold check
  split
  · exact .kept _
  · rename_i field hfield
    have hmem : field ∈ schema.fields := List.mem_of_find?_eq_some hfield
    split
    · rename_i changed hread
      have hread := Reading.under_eq_good.mp hread
      split
      · rename_i haccepts
        exact .stored hmem hread haccepts
      · rename_i haccepts
        exact .refused ⟨⟨field, hmem, value, hread, rfl⟩, Bool.eq_false_iff.mpr haccepts⟩
    · exact .kept _
    · exact .kept _

theorem record_assignPrivate (draft : Draft R) (name : String) (value : Json) :
    (assignPrivate draft name value).2.record = draft.record := by
  unfold assignPrivate
  split
  · rfl
  · dsimp only
    split <;> rfl

theorem assigned_assign (hchecked : schema.upkeep = .checked) (draft : Draft R) (name : String) (value : Json) :
    schema.Assigned draft.record (schema.assign draft name value).1 (schema.assign draft name value).2.record := by
  unfold assign
  split
  · rw [record_assignPrivate]
    exact .kept _
  · rw [if_neg (by rw [hchecked]; decide)]
    split
    · exact .kept _
    · exact assigned_check name value

/-- What assigning to what a path leads to may come to. -/
theorem assigned_assignAt (hchecked : schema.upkeep = .checked) {path : List String} {value : Json}
    {outcome : Except Fault Unit} {draft : Draft R}
    (h : schema.assignAt (.of record) path value = .ok (outcome, draft)) :
    schema.Assigned record outcome draft.record := by
  unfold assignAt at h
  split at h
  · rename_i name
    have hassigned := assigned_assign hchecked (.of record) name value
    rw [Except.ok.inj h] at hassigned
    exact hassigned
  · split at h
    · cases h
      exact .kept _
    · cases h
  · cases h

/-- A value that was read into a record that breaks the rule is stored, though the assignment fails. -/
theorem assign_of_breaks (draft : Draft R) {name : String} {value : Json} {field : Field R} {after : R}
    (hchecked : schema.upkeep = .checked) (hpublic : isPrivate name = false) (hgiven : schema.isDerived name = false)
    (hfield : schema.field? name = some field) (hread : field.read value draft.record = .good after)
    (hbreaks : schema.accepts after = false) :
    schema.assign draft name value =
      (.error (.invalid schema.title [⟨[], .rejected schema.refusal, value.exhibit⟩]), { draft with record := after }) := by
  simp [assign, hpublic, hchecked, hgiven, check, hfield, Reading.under_eq_good.mpr hread, hbreaks]

namespace Assigned

variable {outcome : Except Fault Unit} {after : R}

/-- Assignments keep what reading keeps. -/
theorem keeps (h : schema.Assigned record outcome after) {holds : R → Prop} (hkeeps : schema.Keeps holds)
    (hrecord : holds record) : holds after := by
  cases h with
  | kept => exact hrecord
  | stored mem read accepts => exact hkeeps _ mem _ _ _ hrecord read
  | refused refused =>
      obtain ⟨field, hmem, value, hread, -⟩ := refused.read
      exact hkeeps field hmem value _ _ hrecord hread

/-- An assignment that fails changes nothing, unless the rule across the fields refuses it. -/
theorem of_error {fault : Fault} (h : schema.Assigned record (.error fault) after) :
    after = record ∨ schema.Refused record fault after := by
  cases h with
  | kept => exact .inl rfl
  | refused refused => exact .inr refused

/-- An assignment after which the rule is broken changes nothing, or the rule refuses it. -/
theorem of_breaks (h : schema.Assigned record outcome after) (hbreaks : schema.accepts after = false) :
    after = record ∨ ∃ fault, outcome = .error fault ∧ schema.Refused record fault after := by
  cases h with
  | kept => exact .inl rfl
  | stored mem read accepts => exact absurd (accepts.symm.trans hbreaks) (by decide)
  | refused refused => exact .inr ⟨_, rfl, refused⟩

/-- Without a rule across the fields, an assignment that fails changes nothing. -/
theorem eq_of_error {fault : Fault} (h : schema.Assigned record (.error fault) after)
    (hplain : ∀ other, schema.accepts other = true) : after = record := by
  rcases h.of_error with heq | hrefused
  · exact heq
  · exact absurd ((hplain after).symm.trans hrefused.breaks) (by decide)

end Assigned

end Schema

end FixFirst
