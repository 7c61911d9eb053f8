import FixFirst.Config
import FixFirst.Proofs.Fault
import FixFirst.Proofs.Schema
import Mathlib.Logic.Relation

/-!
# What assignments keep of a configuration

The settings of a configuration that was read keep to their bounds, whatever is assigned to them: a value out
of bounds is refused before it is stored.  The rule on the two sizes of batches is looked at after a value is
stored.  So an assignment that it refuses still takes effect, and the least size exceeds the target size until
one of them, or the whole section, is assigned again.

## Main definitions

* `Config.Bounded` — whether all settings keep to their bounds.
* `Config.Oversized` — an assignment that the rule on the two sizes refuses.
* `Config.Assigned` — what an assignment may come to, by the section that it is about.
* `Config.Changes` — the step from a configuration to what it is after an assignment.

## Main statements

* `Config.assigned` — what an assignment comes to.
* `Config.Assigned.bounded` — assignments keep the bounds.
* `Config.Assigned.of_error` — a failed assignment that changes anything is one that the rule refuses.
* `Config.assigning_keeps_bounds` — what holds of a configuration that was read, through all assignments.
* `Lopsided.min_size_stored` — a refused assignment that takes effect.
-/

namespace FixFirst

open Relation (ReflTransGen)

/-! ### Bounds -/

/-- Whether the settings of the execution section keep to their bounds. -/
structure ExecutionConfig.Bounded (config : ExecutionConfig Float) : Prop where
  jobs : 1 ≤ config.jobs
  timeout : 0 < config.timeout
  gracePeriod : 0 ≤ config.gracePeriod
  reserveRatio : 0 ≤ config.reserveRatio ∧ config.reserveRatio < 1

/-- Whether the settings of the batching section keep to their bounds. -/
structure BatchConfig.Bounded (config : BatchConfig Float) : Prop where
  targetSize : 1 ≤ config.targetSize
  minSize : 1 ≤ config.minSize
  baseTimeout : 0 ≤ config.baseTimeout
  perFileTimeout : 0 ≤ config.perFileTimeout
  imminentRatio : 0 ≤ config.imminentRatio ∧ config.imminentRatio ≤ 1

/-- Whether the settings of the resource section keep to their bounds. -/
structure ResourceConfig.Bounded (config : ResourceConfig Float) : Prop where
  memoryLimit : 0 < config.memoryLimit
  elevatedRatio : 0 < config.elevatedRatio ∧ config.elevatedRatio ≤ 1
  horizon : 0 < config.horizon
  interval : 0 < config.interval
  window : 2 ≤ config.window

/-- Whether all settings keep to their bounds. -/
structure Config.Bounded (config : Config Float) : Prop where
  execution : config.execution.Bounded
  batching : config.batching.Bounded
  resources : config.resources.Bounded
  /-- No engine has a blank name. -/
  engines : ∀ name ∈ config.engines.keys, Text.trim name.toList ≠ []

theorem Host.one_le_parallelJobs (host : Host) : 1 ≤ host.parallelJobs.toOption.getD 1 := by
  unfold Host.parallelJobs
  dsimp only
  split
  · exact Nat.le_max_left _ _
  · exact Nat.le_refl 1

/-! ### Sections -/

theorem ExecutionConfig.keeps (host : Host) : (ExecutionConfig.schema host).Keeps Bounded := by
  refine List.forall_mem_cons.mpr ⟨?jobs, List.forall_mem_cons.mpr ⟨?timeout, ?_⟩⟩
  case jobs =>
    exact Field.keeps fun _ _ _ hread hbefore => { hbefore with jobs := Codec.le_of_count hread }
  case timeout =>
    exact Field.keeps fun _ _ _ hread hbefore => { hbefore with timeout := (Codec.above_eq_good.mp hread).2 }
  -- Five switches and the severity that makes a run fail.
  iterate 6 refine List.forall_mem_cons.mpr ⟨Field.keeps fun _ _ _ _ hbefore => { hbefore with }, ?_⟩
  refine List.forall_mem_cons.mpr ⟨?gracePeriod, List.forall_mem_cons.mpr ⟨?reserveRatio, ?_⟩⟩
  case gracePeriod =>
    exact Field.keeps fun _ _ _ hread hbefore => { hbefore with gracePeriod := (Codec.atLeast_eq_good.mp hread).2 }
  case reserveRatio =>
    refine Field.keeps fun _ _ _ hread hbefore => ?_
    obtain ⟨hbelow, hleast⟩ := Codec.atLeast_eq_good.mp hread
    exact { hbefore with reserveRatio := ⟨hleast, (Codec.below_eq_good.mp hbelow).2⟩ }
  refine List.forall_mem_cons.mpr ⟨Field.keeps fun _ _ _ _ hbefore => { hbefore with }, ?_⟩
  exact List.forall_mem_nil _

theorem ExecutionConfig.bounded_blank (host : Host) : (schema host).blank.Bounded where
  jobs := host.one_le_parallelJobs
  timeout := (by decide : (0 : Float) < 30)
  gracePeriod := (by decide : (0 : Float) ≤ 0.5)
  reserveRatio := (by decide : (0 : Float) ≤ 0.05 ∧ (0.05 : Float) < 1)

theorem BatchConfig.keeps : BatchConfig.schema.Keeps Bounded := by
  refine List.forall_mem_cons.mpr ⟨?targetSize, List.forall_mem_cons.mpr ⟨?minSize, List.forall_mem_cons.mpr
    ⟨?baseTimeout, List.forall_mem_cons.mpr ⟨?perFileTimeout, List.forall_mem_cons.mpr ⟨?maxDeferrals,
    List.forall_mem_cons.mpr ⟨?imminentRatio, List.forall_mem_nil _⟩⟩⟩⟩⟩⟩
  case targetSize =>
    exact Field.keeps fun _ _ _ hread hbefore => { hbefore with targetSize := Codec.le_of_count hread }
  case minSize =>
    exact Field.keeps fun _ _ _ hread hbefore => { hbefore with minSize := Codec.le_of_count hread }
  case baseTimeout =>
    exact Field.keeps fun _ _ _ hread hbefore => { hbefore with baseTimeout := (Codec.atLeast_eq_good.mp hread).2 }
  case perFileTimeout =>
    exact Field.keeps fun _ _ _ hread hbefore => { hbefore with perFileTimeout := (Codec.atLeast_eq_good.mp hread).2 }
  case maxDeferrals =>
    exact Field.keeps fun _ _ _ _ hbefore => { hbefore with }
  case imminentRatio =>
    refine Field.keeps fun _ _ _ hread hbefore => ?_
    obtain ⟨hmost, hleast⟩ := Codec.atLeast_eq_good.mp hread
    exact { hbefore with imminentRatio := ⟨hleast, (Codec.atMost_eq_good.mp hmost).2⟩ }

theorem BatchConfig.bounded_blank : schema.blank.Bounded where
  targetSize := by decide
  minSize := by decide
  baseTimeout := by decide
  perFileTimeout := by decide
  imminentRatio := by decide

/-- The settings of the batching section are found by their names, to which values can be assigned. -/
theorem BatchConfig.settable : ∀ field ∈ schema.fields,
    Schema.isPrivate field.name = false ∧ schema.isDerived field.name = false ∧
      schema.field? field.name = some field := by
  iterate 6 refine List.forall_mem_cons.mpr ⟨⟨by decide +kernel, by decide, rfl⟩, ?_⟩
  exact List.forall_mem_nil _

theorem BatchConfig.allValues_not_mem {field : Field (BatchConfig Float)} (h : field ∈ schema.fields) :
    Schema.allValues ∉ ["batching", field.name] := by
  have hprivate : Schema.isPrivate Schema.allValues = true := by decide +kernel
  intro hmem
  rcases List.mem_cons.mp hmem with heq | hmem
  · exact absurd heq (by decide)
  · rw [List.mem_singleton.mp hmem] at hprivate
    exact absurd (hprivate.symm.trans (settable field h).1) (by decide)

theorem ResourceConfig.keeps : ResourceConfig.schema.Keeps Bounded := by
  refine List.forall_mem_cons.mpr ⟨?enabled, List.forall_mem_cons.mpr ⟨?memoryLimit, List.forall_mem_cons.mpr
    ⟨?elevatedRatio, List.forall_mem_cons.mpr ⟨?horizon, List.forall_mem_cons.mpr ⟨?interval,
    List.forall_mem_cons.mpr ⟨?window, List.forall_mem_nil _⟩⟩⟩⟩⟩⟩
  case enabled =>
    exact Field.keeps fun _ _ _ _ hbefore => { hbefore with }
  case memoryLimit =>
    exact Field.keeps fun _ _ _ hread hbefore => { hbefore with memoryLimit := (Codec.above_eq_good.mp hread).2 }
  case elevatedRatio =>
    refine Field.keeps fun _ _ _ hread hbefore => ?_
    obtain ⟨hmost, habove⟩ := Codec.above_eq_good.mp hread
    exact { hbefore with elevatedRatio := ⟨habove, (Codec.atMost_eq_good.mp hmost).2⟩ }
  case horizon =>
    exact Field.keeps fun _ _ _ hread hbefore => { hbefore with horizon := (Codec.above_eq_good.mp hread).2 }
  case interval =>
    exact Field.keeps fun _ _ _ hread hbefore => { hbefore with interval := (Codec.above_eq_good.mp hread).2 }
  case window =>
    exact Field.keeps fun _ _ _ hread hbefore => { hbefore with window := Codec.le_of_count hread }

theorem ResourceConfig.bounded_blank : schema.blank.Bounded where
  memoryLimit := by decide
  elevatedRatio := by decide
  horizon := by decide
  interval := by decide
  window := by decide

/-! ### The whole configuration -/

namespace Config

/-- No name of an engine that was read is blank. -/
theorem trim_ne_nil_of_engineTable {given : Json} {table : Keyed EngineConfig}
    (h : engineTable.decode given = .good table) : ∀ name ∈ table.keys, Text.trim name.toList ≠ [] := by
  intro name hname hblank
  have hall := List.all_eq_true.mp (Codec.limited_eq_good.mp h).2 name hname
  rw [hblank] at hall
  exact absurd hall (by decide)

theorem keeps_bounded (host : Host) : (schema host).Keeps Bounded := by
  refine List.forall_mem_cons.mpr ⟨?execution, List.forall_mem_cons.mpr ⟨?batching, List.forall_mem_cons.mpr
    ⟨?resources, List.forall_mem_cons.mpr ⟨?output, List.forall_mem_cons.mpr ⟨?engines, List.forall_mem_nil _⟩⟩⟩⟩⟩
  case execution =>
    refine Field.keeps fun _ _ _ hread hbefore => ?_
    exact { hbefore with
      execution := (Schema.holds_of_read (ExecutionConfig.keeps host) (ExecutionConfig.bounded_blank host) hread).1 }
  case batching =>
    refine Field.keeps fun _ _ _ hread hbefore => ?_
    exact { hbefore with batching := (Schema.holds_of_read BatchConfig.keeps BatchConfig.bounded_blank hread).1 }
  case resources =>
    refine Field.keeps fun _ _ _ hread hbefore => ?_
    exact { hbefore with
      resources := (Schema.holds_of_read ResourceConfig.keeps ResourceConfig.bounded_blank hread).1 }
  case output =>
    exact Field.keeps fun _ _ _ _ hbefore => { hbefore with }
  case engines =>
    exact Field.keeps fun _ _ _ hread hbefore => { hbefore with engines := trim_ne_nil_of_engineTable hread }

theorem bounded_blank (host : Host) : (schema host).blank.Bounded where
  execution := ExecutionConfig.bounded_blank host
  batching := BatchConfig.bounded_blank
  resources := ResourceConfig.bounded_blank
  engines := (by decide : ∀ name ∈ standardEngines, Text.trim name.toList ≠ [])

/-- Reading a section leaves the batching section as it is, or reads one whose sizes are in order. -/
theorem keeps_batching (host : Host) (known : BatchConfig Float) :
    (schema host).Keeps fun config =>
      config.batching = known ∨ config.batching.minSize ≤ config.batching.targetSize := by
  refine List.forall_mem_cons.mpr ⟨Field.keeps fun _ _ _ _ hbefore => hbefore, ?_⟩
  refine List.forall_mem_cons.mpr ⟨Field.keeps fun _ _ _ hread _ => .inr ?_, ?_⟩
  · exact of_decide_eq_true (Schema.holds_of_read BatchConfig.keeps BatchConfig.bounded_blank hread).2
  · iterate 3 refine List.forall_mem_cons.mpr ⟨Field.keeps fun _ _ _ _ hbefore => hbefore, ?_⟩
    exact List.forall_mem_nil _

/-! ### Assignments -/

/-- What an assignment to a configuration may come to, by the section that it is about. -/
inductive Assigned (host : Host) (config : Config Float) (outcome : Except Fault Unit) : Config Float → Prop where
  | execution {part : ExecutionConfig Float}
      (assigned : (ExecutionConfig.schema host).Assigned config.execution outcome part) :
      Assigned host config outcome { config with execution := part }
  | batching {part : BatchConfig Float} (assigned : BatchConfig.schema.Assigned config.batching outcome part) :
      Assigned host config outcome { config with batching := part }
  | resources {part : ResourceConfig Float} (assigned : ResourceConfig.schema.Assigned config.resources outcome part) :
      Assigned host config outcome { config with resources := part }
  | output {part : OutputConfig} (assigned : OutputConfig.schema.Assigned config.output outcome part) :
      Assigned host config outcome { config with output := part }
  | engine {name : String} {settings part : EngineConfig} (known : config.engines.get? name = some settings)
      (assigned : EngineConfig.schema.Assigned settings outcome part) :
      Assigned host config outcome { config with engines := config.engines.put name part }
  /-- A whole section is assigned. -/
  | whole {after : Config Float} (assigned : (schema host).Assigned config outcome after) :
      Assigned host config outcome after

variable {host : Host} {config after : Config Float} {outcome : Except Fault Unit}

theorem assigned_assignIn {R : Type} {schema : Schema R} (hchecked : schema.upkeep = .checked) {part : R}
    {put : R → Config Float} {path : List String} {value : Json}
    (h : assignIn schema part put path value = .ok (outcome, after)) :
    ∃ changed, schema.Assigned part outcome changed ∧ put changed = after := by
  obtain ⟨⟨told, draft⟩, hassign, hsame⟩ := map_ok_iff.mp h
  cases hsame
  exact ⟨draft.record, Schema.assigned_assignAt hchecked hassign, rfl⟩

/-- An assignment comes to what assigning to one section, or to the sections themselves, comes to. -/
theorem assigned {path : List String} {value : Json} (h : config.assign host path value = .ok (outcome, after)) :
    Assigned host config outcome after := by
  unfold assign at h
  split at h
  · obtain ⟨_, hassigned, rfl⟩ := assigned_assignIn rfl h
    exact .execution hassigned
  · obtain ⟨_, hassigned, rfl⟩ := assigned_assignIn rfl h
    exact .batching hassigned
  · obtain ⟨_, hassigned, rfl⟩ := assigned_assignIn rfl h
    exact .resources hassigned
  · obtain ⟨_, hassigned, rfl⟩ := assigned_assignIn rfl h
    exact .output hassigned
  · split at h
    · cases h
    · rename_i hknown
      obtain ⟨_, hassigned, rfl⟩ := assigned_assignIn rfl h
      exact .engine hknown hassigned
  · obtain ⟨_, hassigned, rfl⟩ := assigned_assignIn rfl h
    exact .whole hassigned

/-- An assignment that the rule on the two sizes refuses: only the batching section changes, by the value that
was assigned, and in it the least size exceeds the target size. -/
structure Oversized (config : Config Float) (fault : Fault) (after : Config Float) : Prop where
  batching : after = { config with batching := after.batching }
  refused : BatchConfig.schema.Refused config.batching fault after.batching
  exceeds : after.batching.targetSize < after.batching.minSize

namespace Assigned

/-- Assignments keep the bounds. -/
theorem bounded (h : Assigned host config outcome after) (hbounded : config.Bounded) : after.Bounded := by
  cases h with
  | execution assigned =>
      exact { hbounded with execution := assigned.keeps (ExecutionConfig.keeps host) hbounded.execution }
  | batching assigned => exact { hbounded with batching := assigned.keeps BatchConfig.keeps hbounded.batching }
  | resources assigned => exact { hbounded with resources := assigned.keeps ResourceConfig.keeps hbounded.resources }
  | output assigned => exact { hbounded with }
  | engine known assigned =>
      refine { hbounded with engines := fun name hname => ?_ }
      -- The engine is there, so putting its settings back adds no name.
      rw [Keyed.keys_put, if_pos ((Keyed.holds_iff _ _).mp (by rw [Keyed.holds, known]; rfl))] at hname
      exact hbounded.engines name hname
  | whole assigned => exact assigned.keeps (keeps_bounded host) hbounded

/-- An assignment to the batching section that the rule on the sizes refuses, in the whole configuration. -/
theorem oversized_of_refused {fault : Fault} {part : BatchConfig Float}
    (hrefused : BatchConfig.schema.Refused config.batching fault part) :
    config.Oversized fault { config with batching := part } where
  batching := rfl
  refused := hrefused
  exceeds := Nat.lt_of_not_le (of_decide_eq_false hrefused.breaks)

/-- A failed assignment changes nothing, unless the rule on the two sizes refuses it. -/
theorem of_error {fault : Fault} (h : Assigned host config (.error fault) after) :
    after = config ∨ config.Oversized fault after := by
  cases h with
  | execution assigned => exact .inl (by rw [assigned.eq_of_error fun _ => rfl])
  | batching assigned =>
      rcases assigned.of_error with heq | hrefused
      · exact .inl (by rw [heq])
      · exact .inr (oversized_of_refused hrefused)
  | resources assigned => exact .inl (by rw [assigned.eq_of_error fun _ => rfl])
  | output assigned => exact .inl (by rw [assigned.eq_of_error fun _ => rfl])
  | engine known assigned =>
      rw [assigned.eq_of_error fun _ => rfl, Keyed.put_eq_self known]
      exact .inl rfl
  | whole assigned => exact .inl (assigned.eq_of_error fun _ => rfl)

/-- After an assignment the sizes are in order, or the batching section is as it was, or the rule on the two
sizes refused the assignment. -/
theorem batching_cases (h : Assigned host config outcome after) :
    after.batching = config.batching ∨ after.batching.minSize ≤ after.batching.targetSize ∨
      ∃ fault, outcome = .error fault ∧ config.Oversized fault after := by
  cases h with
  | batching assigned =>
      rename_i part
      by_cases hordered : part.minSize ≤ part.targetSize
      · exact .inr (.inl hordered)
      · rcases assigned.of_breaks (decide_eq_false hordered) with heq | ⟨fault, houtcome, hrefused⟩
        · exact .inl heq
        · exact .inr (.inr ⟨fault, houtcome, oversized_of_refused hrefused⟩)
  | whole assigned =>
      rcases assigned.keeps (keeps_batching host config.batching) (.inl rfl) with heq | hordered
      · exact .inl heq
      · exact .inr (.inl hordered)
  | _ => exact .inl rfl

end Assigned

/-- An assignment that puts the sizes out of order fails, and takes effect all the same. -/
theorem assign_oversized (host : Host) (config : Config Float) {field : Field (BatchConfig Float)}
    (hfield : field ∈ BatchConfig.schema.fields) {value : Json} {part : BatchConfig Float}
    (hread : field.read value config.batching = .good part) (hexceeds : part.targetSize < part.minSize) :
    config.assign host ["batching", field.name] value =
      .ok (.error (.invalid "BatchConfig" [⟨[], .rejected "min_size must not exceed target_size", value.exhibit⟩]),
        { config with batching := part }) := by
  obtain ⟨hpublic, hgiven, hfound⟩ := BatchConfig.settable field hfield
  have hassign := Schema.assign_of_breaks (.of config.batching) rfl hpublic hgiven hfound hread
    (decide_eq_false (Nat.not_le_of_lt hexceeds))
  rw [assign, assignIn, Schema.assignAt, hassign]
  rfl

/-- The step from a configuration to what it is after an assignment.  To replace all values of a record at
once is no assignment to its settings. -/
def Changes (config : Config Float) (outcome : Except Fault Unit) (after : Config Float) : Prop :=
  ∃ host path value, Schema.allValues ∉ path ∧ config.assign host path value = .ok (outcome, after)

/-- Through all assignments to a configuration that was read, whether they fail or not, the settings keep to
their bounds.  A failed assignment changes nothing, and the sizes of batches stay in order, but for the
assignments that the rule on the two sizes refuses: those are just the ones that put the sizes out of order,
and they take effect.  Without such an assignment on the way, the sizes are in order. -/
theorem assigning_keeps_bounds {host : Host} {data : Json} {start : Config Float}
    (hstart : (schema host).parse data = .ok start) :
    (∀ config, ReflTransGen (fun before after => ∃ outcome, before.Changes outcome after) start config →
      config.Bounded ∧
      (∀ outcome after, config.Changes outcome after →
        (∀ fault, outcome = .error fault → after = config ∨ config.Oversized fault after) ∧
        (after.batching = config.batching ∨ after.batching.minSize ≤ after.batching.targetSize ∨
          ∃ fault, outcome = .error fault ∧ config.Oversized fault after)) ∧
      ∀ field ∈ BatchConfig.schema.fields, ∀ value part, field.read value config.batching = .good part →
        part.targetSize < part.minSize →
        ∃ fault, config.Changes (.error fault) { config with batching := part } ∧
          config.Oversized fault { config with batching := part }) ∧
    ∀ config, ReflTransGen (fun before after => ∃ outcome, before.Changes outcome after ∧
        ∀ fault, outcome = .error fault → ¬before.Oversized fault after) start config →
      config.batching.minSize ≤ config.batching.targetSize := by
  have hread := Reading.result_eq_ok.mp hstart
  refine ⟨fun config hreach => ⟨?bounded, ?step, ?oversized⟩, fun config hreach => ?ordered⟩
  case bounded =>
    induction hreach with
    | refl => exact (Schema.holds_of_read (keeps_bounded host) (bounded_blank host) hread).1
    | tail _ hstep ih =>
        obtain ⟨_, _, _, _, -, hassign⟩ := hstep
        exact (assigned hassign).bounded ih
  case step =>
    rintro outcome after ⟨_, _, _, -, hassign⟩
    refine ⟨?_, (assigned hassign).batching_cases⟩
    rintro fault rfl
    exact (assigned hassign).of_error
  case oversized =>
    intro field hfield value part hvalue hexceeds
    have hassign := assign_oversized host config hfield hvalue hexceeds
    refine ⟨_, ⟨host, _, value, BatchConfig.allValues_not_mem hfield, hassign⟩, Assigned.oversized_of_refused ?_⟩
    exact ⟨⟨field, hfield, value, hvalue, rfl⟩, decide_eq_false (Nat.not_le_of_lt hexceeds)⟩
  case ordered =>
    induction hreach with
    | refl =>
        rcases (Schema.holds_of_read (keeps_batching host BatchConfig.schema.blank) (.inl rfl) hread).1 with heq | hordered
        · rw [heq]
          decide
        · exact hordered
    | tail _ hstep ih =>
        obtain ⟨_, ⟨_, _, _, -, hassign⟩, hcalm⟩ := hstep
        rcases (assigned hassign).batching_cases with heq | hordered | ⟨fault, houtcome, hoversized⟩
        · rw [heq]
          exact ih
        · exact hordered
        · exact absurd hoversized (hcalm fault houtcome)

end Config

namespace Lopsided

/-- A machine with one processor. -/
def host : Host := ⟨some 1, none⟩

/-- A configuration of which only the number of jobs is given. -/
def data : Json := .obj [("execution", .obj [("jobs", .int 1)])]

/-- The configuration: batches have a hundred files usually, and one at least. -/
def start : Config Float :=
  { Config.standard host with execution := { (ExecutionConfig.schema host).blank with jobs := 1 } }

/-- The configuration after the least size was to be two hundred. -/
def crossed : Config Float := { start with batching := { start.batching with minSize := 200 } }

/-- The configuration keeps to its bounds with the sizes out of order, too; and without a refused assignment they
are in order. -/
theorem assigning_keeps_bounds_crossed :
    (Config.schema host).parse data = .ok start ∧ crossed.Bounded ∧
      (∃ fault, start.Changes (.error fault) crossed ∧ start.Oversized fault crossed) ∧
      start.batching.minSize ≤ start.batching.targetSize := by
  obtain ⟨hall, hcalm⟩ := Config.assigning_keeps_bounds (rfl : (Config.schema host).parse data = .ok start)
  obtain ⟨-, -, hoversized⟩ := hall start .refl
  obtain ⟨fault, hchanges, hrefused⟩ :=
    hoversized _ (List.mem_cons_of_mem _ List.mem_cons_self) (.int 200) crossed.batching rfl (by decide)
  exact ⟨rfl, (hall crossed (.single ⟨_, hchanges⟩)).1, ⟨fault, hchanges, hrefused⟩, hcalm start .refl⟩

/-- A least size of two hundred is refused, as a hundred files are a batch already, but it is the least size from
then on. -/
theorem min_size_stored :
    (Config.schema host).parse data = .ok start ∧
      start.assign host ["batching", "min_size"] (.int 200) =
        .ok (.error (.invalid "BatchConfig"
          [⟨[], .rejected "min_size must not exceed target_size", (Json.int 200).exhibit⟩]), crossed) ∧
      start.batching.minSize = 1 ∧ crossed.batching.minSize = 200 ∧ crossed.batching.targetSize = 100 := by
  refine ⟨rfl, ?_, rfl, rfl, rfl⟩
  have hread : ((Codec.count 1).decode (.int 200)).map (fun size => { start.batching with minSize := size }) =
      .good crossed.batching := rfl
  exact Config.assign_oversized host start (List.mem_cons_of_mem _ List.mem_cons_self) hread (by decide)

end Lopsided

end FixFirst
