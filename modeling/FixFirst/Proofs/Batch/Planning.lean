import FixFirst.Proofs.Batch.Ending

/-!
# Plans are carried out

A plan cuts the files in order into consecutive groups of one size.  Work asks for the size anew in each
round, and takes files off a queue.  While the pressure stays the same, and either memory is not scarce
or all files are critical, every round takes the whole front of the queue, so what is left of the queue
is what is left of the plan.  Whether a batch overran its budget makes no difference to that.

## Main definitions

* `Batch.outline` — what a batch is, but for its budget.
* `World.Steady` — the pressure stays at one level.

## Main statements

* `Steady.on_outlook`, `Steady.on_plan` — what a look at the world comes to under a steady pressure, and a plan.
* `Cuts.grouped` — rounds that take all of the front hand over the groups of a plan.
* `plan_carried_out` — the batches that are handed over are those of the plan.
-/

namespace FixFirst

open Relation

variable {τ σ ρ : Type}

/-- What a batch is, but for its budget. -/
def Batch.outline (batch : Batch τ) : Nat × List String × Priority := (batch.index, batch.files, batch.priority)

/-- A group of files as a batch, but for its budget. -/
def groupOutline (group : List Ranked × Nat) : Nat × List String × Priority :=
  (group.2, group.1.map (·.file), .ofFiles group.1)

/-! ### Groups -/

/-- Groups begin with the first items. -/
theorem BatchConfig.chunks_of_ne_nil {α : Type} {size : Nat} (hsize : 1 ≤ size) {items : List α} (h : items ≠ []) :
    BatchConfig.chunks size items = items.take size :: BatchConfig.chunks size (items.drop size) := by
  obtain ⟨count, rfl⟩ := Nat.exists_eq_add_of_le' hsize
  cases items with
  | nil => exact absurd rfl h
  | cons first rest =>
      rw [BatchConfig.chunks]
      rfl

/-- How many files make a batch under a level of pressure. -/
def BatchConfig.sizeAt (config : BatchConfig τ) (level : Level) : Nat :=
  (level.batchSize config.targetSize config.minSize).toNat

theorem BatchConfig.Valid.one_le_sizeAt {config : BatchConfig τ} (hvalid : config.Valid) (level : Level) :
    1 ≤ config.sizeAt level := by
  have hleast := level.minimum_le_batchSize config.targetSize config.minSize
  have hpositive := hvalid.positive
  unfold BatchConfig.sizeAt
  omega

/-- A round takes all of the front of the queue if memory is not scarce or the queue has critical files only. -/
theorem BatchConfig.cutFor_whole (config : BatchConfig τ) (view : Outlook τ) {queue : List Queued}
    (h : view.scarce = true → ∀ queued ∈ queue, queued.isCritical = true) :
    (config.cutFor view queue).taken = (view.front queue).map (·.ranked) ∧
      (config.cutFor view queue).rest = view.back queue := by
  rw [(config.cutFor_rest view queue).1]
  cases hscarce : view.scarce with
  | false =>
      obtain ⟨htaken, -, hnone⟩ := config.cutFor_plenty hscarce queue
      rw [hnone, List.map_nil, List.append_nil]
      exact ⟨htaken, rfl⟩
  | true =>
      have hall : ∀ queued ∈ view.front queue, queued.isCritical = true := fun queued hin =>
        h hscarce queued (List.mem_of_mem_take hin)
      obtain ⟨htaken, -, hoff⟩ := config.cutFor_scarce hscarce queue
      have hnone : (view.front queue).filter (Queued.isPutOff config.maxDeferrals view.imminent) = [] :=
        List.filter_eq_nil_iff.mpr fun queued hin => by simp [Queued.isPutOff, hall queued hin]
      rw [htaken, hoff, hnone, List.filter_eq_self.mpr hall, List.map_nil, List.append_nil]
      exact ⟨rfl, rfl⟩

variable [Quantity τ]

namespace BatchConfig

/-- The batches that ordered files are planned into under a level of pressure, while so much time is left. -/
def planned (config : BatchConfig τ) (level : Level) (ordered : List Ranked) (left : Option τ) : List (Batch τ) :=
  (chunks (config.sizeAt level) ordered).zipIdx.map fun (group, index) => config.batch index group left

theorem outlines_planned (config : BatchConfig τ) (level : Level) (ordered : List Ranked) (left : Option τ) :
    (config.planned level ordered left).map Batch.outline =
      (chunks (config.sizeAt level) ordered).zipIdx.map groupOutline := List.map_map

/-- The batch of an outline, when there is no end to the time that is left. -/
def unlimited (config : BatchConfig τ) (outline : Nat × List String × Priority) : Batch τ :=
  ⟨outline.1, outline.2.1, outline.2.2, config.timeout outline.2.1.length none⟩

theorem unlimited_outline (config : BatchConfig τ) (index : Nat) (files : List Ranked) :
    config.unlimited (config.batch index files none).outline = config.batch index files none := by
  simp [unlimited, Batch.outline, batch]

theorem unlimited_planned (config : BatchConfig τ) (level : Level) (ordered : List Ranked) :
    ((config.planned level ordered none).map Batch.outline).map config.unlimited = config.planned level ordered none := by
  unfold planned
  rw [List.map_map, List.map_map]
  exact List.map_congr_left fun group _ => config.unlimited_outline group.2 group.1

end BatchConfig

/-! ### Steady pressure -/

namespace World

/-- Whether the pressure stays at one level: all readings come to it, or there is no monitor and it is normal. -/
def Steady (level : Level) (world : World τ σ) : Prop := world.Pressed level ∨ world.monitor = none ∧ level = .normal

variable {level : Level} {world : World τ σ} {config : BatchConfig τ} {token : Nat} {budget : Option (Amount τ)}

theorem on_sample_unmonitored (h : world.monitor = none) : Act.on World.sample world = (.ok none, world) := by
  unfold World.sample
  rw [Act.on_bind_of_ok (Act.on_get world), h]
  rfl

theorem on_background_unmonitored (h : world.monitor = none) (count : Nat) :
    Act.on (World.background count) world = (.ok (), world) := by
  induction count with
  | zero => rfl
  | succ count ih =>
      unfold World.background
      rw [Act.on_bind_of_ok (Act.on_attempt _ world), on_sample_unmonitored h]
      exact ih

theorem on_latest_unmonitored (h : world.monitor = none) : Act.on World.latest world = (.ok none, world) := by
  unfold World.latest
  rw [Act.on_bind_of_ok (Act.on_get world), Act.on_bind_of_ok (on_background_unmonitored h _),
    Act.on_bind_of_ok (Act.on_get world), h]
  exact on_sample_unmonitored h

theorem Steady.on_pressure (h : world.Steady level) :
    ∃ seen, Act.on World.pressure world = (.ok level, seen) ∧ seen.Steady level ∧ world.Sampled seen := by
  rcases h with hpressed | ⟨hnone, rfl⟩
  · obtain ⟨seen, hon, hdrifted⟩ := hpressed.drifts_pressure
    have hsampled := sampled_pressure world
    rw [hon] at hsampled
    exact ⟨seen, hon, Or.inl (hdrifted.pressed hpressed), hsampled⟩
  · refine ⟨world, ?_, Or.inr ⟨hnone, rfl⟩, .refl world⟩
    unfold World.pressure
    rw [Act.on_bind_of_ok (on_sample_unmonitored hnone)]
    rfl

theorem Steady.on_size (h : world.Steady level) (hvalid : config.Valid) :
    ∃ seen, Act.on config.size world = (.ok (config.sizeAt level), seen) ∧ seen.Steady level ∧ world.Sampled seen := by
  rcases h with hpressed | ⟨hnone, rfl⟩
  · obtain ⟨seen, hon, hdrifted⟩ := hpressed.drifts_size config
    have hsampled := sampled_size config world
    rw [hon] at hsampled
    exact ⟨seen, hon, Or.inl (hdrifted.pressed hpressed), hsampled⟩
  · -- Without a monitor, batches have the size that they have under normal pressure.
    have hsize : config.sizeAt .normal = config.targetSize := by
      have hordered := hvalid.ordered
      simp only [BatchConfig.sizeAt, Level.batchSize]
      omega
    refine ⟨world, ?_, Or.inr ⟨hnone, rfl⟩, .refl world⟩
    unfold BatchConfig.size
    rw [Act.on_bind_of_ok (on_latest_unmonitored hnone), hsize]
    rfl

/-- What a round goes by under a steady pressure. -/
theorem Steady.on_outlook (h : world.Steady level) (hvalid : config.Valid) (token : Nat) (budget : Option (Amount τ)) :
    ∃ seen, (config.outlook token budget).on world =
        ((if level == .critical then config.imminent (world.clock.remaining? token) budget else .ok false).map
          fun imminent => ⟨level == .critical, imminent, config.sizeAt level, world.clock.remaining? token⟩, seen) ∧
      seen.Steady level := by
  obtain ⟨first, hpressure, hfirst, hsampled⟩ := h.on_pressure
  obtain ⟨second, hsize, hsecond, hsampled'⟩ := hfirst.on_size hvalid
  have hclock : second.clock = world.clock := (hsampled.trans hsampled').clock
  refine ⟨second, ?_, hsecond⟩
  unfold BatchConfig.outlook
  rw [Act.on_bind_of_ok hpressure, Act.on_bind_of_ok hsize, Act.on_bind_of_ok (Act.on_askClock _ second), hclock, Act.on_bind,
    Act.on_ofExcept]
  cases (if level == .critical then config.imminent (world.clock.remaining? token) budget else .ok false) <;> rfl

/-- What is planned under a steady pressure. -/
theorem Steady.on_plan (h : world.Steady level) (hvalid : config.Valid) (token : Nat) {files : List String}
    {critical : Option (List String)} {ordered : List Ranked} (horder : order world.disk files critical = .ok ordered) :
    ∃ seen, (config.plan files critical token).on world =
      (.ok (config.planned level ordered (world.clock.remaining? token)), seen) := by
  obtain ⟨seen, hsize, -, hsampled⟩ := h.on_size hvalid
  refine ⟨seen, ?_⟩
  unfold BatchConfig.plan
  rw [Act.on_bind_of_ok (BatchConfig.queue_ok horder), Act.on_bind_of_ok hsize, Act.on_bind_of_ok (Act.on_askClock _ seen),
    hsampled.clock]
  rfl

end World

namespace BatchConfig

variable {config : BatchConfig τ}

/-! ### Rounds that take all of the front -/

/-- Rounds of one size that take all of the front hand over the groups of the queue, and leave the other groups. -/
theorem Cuts.grouped {start rest : List Queued} {sights : List (Sight τ)} (h : Cuts config start sights rest) {size : Nat}
    (hsize : 1 ≤ size) (hsights : ∀ sight ∈ sights, sight.view.size = size)
    (hwhole : ∀ sight ∈ sights, sight.view.scarce = true → ∀ queued ∈ start, queued.isCritical = true) :
    ∃ groups, chunks size (start.map (·.ranked)) = groups ++ chunks size (rest.map (·.ranked)) ∧
      (config.handed sights).map Batch.outline = groups.zipIdx.map groupOutline ∧ ∀ queued ∈ rest, queued ∈ start := by
  induction h with
  | none => exact ⟨[], rfl, rfl, fun _ hin => hin⟩
  | @round sights queue before waiting view ih =>
      obtain ⟨groups, hgroups, houtlines, hsub⟩ :=
        ih (fun sight hin => hsights sight (List.mem_append_left _ hin))
          fun sight hin => hwhole sight (List.mem_append_left _ hin)
      have hlast : view.size = size := hsights _ (List.mem_append_right _ (List.mem_singleton_self _))
      obtain ⟨htaken, hrest⟩ := config.cutFor_whole view fun hscarce queued hin =>
        hwhole _ (List.mem_append_right _ (List.mem_singleton_self _)) hscarce queued (hsub queued hin)
      have hfront : view.front queue = queue.take size := by
        unfold Outlook.front
        rw [hlast, Nat.max_eq_right hsize]
      have hback : view.back queue = queue.drop size := by
        unfold Outlook.back
        rw [hlast, Nat.max_eq_right hsize]
      have hqueue : queue.map (·.ranked) ≠ [] := fun hnone => waiting (List.map_eq_nil_iff.mp hnone)
      have hsome : (config.cutFor view queue).taken ≠ [] := fun hnone => by
        rw [htaken, hfront] at hnone
        rcases List.take_eq_nil_iff.mp (List.map_eq_nil_iff.mp hnone) with hzero | hempty
        · omega
        · exact waiting hempty
      have hcount : (config.handed sights).length = groups.length := by
        have hlengths := congrArg List.length houtlines
        simpa using hlengths
      refine ⟨groups ++ [(config.cutFor view queue).taken], ?_, ?_, fun queued hin => ?_⟩
      · rw [hgroups, chunks_of_ne_nil hsize hqueue, htaken, hrest, hfront, hback, List.map_take, List.map_drop,
          List.append_assoc, List.singleton_append]
      · rw [handed_append, handed_batch hsome, List.map_append, houtlines, List.zipIdx_append, List.map_append, hcount]
        simp [groupOutline, Batch.outline, batchFor, batch]
      · rw [hrest] at hin
        exact hsub queued (List.mem_of_mem_drop hin)

/-! ### Whole runs -/

variable {handler : Batch τ → Nat → Act τ σ ρ} {token : Nat} {budget : Option (Amount τ)} {level : Level}
  {first last : Progress τ σ ρ} {sights : List (Sight τ)} {outcome : Except Fault (BatchReport ρ)} {after : World τ σ}

/-- What a round that looks at a world under a steady pressure sees. -/
theorem view_of_steady {world seen : World τ σ} {view : Outlook τ} (h : world.Steady level) (hvalid : config.Valid)
    (look : (config.outlook token budget).on world = (.ok view, seen)) :
    view.size = config.sizeAt level ∧ view.scarce = (level == .critical) ∧ seen.Steady level := by
  obtain ⟨seen', hlook, hsteady⟩ := h.on_outlook hvalid token budget
  rw [hlook] at look
  obtain ⟨hview, rfl⟩ := Prod.mk.inj look
  cases himminent : (if level == .critical then config.imminent (world.clock.remaining? token) budget else .ok false) with
  | error fault =>
      rw [himminent] at hview
      cases hview
  | ok imminent =>
      rw [himminent] at hview
      cases hview
      exact ⟨rfl, rfl, hsteady⟩

/-- Rounds under a steady pressure all see it. -/
theorem Stretch.steady (h : Stretch config handler token budget first sights last) (hvalid : config.Valid)
    (hsteady : first.world.Steady level)
    (hkeeps : ∀ batch own (world : World τ σ), world.Steady level → ((handler batch own).on world).2.Steady level) :
    last.world.Steady level ∧
      ∀ sight ∈ sights, sight.view.size = config.sizeAt level ∧ sight.view.scarce = (level == .critical) := by
  induction h with
  | start => exact ⟨hsteady, fun _ hin => absurd hin List.not_mem_nil⟩
  | @round sights here next view seen before look step ih =>
      obtain ⟨hhere, hbefore⟩ := ih
      obtain ⟨hsize, hscarce, hseen⟩ := view_of_steady hhere hvalid look
      refine ⟨?_, fun sight hin => ?_⟩
      · obtain ⟨-, -, ⟨-, -, -, hnext⟩ | ⟨-, -, result, overran, -, work⟩⟩ := step.spec look
        · rw [hnext]
          exact hseen
        · obtain ⟨own, opened, done, -, hwork, hnext, -⟩ := World.budgeted_ok work
          have hopened : World.Steady level { seen with clock := opened } := hseen
          have hdone := hkeeps (config.batchFor view here.queue here.index) own _ hopened
          rw [hwork] at hdone
          rw [hnext]
          exact hdone
      · rcases List.mem_append.mp hin with hold | hnew
        · exact hbefore sight hold
        · rw [List.mem_singleton.mp hnew]
          exact ⟨hsize, hscarce⟩

theorem Told.steady (h : Told config handler token budget first sights outcome after) (hvalid : config.Valid)
    (hsteady : first.world.Steady level)
    (hkeeps : ∀ batch own (world : World τ σ), world.Steady level → ((handler batch own).on world).2.Steady level) :
    ∀ sight ∈ sights, sight.view.size = config.sizeAt level ∧ sight.view.scarce = (level == .critical) := by
  obtain @⟨before, final, last, rfl, rounds, finish⟩ := h
  obtain ⟨hlast, hbefore⟩ := rounds.steady hvalid hsteady hkeeps
  intro sight hin
  rcases List.mem_append.mp hin with hold | hfinal
  · exact hbefore sight hold
  · obtain ⟨view, seen, rfl, -, look⟩ := finish.look_of_mem hfinal
    obtain ⟨hsize, hscarce, -⟩ := view_of_steady hlast hvalid look
    exact ⟨hsize, hscarce⟩

/-- A round sees what the token has left, and its look takes no time. -/
theorem left_of_look {world seen : World τ σ} {view : Outlook τ}
    (look : (config.outlook token budget).on world = (.ok view, seen)) :
    view.left = world.clock.remaining? token ∧ seen.clock = world.clock := by
  have hclock := (World.sampled_outlook look).clock
  obtain ⟨level, middle, hpressure, look⟩ := Act.on_bind_ok.mp look
  obtain ⟨size, middle', hsize, look⟩ := Act.on_bind_ok.mp look
  rw [Act.on_bind_of_ok (Act.on_askClock _ middle')] at look
  obtain ⟨imminent, final, himminent, look⟩ := Act.on_bind_ok.mp look
  rw [Act.on_ofExcept] at himminent
  obtain ⟨-, rfl⟩ := Prod.mk.inj himminent
  cases look
  exact ⟨by rw [hclock], hclock⟩

/-- Rounds take no token away when the handler takes none away. -/
theorem Stretch.lasts (h : Stretch config handler token budget first sights last)
    (hlasts : ∀ batch own (world : World τ σ), world.clock.Lasts ((handler batch own).on world).2.clock) :
    first.world.clock.Lasts last.world.clock := by
  induction h with
  | start => exact .refl _
  | @round sights here next view seen before look step ih =>
      refine ih.trans ?_
      rw [← (left_of_look look).2]
      obtain ⟨-, -, ⟨-, -, -, hnext⟩ | ⟨-, -, result, overran, -, work⟩⟩ := step.spec look
      · rw [hnext]
        exact .refl _
      · obtain ⟨own, opened, done, hopened, hwork, hnext, -⟩ := World.budgeted_ok work
        have hdone := hlasts (config.batchFor view here.queue here.index) own { seen with clock := opened }
        rw [hwork] at hdone
        have hscope : seen.clock.Lasts (seen.clock.scopeToken token
            (some (config.batchFor view here.queue here.index).timeout)).2 := Clockwork.Managed.lasts (.scopeToken token _)
        rw [hopened] at hscope
        rw [hnext]
        exact (hscope.trans hdone).trans (Clockwork.Managed.release own).lasts

/-- A token without a deadline has none after rounds either. -/
theorem Stretch.remaining?_eq_none (h : Stretch config handler token budget first sights last)
    (hlasts : ∀ batch own (world : World τ σ), world.clock.Lasts ((handler batch own).on world).2.clock)
    (hhere : token < first.world.clock.forest.tokens.length) (hfree : first.world.clock.forest.deadline? token = none) :
    last.world.clock.remaining? token = none := by
  unfold Clockwork.remaining?
  rw [(h.lasts hlasts).deadlines token hhere, hfree]
  rfl

/-- The rounds of work under a token without a deadline see none. -/
theorem Told.left_eq_none (h : Told config handler token budget first sights outcome after)
    (hlasts : ∀ batch own (world : World τ σ), world.clock.Lasts ((handler batch own).on world).2.clock)
    (hhere : token < first.world.clock.forest.tokens.length) (hfree : first.world.clock.forest.deadline? token = none) :
    ∀ sight ∈ sights, sight.view.left = none := by
  have hbefore : ∀ {sights last}, Stretch config handler token budget first sights last →
      ∀ sight ∈ sights, sight.view.left = none := fun rounds => by
    induction rounds with
    | start => exact fun _ hin => absurd hin List.not_mem_nil
    | round before look step ih =>
        intro sight hin
        rcases List.mem_append.mp hin with hold | hnew
        · exact ih sight hold
        · rw [List.mem_singleton.mp hnew]
          exact (left_of_look look).1.trans (before.remaining?_eq_none hlasts hhere hfree)
  obtain @⟨before, final, last, rfl, rounds, finish⟩ := h
  intro sight hin
  rcases List.mem_append.mp hin with hold | hfinal
  · exact hbefore rounds sight hold
  · obtain ⟨view, seen, rfl, -, look⟩ := finish.look_of_mem hfinal
    exact (left_of_look look).1.trans (rounds.remaining?_eq_none hlasts hhere hfree)

/-- Batches that were handed over while there was no end to the time are told by their outlines. -/
theorem unlimited_handed (config : BatchConfig τ) (h : ∀ sight ∈ sights, sight.view.left = none) :
    ((config.handed sights).map Batch.outline).map config.unlimited = config.handed sights := by
  rw [List.map_map]
  refine (List.map_congr_left fun batch hin => ?_).trans (List.map_id _)
  obtain ⟨sight, hsight, hbatch⟩ := List.mem_filterMap.mp hin
  unfold batch? at hbatch
  split at hbatch
  · cases hbatch
  · cases hbatch
    unfold batchFor
    rw [h sight hsight]
    exact config.unlimited_outline _ _

/-- Whether the time is nearly up can be told when the budget is within the range of numbers. -/
theorem imminent_ok (config : BatchConfig τ) (left : Option τ) (h : ∀ total ∈ budget, total.value?.isSome = true) :
    ∃ answer, config.imminent left budget = .ok answer := by
  cases left with
  | none => exact ⟨false, rfl⟩
  | some time =>
      cases budget with
      | none => exact ⟨false, rfl⟩
      | some total =>
          obtain ⟨value, hvalue⟩ := Option.isSome_iff_exists.mp (h total rfl)
          refine ⟨time ≤ config.imminentRatio * value, ?_⟩
          simp only [imminent, hvalue]
          rfl

variable {files : List String} {critical : Option (List String)} {world : World τ σ} {marked : Option (List String)}
  {input : List String}

/-- Under a steady pressure, what is handed over is what is planned, up to where the work ends. -/
theorem Told.grouped (h : Told config handler token budget first sights outcome after) (hindex : first.index = 0)
    (hvalid : config.Valid) (hsteady : first.world.Steady level)
    (hkeeps : ∀ batch own (world : World τ σ), world.Steady level → ((handler batch own).on world).2.Steady level)
    (hwhole : level = .critical → ∀ queued ∈ first.queue, queued.isCritical = true) :
    (config.handed sights).map Batch.outline <+:
        (chunks (config.sizeAt level) (first.queue.map (·.ranked))).zipIdx.map groupOutline ∧
      ((∃ report, outcome = .ok report) → after.clock.forest.isCancelled token = false →
        (config.handed sights).map Batch.outline =
          (chunks (config.sizeAt level) (first.queue.map (·.ranked))).zipIdx.map groupOutline) := by
  have hsights := h.steady hvalid hsteady hkeeps
  have hgrouped : ∀ {rest}, Cuts config first.queue sights rest → ∃ groups,
      chunks (config.sizeAt level) (first.queue.map (·.ranked)) = groups ++ chunks (config.sizeAt level) (rest.map (·.ranked)) ∧
        (config.handed sights).map Batch.outline = groups.zipIdx.map groupOutline := fun hcuts => by
    obtain ⟨groups, hgroups, houtlines, -⟩ := hcuts.grouped (hvalid.one_le_sizeAt level)
      (fun sight hin => (hsights sight hin).1)
      fun sight hin hscarce => hwhole (eq_of_beq ((hsights sight hin).2.symm.trans hscarce))
    exact ⟨groups, hgroups, houtlines⟩
  constructor
  · obtain ⟨rest, hcuts⟩ := h.cuts hindex
    obtain ⟨groups, hgroups, houtlines⟩ := hgrouped hcuts
    rw [hgroups, houtlines, List.zipIdx_append, List.map_append]
    exact List.prefix_append _ _
  · rintro ⟨report, rfl⟩ hactive
    obtain @⟨before, final, last, rfl, rounds, finish⟩ := h
    cases finish with
    | ended reports =>
        have hcuts := (rounds.cuts hindex).1
        rw [reports.empty_of_active hactive] at hcuts
        obtain ⟨groups, hgroups, houtlines⟩ := hgrouped ((List.append_nil before).symm ▸ hcuts)
        rw [hgroups, houtlines, List.map_nil, chunks, List.append_nil]

/-- **Plans are carried out.**  Let the pressure stay at one level, which is not critical unless all files are critical.
Then the files are planned, and the batches that are handed over are the first ones of the plan, in everything but their
budgets: in all cases, also when batches overran, and all of the plan when the run returns with its token active.  The
budgets agree too when the token has no deadline.  When every call of the handler returns, so does the run, if its budget
is within the range of numbers. -/
theorem plan_carried_out (hvalid : config.Valid) (hinput : world.disk.normalizeAll files = .ok input)
    (hmarked : critical.mapM world.disk.normalizeAll = .ok marked) (hsteady : world.Steady level)
    (hlevel : level = .critical → ∀ file ∈ input, isMarked marked file = true)
    (hkeeps : ∀ batch own (world : World τ σ), world.Steady level → ((handler batch own).on world).2.Steady level)
    (h : (config.process files handler token critical budget).on world = (outcome, after)) :
    ∃ planned seen batches, (config.plan files critical token).on world = (.ok planned, seen) ∧
      (config.process files (announcing handler) token critical budget).on (world.watched []) =
        (outcome, after.watched batches) ∧
      batches.map Batch.outline <+: planned.map Batch.outline ∧
      ((∃ report, outcome = .ok report) → after.clock.forest.isCancelled token = false →
        batches.map Batch.outline = planned.map Batch.outline) ∧
      (token < world.clock.forest.tokens.length → world.clock.forest.deadline? token = none →
        (∀ batch own (world : World τ σ), world.clock.Lasts ((handler batch own).on world).2.clock) →
        batches <+: planned ∧
          ((∃ report, outcome = .ok report) → after.clock.forest.isCancelled token = false → batches = planned)) ∧
      ((∀ batch own (world : World τ σ), ∃ result done, (handler batch own).on world = (.ok result, done)) →
        (∀ total ∈ budget, total.value?.isSome = true) → ∃ report, outcome = .ok report) := by
  have horder : order world.disk files critical = .ok (rank input marked) :=
    order_ok_iff.mpr ⟨input, marked, hinput, hmarked, rfl⟩
  obtain ⟨seen, hplan⟩ := hsteady.on_plan hvalid token horder
  obtain ⟨sights, htold, hannounced⟩ := process_told horder h
  have hranked : (opening (ρ := ρ) (rank input marked) world).queue.map (·.ranked) = rank input marked := by
    simp [opening, Function.comp_def]
  have hwhole : level = .critical → ∀ queued ∈ (opening (ρ := ρ) (rank input marked) world).queue,
      queued.isCritical = true := fun hcritical queued hin => by
    have hlined := Lined.start marked input
    have hcount := hlined.once queued.ranked.file
    rw [hlined.ranks queued hin]
    refine hlevel hcritical _ (List.count_pos_iff.mp (Nat.lt_of_lt_of_le (List.count_pos_iff.mpr ?_) hcount))
    exact List.mem_map_of_mem hin
  obtain ⟨hbegins, hall⟩ := htold.grouped rfl hvalid hsteady hkeeps hwhole
  rw [hranked, ← config.outlines_planned level _ (world.clock.remaining? token)] at hbegins hall
  refine ⟨_, seen, config.handed sights, hplan, hannounced, hbegins, hall, fun hhere hfree hlasts => ?_, ?_⟩
  · have hleft : world.clock.remaining? token = none := by
      unfold Clockwork.remaining?
      rw [hfree]
      rfl
    have hhanded := config.unlimited_handed (htold.left_eq_none hlasts hhere hfree)
    rw [hleft] at hbegins hall ⊢
    refine ⟨?_, fun hreport hactive => ?_⟩
    · have hbatches := hbegins.map config.unlimited
      rwa [unlimited_planned, hhanded] at hbatches
    · have hbatches := congrArg (List.map config.unlimited) (hall hreport hactive)
      rwa [unlimited_planned, hhanded] at hbatches
  · intro hreturns hbudget
    rcases htold.reports_or_blind hreturns with hreport | ⟨before, last, fault, rounds, -, hblind⟩
    · exact hreport
    · obtain ⟨hlast, -⟩ := rounds.steady hvalid hsteady hkeeps
      obtain ⟨seen', hlook, -⟩ := hlast.on_outlook hvalid token budget
      obtain ⟨answer, hanswer⟩ := imminent_ok config (last.world.clock.remaining? token) hbudget
      rw [hlook] at hblind
      split at hblind
      · rw [hanswer] at hblind
        cases hblind
      · cases hblind

end BatchConfig

/-- Work on two files, one at a time, is carried out as it is planned, although the first batch is late. -/
theorem plan_carried_out_late :
    ∃ report after, ∃ planned batches : List (Batch Rat),
      (BatchConfig.process ⟨1, 1, 1, 0, 2, 0⟩ ["/a", "/b"] slowStart 0 none none).on (World.still (.empty [] []) ()) =
        (.ok report, after) ∧
      report.timedOut = [0] ∧
      ((BatchConfig.plan ⟨1, 1, 1, 0, 2, 0⟩ ["/a", "/b"] none 0).on (World.still (.empty [] []) ())).1 = .ok planned ∧
      batches.map Batch.outline = planned.map Batch.outline := by
  have hvalid : BatchConfig.Valid (⟨1, 1, 1, 0, 2, 0⟩ : BatchConfig Rat) := ⟨by decide, by decide⟩
  have hinput : (World.still (.empty [] []) ()).disk.normalizeAll ["/a", "/b"] = .ok ["/a", "/b"] := normalizeAll_cramped
  have hsteady : World.Steady .normal (World.still (.empty [] []) ()) := Or.inr ⟨rfl, rfl⟩
  have hkeeps : ∀ (batch : Batch Rat) (own : Nat) (world : World Rat Unit), world.Steady .normal →
      ((slowStart batch own).on world).2.Steady .normal := fun batch own world h => by
    unfold slowStart
    split <;> exact h
  have hrun : (fun run => (run.1.toOption.map BatchReport.timedOut, run.2.clock.forest.isCancelled 0))
      ((BatchConfig.process ⟨1, 1, 1, 0, 2, 0⟩ ["/a", "/b"] slowStart 0 none none).on (World.still (.empty [] []) ())) =
        (some [0], false) := by
    rw [BatchConfig.process_opens (order_ok_iff.mpr ⟨_, _, hinput, rfl, rfl⟩)]
    cbv
  rcases h : (BatchConfig.process ⟨1, 1, 1, 0, 2, 0⟩ ["/a", "/b"] slowStart 0 none none).on
    (World.still (.empty [] []) ()) with ⟨outcome, after⟩
  rw [h] at hrun
  obtain ⟨htimed, hactive⟩ := Prod.mk.inj hrun
  obtain ⟨planned, seen, batches, hplan, -, -, hall, -⟩ :=
    BatchConfig.plan_carried_out hvalid hinput rfl hsteady (fun hcritical => by cases hcritical) hkeeps h
  cases outcome with
  | error fault => cases htimed
  | ok report =>
      exact ⟨report, after, planned, batches, rfl, Option.some.inj htimed, by rw [hplan], hall ⟨report, rfl⟩ hactive⟩

end FixFirst
