import FixFirst.Proofs.Range
import FixFirst.Proofs.Run.Staged

/-!
# Runs within limits

What a run does to the world, and what can go wrong in it, comes from few sources: the clock, the
readings of the memory, the names of files, the engines, and the version control system.  When each
of these keeps to some limits, the whole run does.

## Main definitions

* `Limits` — which worlds and paths there may be, and which faults in which worlds.
* `Act.Within` — an act that keeps to limits and comes to values of some kind.
* `Limits.Bind` — what the parts of a run are to keep to.

## Main statements

* `Act.Within.bind` — a sequence of acts within limits.
* `Runner.within_work`, `Runner.within_conclude` — the parts of a run.
* `Runner.within_run` — a whole run that has been set up.
-/

namespace FixFirst

open Act

variable {τ σ α β ρ : Type}

/-- Which worlds and which paths there may be, and which faults, by the worlds that they leave. -/
structure Limits (τ σ : Type) where
  world : World τ σ → Prop
  path : String → Prop
  fault : Fault → World τ σ → Prop

/-! ### Acts -/

/-- Whether an act keeps to limits: in a world within them it leaves such a world, its faults are within them, and
its values are of some kind. -/
structure Act.Within (limits : Limits τ σ) (act : Act τ σ α) (P : α → Prop) : Prop where
  world : ∀ world, limits.world world → limits.world (act.on world).2
  value : ∀ world value, limits.world world → (act.on world).1 = .ok value → P value
  fault : ∀ world fault, limits.world world → (act.on world).1 = .error fault → limits.fault fault (act.on world).2

namespace Act.Within

variable {limits : Limits τ σ} {act : Act τ σ α} {P : α → Prop}

theorem bind {next : α → Act τ σ β} {after : β → Prop} (h : act.Within limits P)
    (hnext : ∀ value, P value → (next value).Within limits after) : (act >>= next).Within limits after := by
  have hcases : ∀ world, limits.world world →
      (∃ value middle, act.on world = (.ok value, middle) ∧ limits.world middle ∧ P value) ∨
        ∃ fault middle, act.on world = (.error fault, middle) ∧ limits.world middle ∧ limits.fault fault middle := by
    intro world hworld
    have hmiddle := h.world world hworld
    have hfault := h.fault world
    rcases hon : act.on world with ⟨outcome, middle⟩
    rw [hon] at hmiddle hfault
    cases outcome with
    | ok value => exact Or.inl ⟨value, middle, rfl, hmiddle, h.value world value hworld (by rw [hon])⟩
    | error fault => exact Or.inr ⟨fault, middle, rfl, hmiddle, hfault fault hworld rfl⟩
  refine ⟨fun world hworld => ?_, fun world result hworld hok => ?_, fun world cause hworld herror => ?_⟩
  · rcases hcases world hworld with ⟨value, middle, hon, hmiddle, hkind⟩ | ⟨fault, middle, hon, hmiddle, -⟩
    · rw [on_bind, hon]
      exact (hnext value hkind).world middle hmiddle
    · rw [on_bind, hon]
      exact hmiddle
  · rcases hcases world hworld with ⟨value, middle, hon, hmiddle, hkind⟩ | ⟨fault, middle, hon, -, -⟩
    · rw [on_bind, hon] at hok
      exact (hnext value hkind).value middle result hmiddle hok
    · rw [on_bind, hon] at hok
      cases hok
  · rcases hcases world hworld with ⟨value, middle, hon, hmiddle, hkind⟩ | ⟨fault, middle, hon, -, hfault⟩
    · rw [on_bind, hon] at herror ⊢
      exact (hnext value hkind).fault middle cause hmiddle herror
    · rw [on_bind, hon] at herror ⊢
      cases herror
      exact hfault

/-- An act, whatever it comes to, and another one. -/
theorem andThen {next : α → Act τ σ β} {after : β → Prop} (h : act.Within limits fun _ => True)
    (hnext : ∀ value, (next value).Within limits after) : (act >>= next).Within limits after :=
  h.bind fun value _ => hnext value

theorem mono {wider : α → Prop} (h : act.Within limits P) (hkind : ∀ value, P value → wider value) :
    act.Within limits wider :=
  ⟨h.world, fun world value hworld hok => hkind value (h.value world value hworld hok), h.fault⟩

/-- What holds of every value that an act comes to, holds of those within limits. -/
theorem of_ok {other : α → Prop} (h : act.Within limits P)
    (hother : ∀ world value after, act.on world = (.ok value, after) → other value) : act.Within limits other :=
  ⟨h.world, fun world value _ hok => hother world value _ (Prod.ext hok rfl), h.fault⟩

/-- A fault that an act came to, in the world that it left. -/
theorem of_error (h : act.Within limits P) {world after : World τ σ} {fault : Fault} (hworld : limits.world world)
    (hon : act.on world = (.error fault, after)) : limits.fault fault after := by
  have hfault := h.fault world fault hworld
  rw [hon] at hfault
  exact hfault rfl

theorem pure {value : α} (h : P value) : (Pure.pure value : Act τ σ α).Within limits P := by
  refine ⟨fun world hworld => hworld, fun world other hworld hok => ?_, fun world fault hworld herror => ?_⟩
  · cases hok
    exact h
  · cases herror

theorem throw {fault : Fault} (h : ∀ world, limits.world world → limits.fault fault world) :
    (throw fault : Act τ σ α).Within limits P := by
  refine ⟨fun world hworld => hworld, fun world value hworld hok => ?_, fun world cause hworld herror => ?_⟩
  · cases hok
  · cases herror
    exact h world hworld

theorem get : (MonadState.get : Act τ σ (World τ σ)).Within limits limits.world := by
  refine ⟨fun world hworld => hworld, fun world value hworld hok => ?_, fun world fault hworld herror => ?_⟩
  · cases hok
    exact hworld
  · cases herror

theorem ofExcept {result : Except Fault α} (hvalue : ∀ value, result = .ok value → P value)
    (hfault : ∀ fault world, result = .error fault → limits.world world → limits.fault fault world) :
    (Act.ofExcept result).Within limits P := by
  refine ⟨fun world hworld => ?_, fun world value hworld hok => ?_, fun world fault hworld herror => ?_⟩
  · rw [on_ofExcept]
    exact hworld
  · rw [on_ofExcept] at hok
    exact hvalue value hok
  · rw [on_ofExcept] at herror ⊢
    exact hfault fault world herror hworld

/-- An act that cannot fail. -/
theorem of_succeeds (hworld : ∀ world, limits.world world → limits.world (act.on world).2)
    (h : ∀ world, ∃ value, (act.on world).1 = .ok value ∧ P value) : act.Within limits P := by
  refine ⟨hworld, fun world value _ hok => ?_, fun world fault _ herror => ?_⟩
  · obtain ⟨known, hknown, hkind⟩ := h world
    cases hok.symm.trans hknown
    exact hkind
  · obtain ⟨known, hknown, -⟩ := h world
    cases herror.symm.trans hknown

theorem askClock (question : Clockwork τ → α) :
    (World.askClock question : Act τ σ α).Within limits fun _ => True :=
  of_succeeds (fun _ hworld => hworld) fun world => ⟨question world.clock, rfl, trivial⟩

theorem lift {change : Change τ σ α} (h : ∀ world, limits.world world → limits.world (Change.on change world).2) :
    (liftM change : Act τ σ α).Within limits fun _ => True :=
  of_succeeds h fun world => ⟨(Change.on change world).1, rfl, trivial⟩

/-- A change after an act, whatever came of that, keeps to limits if it leaves worlds and faults within them. -/
theorem thenAlways {after : Change τ σ Unit} (h : act.Within limits P)
    (hafter : ∀ world, limits.world world → limits.world (Change.on after world).2)
    (hfault : ∀ fault world, limits.fault fault world → limits.fault fault (Change.on after world).2) :
    (act.thenAlways after).Within limits P :=
  ⟨fun world hworld => hafter _ (h.world world hworld), h.value,
    fun world fault hworld herror => hfault fault _ (h.fault world fault hworld herror)⟩

/-- Two acts one after the other, whatever came of the first one. -/
theorem ensuring {after : Act τ σ Unit} (h : act.Within limits P) (hafter : after.Within limits fun _ => True)
    (hfault : ∀ fault world, limits.world world → limits.fault fault world → limits.fault fault (after.on world).2) :
    (act.ensuring after).Within limits P := by
  refine ⟨fun world hworld => ?_, fun world value hworld hok => ?_, fun world fault hworld herror => ?_⟩
  · rw [on_ensuring]
    exact hafter.world _ (h.world world hworld)
  · obtain ⟨middle, hfirst, -⟩ := on_ensuring_ok.mp (Prod.ext hok rfl)
    exact h.value world value hworld (by rw [hfirst])
  · have hmiddle := h.world world hworld
    rw [on_ensuring] at herror ⊢
    cases hended : (after.on (act.on world).2).1 with
    | ok done =>
        rw [hended] at herror
        exact hfault fault _ hmiddle (h.fault world fault hworld herror)
    | error cause =>
        rw [hended] at herror
        cases herror
        exact hafter.fault _ fault hmiddle hended

end Act.Within

/-! ### What limits bind -/

/-- What a run does to the clock: it makes tokens of the run, and ends them. -/
inductive Clockwork.Managed [Quantity τ] (clock : Clockwork τ) : Clockwork τ → Prop
  | runToken (budget : Option τ) (outer : Option Nat) : Managed clock (clock.runToken budget outer).2
  | phaseToken (token : Nat) (reserve : τ) : Managed clock (clock.phaseToken token reserve).2
  | scopeToken (token : Nat) (budget : Option τ) : Managed clock (clock.scopeToken token budget).2
  | release (token : Nat) : Managed clock (clock.release token)
  | close : Managed clock clock.close

/-- What a run does to the clock takes no time. -/
theorem Clockwork.Managed.now [Quantity τ] {clock after : Clockwork τ} (h : clock.Managed after) : after.now = clock.now := by
  have harmed : ∀ parent deadline, (clock.armed parent deadline).2.now = clock.now := by
    intro parent deadline
    rw [Clockwork.snd_armed]
    unfold Clockwork.arm
    split
    · rfl
    · split <;> rfl
  cases h with
  | runToken budget outer => exact harmed outer _
  | phaseToken token reserve => exact harmed (some token) _
  | scopeToken token budget => exact harmed (some token) _
  | release token => rfl
  | close => rfl

/-- A reading that fails leaves what it failed at: the monitor with the reading in its window. -/
theorem World.sample_error [Quantity τ] {world : World τ σ} {fault : Fault}
    (h : (Act.on sample world).1 = .error fault) :
    ∃ monitor, world.monitor = some monitor ∧
      (monitor.note world.clock.now (world.memory world.readings)).judge world.clock.now (world.memory world.readings) =
        .error fault ∧
      (Act.on sample world).2 = { world with
        monitor := some (monitor.note world.clock.now (world.memory world.readings))
        readings := world.readings + 1 } := by
  unfold World.sample at h ⊢
  rw [Act.on_bind_of_ok (Act.on_get world)] at h ⊢
  cases hmonitor : world.monitor with
  | none =>
      simp only [hmonitor] at h
      cases h
  | some monitor =>
      simp only [hmonitor] at h ⊢
      rw [Act.on_bind_of_ok (Act.on_set _ world), Act.on_map, Act.on_ofExcept] at h ⊢
      refine ⟨monitor, rfl, ?_⟩
      cases hjudged : (monitor.note world.clock.now (world.memory world.readings)).judge world.clock.now
          (world.memory world.readings) with
      | ok taken =>
          simp only [Monitor.sample, hjudged] at h
          cases h
      | error cause =>
          have hsample : monitor.sample world.clock.now (world.memory world.readings) =
              (.error cause, monitor.note world.clock.now (world.memory world.readings)) := by
            simp only [Monitor.sample, hjudged]
          rw [hsample] at h ⊢
          cases h
          exact ⟨rfl, rfl⟩

/-- Whether the parts that a run is made of keep to limits. -/
structure Limits.Bind [Quantity τ] (limits : Limits τ σ) (runner : Runner τ σ) : Prop where
  noted : ∀ world events, limits.world world → limits.world (world.noted events)
  sampled : ∀ before after, World.Sampled before after → limits.world before → limits.world after
  clocked : ∀ (world : World τ σ) clock, world.clock.Managed clock → limits.world world →
    limits.world { world with clock := clock }
  prepares : ∀ engine ∈ runner.engines, ∀ fingerprint world, limits.world world →
    limits.world (Change.on (engine.prepare fingerprint) world).2
  calls : ∀ engine ∈ runner.engines, ∀ pass files token world, limits.world world →
    limits.world (Change.on (engine.call pass files token) world).2
  paths : ∀ world text, limits.world world → limits.path text →
    (∀ file, world.disk.normalize text = .ok file → limits.path file) ∧
      Confined (fun fault => ∀ world, limits.world world → limits.fault fault world) (world.disk.normalize text)
  samples : (World.sample : Act τ σ (Option (Sample τ))).Within limits fun _ => True
  stops : (World.stopMonitor runner.longestWait : Act τ σ Unit).Within limits fun _ => True
  grace : runner.grantsGrace = false → ∀ world, limits.world world → limits.fault World.refusedWait world
  /-- What is done to the clock and to the readings after a fault leaves the fault within the limits. -/
  faultClocked : ∀ fault (world : World τ σ) clock, world.clock.Managed clock → limits.fault fault world →
    limits.fault fault { world with clock := clock }
  faultStopped : ∀ fault (world : World τ σ), limits.world world → limits.fault fault world →
    limits.fault fault (Act.on (World.stopMonitor runner.longestWait) world).2

/-- Whether the version control system keeps to limits; that its program is missing is within them. -/
def Limits.BindShell (limits : Limits τ σ) (shell : Shell τ σ) : Prop :=
  ∀ arguments root world, limits.world world →
    limits.world ((shell ⟨"git" :: arguments, some root⟩ none).on world).2 ∧
      Confined (fun fault => (∃ tool detail, fault = .toolMissing tool detail) ∨
          ∀ world, limits.world world → limits.fault fault world)
        ((shell ⟨"git" :: arguments, some root⟩ none).on world).1

namespace Limits.Bind

variable [Quantity τ] {limits : Limits τ σ} {runner : Runner τ σ}

/-! ### Small steps -/

/-- An act that only says something. -/
theorem said (h : limits.Bind runner) {act : Act τ σ α} {P : α → Prop}
    (hsaid : ∀ world, ∃ value events, act.on world = (.ok value, world.noted events) ∧ P value) :
    act.Within limits P := by
  refine .of_succeeds (fun world hworld => ?_) fun world => ?_
  · obtain ⟨value, events, hon, -⟩ := hsaid world
    rw [hon]
    exact h.noted world events hworld
  · obtain ⟨value, events, hon, hkind⟩ := hsaid world
    exact ⟨value, by rw [hon], hkind⟩

theorem remark (h : limits.Bind runner) (message : String) :
    (FixFirst.remark message : Act τ σ Unit).Within limits fun _ => True :=
  h.said fun world => ⟨(), _, World.on_remark message world, trivial⟩

theorem warnIf (h : limits.Bind runner) (output : OutputConfig) (reason : Bool) (message : String) :
    (output.warnIf reason message : Act τ σ Unit).Within limits fun _ => True :=
  h.said fun world => by
    obtain ⟨events, hon, -⟩ := World.on_warnIf output reason message world
    exact ⟨(), events, hon, trivial⟩

theorem onClock (h : limits.Bind runner) {step : Clockwork τ → α × Clockwork τ}
    (hstep : ∀ clock : Clockwork τ, clock.Managed (step clock).2) :
    (World.onClock step : Act τ σ α).Within limits fun _ => True :=
  .of_succeeds (fun world hworld => h.clocked world _ (hstep world.clock) hworld) fun world =>
    ⟨(step world.clock).1, rfl, trivial⟩

/-- Files that are normalised are paths within the limits. -/
theorem normalizeAll (h : limits.Bind runner) {world : World τ σ} (hworld : limits.world world) {texts : List String}
    (htexts : ∀ text ∈ texts, limits.path text) :
    (Act.ofExcept (world.disk.normalizeAll texts) : Act τ σ (List String)).Within limits
      fun files => ∀ file ∈ files, limits.path file := by
  refine .ofExcept (fun files hok file hin => ?_) fun fault there herror => ?_
  · obtain ⟨text, htext, hnormal⟩ := Disk.exists_of_mem_normalizeAll hok hin
    exact (h.paths world text hworld (htexts text htext)).1 file hnormal
  · exact Confined.normalizeAll (fun text hin => (h.paths world text hworld (htexts text hin)).2) fault herror there

theorem queue (h : limits.Bind runner) {files : List String} (hfiles : ∀ file ∈ files, limits.path file)
    {critical : Option (List String)} (hcritical : ∀ marked ∈ critical, ∀ file ∈ marked, limits.path file) :
    (BatchConfig.queue files critical : Act τ σ (List Ranked)).Within limits fun _ => True := by
  refine Within.get.bind fun world hworld => .ofExcept (fun _ _ => trivial) fun fault there herror => ?_
  have hconfined : ∀ texts : List String, (∀ text ∈ texts, limits.path text) →
      Confined (fun fault => ∀ world, limits.world world → limits.fault fault world) (world.disk.normalizeAll texts) :=
    fun texts htexts => Confined.normalizeAll fun text hin => (h.paths world text hworld (htexts text hin)).2
  exact Confined.order (hconfined files hfiles) (fun marked hin => hconfined marked (hcritical marked hin)) fault herror there

/-! ### Readings -/

/-- Readings whose faults come to nothing. -/
theorem background (h : limits.Bind runner) (count : Nat) :
    (World.background count : Act τ σ Unit).Within limits fun _ => True :=
  .of_succeeds (fun world hworld => h.sampled world _ (World.sampled_background count world) hworld) fun world =>
    ⟨(), by rw [World.on_background], trivial⟩

theorem latest (h : limits.Bind runner) : (World.latest : Act τ σ (Option (Sample τ))).Within limits fun _ => True := by
  refine Within.get.bind fun world _ => (h.background _).andThen fun _ => Within.get.bind fun ahead _ => ?_
  split
  · exact .pure trivial
  · exact h.samples

theorem pressure (h : limits.Bind runner) : (World.pressure : Act τ σ Level).Within limits fun _ => True :=
  h.samples.andThen fun _ => .pure trivial

theorem size (h : limits.Bind runner) (config : BatchConfig τ) :
    (config.size : Act τ σ Nat).Within limits fun _ => True :=
  h.latest.andThen fun _ => .pure trivial

theorem level (h : limits.Bind runner) : (World.level : Act τ σ Level).Within limits fun _ => True :=
  h.latest.andThen fun _ => .pure trivial

theorem workers (h : limits.Bind runner) : runner.workers.Within limits fun _ => True :=
  h.level.andThen fun _ => .pure trivial

theorem startMonitor (h : limits.Bind runner) : (World.startMonitor 0 : Act τ σ Unit).Within limits fun _ => True := by
  refine Within.get.bind fun world _ => ?_
  split
  · exact .pure trivial
  · split
    · exact .pure trivial
    · refine h.samples.andThen fun _ => Within.andThen ?_ fun _ => .pure trivial
      exact .of_succeeds (fun world hworld => h.sampled world _ (World.sampled_setRunning true world) hworld) fun world =>
        ⟨(), by rw [on_setRunning], trivial⟩

/-- A look at the world; a budget that was measured is a number. -/
theorem outlook (h : limits.Bind runner) (token : Nat) (budget : τ) :
    (runner.config.batching.outlook token (some (.measured budget)) : Act τ σ (Outlook τ)).Within limits fun _ => True := by
  refine h.pressure.andThen fun level => (h.size _).andThen fun size => (Within.askClock _).andThen fun left => ?_
  refine Within.andThen (.ofExcept (fun _ _ => trivial) fun fault world herror => ?_) fun _ => .pure trivial
  split at herror
  · cases left <;> cases herror
  · cases herror

theorem admission (h : limits.Bind runner) {files : List String} (hfiles : ∀ file ∈ files, limits.path file)
    {critical : Option (List String)} (hcritical : ∀ marked ∈ critical, ∀ file ∈ marked, limits.path file) (token : Nat) :
    (runner.config.batching.admission files critical token : Act τ σ (Admission τ)).Within limits fun _ => True :=
  (h.queue hfiles hcritical).andThen fun _ => h.pressure.andThen fun _ => (Within.askClock _).andThen fun _ => .pure trivial

/-- Work under a token of its own. -/
theorem budgeted (h : limits.Bind runner) (token : Nat) (budget : τ) {work : Nat → Act τ σ α} {P : α → Prop}
    (hwork : ∀ own, (work own).Within limits P) :
    (World.budgeted token budget work).Within limits fun answer => P answer.1 := by
  have hrelease : ∀ own world, limits.world world →
      limits.world (Change.on (World.moveClock (·.release own)) world).2 := fun own world hworld =>
    h.clocked world (world.clock.release own) (.release own) hworld
  refine (h.onClock fun clock => Clockwork.Managed.scopeToken token (some budget)).andThen fun own => ?_
  refine ((hwork own).thenAlways (hrelease own) fun fault world hfault =>
    h.faultClocked fault world (world.clock.release own) (.release own) hfault).bind fun result hresult => ?_
  exact (Within.askClock _).andThen fun _ => .pure hresult

/-! ### Jobs -/

/-- What calls of engines and entries of the journal leave as it is, a job leaves as it is. -/
theorem run (h : limits.Bind runner) {job : Job τ σ} (hjob : job.engine ∈ runner.engines) (token : Nat)
    {world : World τ σ} (hworld : limits.world world) : limits.world (Change.on (job.run token) world).2 := by
  have hback := h.calls job.engine hjob job.pass job.files token _
    (h.noted world [.called job.engine.name job.pass job.files] hworld)
  rw [job.on_run token world rfl]
  split
  · exact hback
  · exact h.noted _ _ hback

theorem runSerial (h : limits.Bind runner) {jobs : List (Job τ σ)} (hjobs : ∀ job ∈ jobs, job.engine ∈ runner.engines)
    (token : Nat) {world : World τ σ} (hworld : limits.world world) :
    limits.world (Change.on (FixFirst.runSerial token jobs) world).2 := by
  induction jobs generalizing world with
  | nil => exact hworld
  | cons job rest ih =>
      have hrest := fun other hin => hjobs other (List.mem_cons_of_mem _ hin)
      unfold FixFirst.runSerial
      rw [Change.on_bind, Change.on_askClock]
      cases world.clock.forest.reason? token with
      | some reason => exact ih hrest (h.noted world [.unstarted job.engine.name reason] hworld)
      | none => exact ih hrest (h.run (hjobs job List.mem_cons_self) token hworld)

theorem comeBack (h : limits.Bind runner) {slots : List (Slot τ σ)}
    (hslots : ∀ job ∈ waitedFor slots, job.engine ∈ runner.engines) (token : Nat) (positions : List Nat)
    {world : World τ σ} (hworld : limits.world world) :
    limits.world (Change.on (FixFirst.comeBack token positions slots) world).2 ∧
      ∀ job ∈ waitedFor (Change.on (FixFirst.comeBack token positions slots) world).1, job ∈ waitedFor slots := by
  induction positions generalizing slots world with
  | nil => exact ⟨hworld, fun job hin => hin⟩
  | cons position rest ih =>
      unfold FixFirst.comeBack
      cases hslot : slots[position]? with
      | none => exact ih hslots hworld
      | some slot =>
          simp only [Change.on_bind]
          cases slot with
          | waiting job =>
              have hin : job ∈ waitedFor slots := List.mem_filterMap.mpr ⟨_, List.mem_of_getElem? hslot, rfl⟩
              have hback := h.run (hslots job hin) token hworld
              rcases hjob : Change.on (job.run token) world with ⟨answer, middle⟩
              rw [hjob] at hback
              obtain ⟨next, hproceed, hnext⟩ : ∃ next : Slot τ σ,
                  Change.on (Slot.proceed token (.waiting job)) world = (next, middle) ∧ next.waits? = none := by
                unfold Slot.proceed
                rw [Change.on_bind, hjob]
                cases answer with
                | none => exact ⟨.stuck job, rfl, rfl⟩
                | some outcome => exact ⟨.back outcome, rfl, rfl⟩
              rw [hproceed]
              have hless : ∀ other ∈ waitedFor (slots.set position next), other ∈ waitedFor slots := fun other hother =>
                (waitedFor_set hslot hnext).subset (List.mem_cons_of_mem _ hother)
              obtain ⟨hlast, hleft⟩ := ih (fun other hother => hslots other (hless other hother)) hback
              exact ⟨hlast, fun other hother => hless other (hleft other hother)⟩
          | stuck job =>
              have hsame : Change.on (Slot.proceed token (.stuck job : Slot τ σ)) world = (.stuck job, world) := rfl
              rw [hsame, set_self hslot]
              exact ih hslots hworld
          | back outcome =>
              have hsame : Change.on (Slot.proceed token (.back outcome : Slot τ σ)) world = (.back outcome, world) := rfl
              rw [hsame, set_self hslot]
              exact ih hslots hworld

theorem await (h : limits.Bind runner) {slots : List (Slot τ σ)}
    (hslots : ∀ job ∈ waitedFor slots, job.engine ∈ runner.engines) (token : Nat) (grace : List Nat)
    (polls : List (List Nat)) {world : World τ σ} (hworld : limits.world world) :
    limits.world (Change.on (FixFirst.await token grace polls slots) world).2 := by
  induction polls generalizing slots world with
  | nil => exact (h.comeBack hslots token _ hworld).1
  | cons positions rest ih =>
      obtain ⟨hback, hless⟩ := h.comeBack hslots token positions hworld
      have hnext := fun job hin => hslots job (hless job hin)
      unfold FixFirst.await
      rw [Change.on_bind]
      split
      · exact hback
      · rw [Change.on_bind, Change.on_isCancelled]
        split
        · exact (h.comeBack hnext token grace hback).1
        · exact ih hnext hback

theorem settleAll (h : limits.Bind runner) (slots : List (Slot τ σ)) {world : World τ σ} (hworld : limits.world world) :
    limits.world (Change.on (FixFirst.settleAll slots) world).2 := by
  induction slots generalizing world with
  | nil => exact hworld
  | cons slot rest ih =>
      unfold FixFirst.settleAll
      rw [Change.on_bind, Change.on_bind, Change.on_pure]
      refine ih ?_
      cases slot with
      | waiting job => exact h.noted world [.abandoned job.engine.name] hworld
      | stuck job => exact h.noted world [.abandoned job.engine.name] hworld
      | back outcome => exact hworld

theorem tendJobs (h : limits.Bind runner) {jobs : List (Job τ σ)} (hjobs : ∀ job ∈ jobs, job.engine ∈ runner.engines)
    (schedule : List (Job τ σ) → World τ σ → Schedule) (token workers : Nat) (serial : Bool) {world : World τ σ}
    (hworld : limits.world world) : limits.world (Change.on (FixFirst.tendJobs schedule token workers serial jobs) world).2 := by
  unfold FixFirst.tendJobs
  split
  · exact h.runSerial hjobs token hworld
  · simp only [Change.on_bind, Change.on_log, Change.on_get]
    unfold tendParallel
    rw [Change.on_bind]
    refine h.settleAll _ (h.await ?_ token _ _ (h.noted world [.pool (min workers jobs.length)] hworld))
    rw [waitedFor_start]
    exact hjobs

/-- The jobs of a phase; they fail only where the time of grace is not granted. -/
theorem runJobs (h : limits.Bind runner) {jobs : List (Job τ σ)} (hjobs : ∀ job ∈ jobs, job.engine ∈ runner.engines)
    (token workers : Nat) (serial : Bool) :
    (FixFirst.runJobs runner.grantsGrace runner.schedule token workers serial jobs).Within limits fun _ => True := by
  have hcases : ∀ world, limits.world world →
      limits.world ((FixFirst.runJobs runner.grantsGrace runner.schedule token workers serial jobs).on world).2 ∧
        ∀ fault, ((FixFirst.runJobs runner.grantsGrace runner.schedule token workers serial jobs).on world).1 = .error fault →
          runner.grantsGrace = false ∧ fault = World.refusedWait := by
    intro world hworld
    rcases runJobs_cases runner.grantsGrace runner.schedule token workers serial jobs world with
      ⟨outcomes, after, hon, htended⟩ | ⟨hshort, -, order, slots, after, hon, hawait, -⟩
    · have hafter := h.tendJobs hjobs runner.granted token workers serial hworld
      unfold Runner.granted at hafter
      rw [htended] at hafter
      rw [hon]
      exact ⟨hafter, fun fault herror => by cases herror⟩
    · have hwaiting : ∀ job ∈ waitedFor (jobs.map .waiting), job.engine ∈ runner.engines := by
        rw [waitedFor_start]
        exact hjobs
      have hafter := h.await hwaiting token [] order (h.noted world [.pool (min workers jobs.length)] hworld)
      rw [hawait] at hafter
      rw [hon]
      exact ⟨hafter, fun fault herror => by cases herror; exact ⟨hshort, rfl⟩⟩
  refine ⟨fun world hworld => (hcases world hworld).1, fun _ _ _ _ => trivial, fun world fault hworld herror => ?_⟩
  obtain ⟨hafter, hfault⟩ := hcases world hworld
  obtain ⟨hshort, rfl⟩ := hfault fault herror
  exact h.grace hshort _ hafter

end Limits.Bind

/-! ### The parts of a run -/

namespace Runner

variable [Quantity τ] {limits : Limits τ σ} {runner : Runner τ σ}

/-- Batched work keeps to limits when its handler does. -/
theorem within_rounds (h : limits.Bind runner) {handler : Batch τ → Nat → Act τ σ ρ}
    (hhandler : ∀ batch own, (handler batch own).Within limits fun _ => True) (token : Nat) (budget : τ)
    (queue : List Queued) (index : Nat) (report : BatchReport ρ) :
    (runner.config.batching.rounds handler token (some (.measured budget)) queue index report).Within limits fun _ => True := by
  -- Every round makes the queue lighter.
  induction hweight : Queued.total runner.config.batching.maxDeferrals queue using Nat.strongRecOn
    generalizing queue index report with
  | _ weight ih =>
    unfold BatchConfig.rounds
    split
    · exact .pure trivial
    · rename_i waiting
      refine (Within.askClock _).andThen fun cancelled => ?_
      split
      · exact .pure trivial
      · refine (h.outlook token budget).andThen fun view => ?_
        have lighter : Queued.total runner.config.batching.maxDeferrals
            (cut runner.config.batching.maxDeferrals view.scarce view.imminent view.size queue).rest < weight :=
          hweight ▸ weight_cut_lt _ _ _ _ _ waiting
        simp only
        split
        · exact ih _ lighter _ _ _ rfl
        · refine (h.budgeted token _ fun own => hhandler _ own).andThen fun answer => ?_
          exact ih _ lighter _ _ _ rfl

/-- A phase that may follow the current one is entered. -/
theorem within_enter (h : limits.Bind runner) {course : Course τ} {phase : Phase}
    (hnext : course.tracker.current.follows phase = true) :
    (course.enter phase : Act τ σ (Course τ)).Within limits fun next => next.tracker.current = phase := by
  have hgoing : course.tracker.terminal = false := by
    unfold Tracker.terminal
    cases hcurrent : course.tracker.current <;> rw [hcurrent] at hnext <;> first | rfl | cases hnext
  refine Within.of_ok (P := fun _ => True) ?_ fun world next after hon => Course.enter_current hgoing hon
  unfold Course.enter Tracker.advance?
  rw [hgoing, if_neg Bool.false_ne_true, if_pos hnext]
  refine (h.remark _).andThen fun _ => Within.andThen ?_ fun _ => .pure trivial
  exact h.said fun world => ⟨(), [.entered phase], rfl, trivial⟩

variable {request : Request τ} {files : List String} {critical : Option (List String)} {course : Course τ}

theorem within_fixPhase (h : limits.Bind runner) (hfiles : ∀ file ∈ files, limits.path file)
    (hcritical : ∀ marked ∈ critical, ∀ file ∈ marked, limits.path file) (token : Nat) :
    (runner.fixPhase files critical token course).Within limits fun _ => True := by
  unfold fixPhase
  refine (Within.askClock _).andThen fun cancelled => ?_
  split
  · exact .pure trivial
  · refine (h.admission hfiles hcritical token).andThen fun admission => ?_
    simp only
    split
    · exact .pure trivial
    · refine (h.budgeted token _ fun own => h.workers.andThen fun workers => h.runJobs ?_ own workers _).bind
        fun answer _ => (h.warnIf _ _ _).andThen fun _ => Within.andThen ?_ fun _ => ?_
      · intro job hin
        obtain ⟨engine, hengine, rfl⟩ := List.mem_map.mp hin
        exact (List.mem_filter.mp (List.mem_filter.mp hengine).1).1
      · exact h.said fun world => by
          obtain ⟨events, hon, -⟩ := Course.on_record runner.config.output _ answer.1 world
          exact ⟨_, events, hon, trivial⟩
      · exact h.said fun world => by
          obtain ⟨events, hon, -⟩ := Course.on_markRechecks runner.config.execution.serialFix _ [] _ world
          exact ⟨_, events, hon, trivial⟩

/-- After fixing, checking may come next. -/
theorem within_fixFirst (h : limits.Bind runner) (hfiles : ∀ file ∈ files, limits.path file)
    (hcritical : ∀ marked ∈ critical, ∀ file ∈ marked, limits.path file) (token : Nat) :
    (runner.fixFirst files critical token).Within limits fun fixed => fixed.tracker.current.follows .check = true := by
  unfold fixFirst
  split
  · refine (within_enter h rfl).bind fun entered hentered => ?_
    refine (within_fixPhase h hfiles hcritical token).of_ok fun world fixed after hon => ?_
    have hcurrent : fixed.tracker.current = .fix := by
      cases fixPhase_ok hon with
      | skipped why => exact hentered
      | held going admits none => exact hentered
      | fixed going admits works spoken => exact (Course.takingAll_current _ _).trans hentered
    rw [hcurrent]
    rfl
  · exact .pure rfl

theorem within_checkPhase (h : limits.Bind runner) (hfiles : ∀ file ∈ files, limits.path file)
    (hcritical : ∀ marked ∈ critical, ∀ file ∈ marked, limits.path file) (token : Nat) (budget : τ) :
    (runner.checkPhase files critical token budget course).Within limits fun _ => True := by
  unfold checkPhase
  split
  · exact .pure trivial
  · refine Within.andThen ?_ fun report => Within.andThen ?_ fun _ => (h.warnIf _ _ _).andThen fun _ => .pure trivial
    · refine (h.queue hfiles hcritical).andThen fun ordered => within_rounds h (fun batch own => ?_) token _ _ _ _
      refine (h.remark _).andThen fun _ => h.workers.andThen fun workers => h.runJobs (fun job hin => ?_) own workers false
      obtain ⟨engine, hengine, -, -, rfl⟩ := of_mem_checkJobs hin
      exact hengine
    · exact h.said fun world => by
        obtain ⟨events, hon, -⟩ := runner.on_recordBatches course report.results world
        exact ⟨_, events, hon, trivial⟩

/-- Preparing the engines. -/
theorem within_prepare (h : limits.Bind runner) (fingerprints : Keyed String) :
    (liftM (runner.prepare fingerprints) : Act τ σ Unit).Within limits fun _ => True := by
  have hall : ∀ engines : List (Engine τ σ), (∀ engine ∈ engines, engine ∈ runner.engines) → ∀ world, limits.world world →
      limits.world (Change.on (prepare { runner with engines := engines } fingerprints) world).2 := by
    intro engines hengines
    induction engines with
    | nil => exact fun world hworld => hworld
    | cons engine rest ih =>
        intro world hworld
        unfold prepare
        rw [List.forM_eq_forM, List.forM_cons]
        refine ih (fun other hin => hengines other (List.mem_cons_of_mem _ hin)) _ ?_
        refine h.prepares engine (hengines engine List.mem_cons_self) _ _ ?_
        exact h.noted world [.prepared engine.name _] hworld
  exact .lift (hall runner.engines fun engine hin => hin)

/-- The phases of a run; aggregation may follow. -/
theorem within_work (h : limits.Bind runner) {setup : Setup τ} (hfiles : ∀ file ∈ setup.files, limits.path file)
    (hcritical : ∀ marked ∈ request.critical, ∀ file ∈ marked, limits.path file) :
    (runner.work request setup).Within limits fun course => course.tracker.current = .check := by
  have hphases : (runner.phases setup.files request.critical setup.phaseToken setup.budget).Within limits fun _ => True :=
    h.startMonitor.andThen fun _ => (within_fixFirst h hfiles hcritical _).bind fun fixed hfixed =>
      (within_enter h hfixed).bind fun entered _ => within_checkPhase h hfiles hcritical _ _
  have hwork : (runner.work request setup).Within limits fun _ => True :=
    (hphases.ensuring h.stops h.faultStopped).thenAlways (fun world hworld => h.clocked world _ .close hworld)
      fun fault world hfault => h.faultClocked fault world _ .close hfault
  exact hwork.of_ok fun world course after hon => work_current hon

/-! ### The end of a run -/

/-- A command of the version control system. -/
theorem within_git (h : limits.Bind runner) (hshell : limits.BindShell runner.shell) (root : Path) (arguments : List String) :
    (git runner.shell root arguments).Within limits fun _ => True := by
  have hgiven := fun world (hworld : limits.world world) =>
    hshell arguments root _ (h.noted world [.command ("git" :: arguments) (some root.text)] hworld)
  have hattempt : ((runner.shell.run ⟨"git" :: arguments, some root⟩ none).attempt).Within limits fun answer =>
      ∀ fault, answer = .error fault → (∃ tool detail, fault = .toolMissing tool detail) ∨
        ∀ world, limits.world world → limits.fault fault world := by
    refine ⟨fun world hworld => (hgiven world hworld).1, fun world answer hworld hok fault herror => ?_,
      fun world fault hworld herror => by cases herror⟩
    cases hok
    exact (hgiven world hworld).2 fault herror
  unfold git
  refine hattempt.bind fun answer hanswer => ?_
  cases answer with
  | ok completed => exact .pure trivial
  | error fault =>
      rcases hanswer fault rfl with ⟨tool, detail, rfl⟩ | hfault
      · exact .pure trivial
      · cases fault <;> first | exact .pure trivial | exact .throw hfault

theorem within_stageEach (h : limits.Bind runner) (hshell : limits.BindShell runner.shell) (root : Path)
    (files : List String) : (stageEach runner.shell root files).Within limits fun _ => True := by
  induction files with
  | nil => exact .pure trivial
  | cons file rest ih => exact (within_git h hshell root _).andThen fun _ => ih.andThen fun _ => .pure trivial

theorem within_stage (h : limits.Bind runner) (hshell : limits.BindShell runner.shell) (root : Path)
    (hfiles : ∀ file ∈ files, limits.path file) : (stage runner.shell root files).Within limits fun _ => True := by
  refine Within.get.bind fun world hworld => (h.normalizeAll hworld hfiles).bind fun targets _ => ?_
  split
  · exact .pure trivial
  · refine (within_git h hshell root _).andThen fun inside => ?_
    split
    · exact within_stageEach h hshell root targets
    · exact .pure trivial

/-- After a run was wrapped up: it is cancelled, or in aggregation. -/
theorem within_wrapUp (h : limits.Bind runner) (hcheck : course.tracker.current = .check) (id : String) (cancelled : Bool)
    (reason : Option String) :
    (course.wrapUp id cancelled reason : Act τ σ (Course τ)).Within limits fun wrapped =>
      cancelled = false → wrapped.tracker.current = .aggregate := by
  unfold Course.wrapUp
  split
  · rename_i hcancelled
    exact (h.remark _).andThen fun _ => .pure fun hgoing => absurd hcancelled (by rw [hgoing]; exact Bool.false_ne_true)
  · exact (within_enter h (by rw [hcheck]; rfl)).mono fun wrapped hcurrent _ => hcurrent

omit [Quantity τ] in
theorem mem_of_mem_fixedFiles {scope : List String} {file : String} (hin : file ∈ course.fixedFiles scope) :
    file ∈ scope := by
  unfold Course.fixedFiles at hin
  rw [mem_firsts] at hin
  obtain ⟨result, -, hfile⟩ := List.mem_flatMap.mp hin
  simpa using (List.mem_filter.mp hfile).2

/-- A report about files within the limits. -/
theorem within_report (h : limits.Bind runner) (hfiles : ∀ file ∈ files, limits.path file) {started : τ} {id : String}
    {cancelled : Bool} {course : Course τ} :
    (runner.report request files started id cancelled course).Within limits fun _ => True := by
  have hcases : ∀ world, limits.world world → ∀ outcome after,
      (runner.report request files started id cancelled course).on world = (outcome, after) →
      limits.world after ∧ ∀ fault, outcome = .error fault → limits.fault fault after := by
    intro world hworld outcome after hon
    cases outcome with
    | ok report =>
        obtain ⟨rfl, -⟩ := report_ok hon
        exact ⟨hworld, fun fault herror => by cases herror⟩
    | error fault =>
        obtain ⟨rfl, hnormal⟩ := report_error hon
        have hfault := (h.normalizeAll hworld hfiles).fault after fault hworld (by rw [on_ofExcept, hnormal])
        rw [on_ofExcept] at hfault
        exact ⟨hworld, fun cause herror => by cases herror; exact hfault⟩
  exact ⟨fun world hworld => (hcases world hworld _ _ rfl).1, fun _ _ _ _ => trivial,
    fun world fault hworld herror => (hcases world hworld _ _ rfl).2 fault herror⟩

/-- Staging at the end of a run. -/
theorem within_stageFixed (h : limits.Bind runner) (hshell : limits.BindShell runner.shell)
    (hfiles : ∀ file ∈ request.files, limits.path file) {cancelled : Bool}
    (hcurrent : cancelled = false → course.tracker.current = .aggregate) (report : Report τ) :
    (runner.stageFixed request cancelled course report).Within limits fun staged =>
      ∀ fault, staged.1.finish cancelled ≠ .error fault := by
  refine Within.of_ok (P := fun _ => True) ?_ fun world staged after hon =>
    (stageFixed_cases hon).finishes hcurrent
  unfold stageFixed
  simp only
  split
  · exact .pure trivial
  · refine Within.get.bind fun world hworld => (h.normalizeAll hworld hfiles).bind fun scope hscope => ?_
    split
    · exact .pure trivial
    · split
      · exact .pure trivial
      · rename_i hgoing
        refine (within_enter h ?_).bind fun entered _ => ?_
        · rw [hcurrent (by simpa using hgoing)]
          rfl
        refine (within_stage h hshell _ fun file hin => hscope file (mem_of_mem_fixedFiles hin)).andThen fun staging => ?_
        refine Within.andThen (h.said fun world => ?_) fun _ => .pure trivial
        obtain ⟨events, hon, -⟩ := runner.config.output.on_warnEach staging.warnings _ world
        exact ⟨_, events, hon, trivial⟩

/-- The end of a run that has been through its phases. -/
theorem within_conclude (h : limits.Bind runner) (hshell : limits.BindShell runner.shell)
    (hfiles : ∀ file ∈ request.files, limits.path file) {setup : Setup τ} (hsetup : ∀ file ∈ setup.files, limits.path file)
    (hcheck : course.tracker.current = .check) :
    (runner.conclude request setup course).Within limits fun _ => True := by
  unfold conclude
  refine (Within.askClock _).andThen fun reason => (Within.askClock _).andThen fun cancelled => ?_
  refine (within_wrapUp h hcheck _ cancelled reason).bind fun wrapped hwrapped => ?_
  refine (within_report h hsetup).andThen fun report => ?_
  refine (within_stageFixed h hshell hfiles hwrapped report).bind fun staged hstaged => ?_
  exact Within.andThen (.ofExcept (fun _ _ => trivial) fun fault _ herror => absurd herror (hstaged fault)) fun tracker =>
    (Within.askClock _).andThen fun now => .pure trivial

/-- A run that has been set up keeps to limits when the parts that it is made of do. -/
theorem within_run (h : limits.Bind runner) (hshell : limits.BindShell runner.shell)
    (hfiles : ∀ file ∈ request.files, limits.path file)
    (hcritical : ∀ marked ∈ request.critical, ∀ file ∈ marked, limits.path file) {setup : Setup τ}
    (hsetup : ∀ file ∈ setup.files, limits.path file) :
    (runner.work request setup >>= runner.conclude request setup).Within limits fun _ => True :=
  (within_work h hsetup hcritical).bind fun _ hcheck => within_conclude h hshell hfiles hsetup hcheck

end Runner

end FixFirst
