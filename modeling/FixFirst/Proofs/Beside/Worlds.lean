import FixFirst.Proofs.Run.Limits

/-!
# Worlds side by side

Two runs are compared: one over some engines, and one over the same engines and one more.  The worlds
that they go through differ in their tokens, in their readings of the memory, and in their journals.
This module says what they have in common, and which steps keep it.

## Main definitions

* `World.Same` — what two worlds have in common that engines look at.
* `World.Clear` — no token that a run made is cancelled.
* `World.Pressed` — all readings come to one level.
* `World.Quiet`, `World.Drifted` — a world after steps in which no engine is called.
* `World.Beside` — the world of one run beside that of the other one.

## Main statements

* `World.Beside.quiet`, `World.Beside.drifted` — what keeps two worlds beside each other.
* `World.Beside.startMonitor`, `World.Beside.stopMonitor` — readings start and end in both.
* `Clockwork.Managed.lasts` — a run takes no token away, and no cancellation back.
-/

namespace FixFirst

variable {τ σ α β : Type}

/-! ### Clocks -/

/-- Whether the tokens of a clock are still there later, with their deadlines, and cancelled if they were. -/
structure Clockwork.Lasts (before after : Clockwork τ) : Prop where
  tokens : before.forest.tokens.length ≤ after.forest.tokens.length
  deadlines : ∀ token, token < before.forest.tokens.length →
    after.forest.deadline? token = before.forest.deadline? token
  cancelled : ∀ token, before.forest.isCancelled token = true → after.forest.isCancelled token = true

namespace Clockwork

theorem Lasts.refl (clock : Clockwork τ) : clock.Lasts clock :=
  ⟨Nat.le_refl _, fun _ _ => rfl, fun _ h => h⟩

theorem Lasts.trans {first second third : Clockwork τ} (h : first.Lasts second) (h' : second.Lasts third) :
    first.Lasts third where
  tokens := Nat.le_trans h.tokens h'.tokens
  deadlines token hhere := (h'.deadlines token (Nat.lt_of_lt_of_le hhere h.tokens)).trans (h.deadlines token hhere)
  cancelled token hcancelled := h'.cancelled token (h.cancelled token hcancelled)

theorem Lasts.of_later {before after : Clockwork τ} (h : before.forest.Later after.forest) : before.Lasts after where
  tokens := Nat.le_of_eq h.length.symm
  deadlines token _ := h.deadline? token
  cancelled _ hcancelled := h.isCancelled hcancelled

variable [Quantity τ]

theorem lasts_plain (clock : Clockwork τ) (parent : Option Nat) (deadline : Option τ) :
    clock.Lasts (clock.plain parent deadline).2 := by
  refine ⟨?_, fun token hhere => clock.forest.deadline?_add_of_lt parent deadline hhere, fun token hcancelled => ?_⟩
  · have hlength := clock.forest.length_add parent deadline
    show clock.forest.tokens.length ≤ (clock.forest.add parent deadline).2.tokens.length
    omega
  · show (clock.forest.add parent deadline).2.isCancelled token = true
    obtain ⟨new, -, hactive, -, heq⟩ := clock.forest.add_eq parent deadline
    have hgrown : (clock.forest.grown new).isCancelled token = true := by
      unfold Forest.isCancelled at hcancelled ⊢
      rwa [clock.forest.reason?_grown hactive]
    rw [heq]
    cases parent with
    | none => exact hgrown
    | some above =>
        simp only
        rcases (clock.forest.grown new).listen_cases above (.child clock.forest.tokens.length) with hhung | ⟨works, hdrain⟩
        · rw [hhung]
          unfold Forest.isCancelled at hgrown ⊢
          rwa [Forest.reason?_hung]
        · rw [hdrain]
          exact (Forest.later_drain _ works).isCancelled hgrown

theorem lasts_armed (clock : Clockwork τ) (parent : Option Nat) (deadline : Option τ) :
    clock.Lasts (clock.armed parent deadline).2 := by
  rw [snd_armed]
  exact (clock.lasts_plain parent deadline).trans (.of_later (later_arm _ _))

/-- A run takes no token away, and no cancellation back. -/
theorem Managed.lasts {clock after : Clockwork τ} (h : clock.Managed after) : clock.Lasts after := by
  cases h with
  | runToken budget outer => exact clock.lasts_armed outer _
  | phaseToken token reserve => exact clock.lasts_armed (some token) _
  | scopeToken token budget => exact clock.lasts_armed (some token) _
  | release token => exact .of_later (later_detach _ _)
  | close => exact .of_later (Forest.Later.refl _)

end Clockwork

/-- Whether no token is cancelled that was made after the first `base` ones. -/
def World.Clear (base : Nat) (world : World τ σ) : Prop :=
  ∀ token, base ≤ token → world.clock.forest.isCancelled token = false

theorem World.Clear.of_active {base : Nat} {world : World τ σ} (h : world.clock.forest.tokens.all Token.active = true) :
    world.Clear base := by
  intro token _
  unfold Forest.isCancelled Forest.reason? Forest.token?
  cases hfound : world.clock.forest.tokens[token]? with
  | none => rfl
  | some known =>
      have hactive := List.all_eq_true.mp h known (List.mem_of_getElem? hfound)
      have hreason : known.reason = none := by simpa [Token.active] using hactive
      show known.reason.isSome = false
      rw [hreason]
      rfl

theorem World.Clear.of_lasts {base : Nat} {before after : World τ σ} (h : after.Clear base)
    (hlasts : before.clock.Lasts after.clock) : before.Clear base := by
  intro token hbase
  cases hbefore : before.clock.forest.isCancelled token with
  | false => rfl
  | true =>
      rw [← hlasts.cancelled token hbefore]
      exact h token hbase

/-! ### Pressure -/

section

variable [Quantity τ]

/-- What readings of the memory come to at given times, from the `count`th one on. -/
def Monitor.readings (memory : Nat → Int) : Monitor τ → Nat → List τ → List (Except Fault (Sample τ))
  | _, _, [] => []
  | monitor, count, time :: rest =>
    let (outcome, next) := monitor.sample time (memory count)
    outcome :: readings memory next (count + 1) rest

/-- Whether readings of the memory come to one level, whenever they are taken. -/
def Monitor.Pressed (level : Level) (memory : Nat → Int) (monitor : Monitor τ) (count : Nat) : Prop :=
  ∀ times, ∀ outcome ∈ monitor.readings memory count times, ∃ taken, outcome = .ok taken ∧ taken.level = level

namespace Monitor

variable {level : Level} {memory : Nat → Int} {monitor : Monitor τ} {count : Nat}

/-- A reading that comes to something is the latest one. -/
theorem latest_sample {time : τ} {bytes : Int} {taken : Sample τ} (h : (monitor.sample time bytes).1 = .ok taken) :
    (monitor.sample time bytes).2.latest = some taken := by
  unfold Monitor.sample at h ⊢
  simp only at h ⊢
  split at h
  · exact congrArg some (Except.ok.inj h)
  · cases h

/-- A reading under constant pressure: it comes to the level, and so do the ones after it. -/
theorem Pressed.sample (h : monitor.Pressed level memory count) (time : τ) :
    ∃ taken next, monitor.sample time (memory count) = (.ok taken, next) ∧ taken.level = level ∧
      next.latest = some taken ∧ next.Pressed level memory (count + 1) := by
  obtain ⟨taken, htaken, hlevel⟩ := h [time] (monitor.sample time (memory count)).1 List.mem_cons_self
  exact ⟨taken, _, Prod.ext htaken rfl, hlevel, latest_sample htaken, fun times outcome hin =>
    h (time :: times) outcome (List.mem_cons_of_mem _ hin)⟩

/-- Whether readings are taken in the background does not matter for what they come to. -/
theorem readings_running (memory : Nat → Int) (monitor : Monitor τ) (running : Bool) (count : Nat) (times : List τ) :
    Monitor.readings memory { monitor with running := running } count times = monitor.readings memory count times := by
  induction times generalizing monitor count with
  | nil => rfl
  | cons time rest ih =>
      have hjudge : (Monitor.note { monitor with running := running } time (memory count)).judge time (memory count) =
          (monitor.note time (memory count)).judge time (memory count) := rfl
      have hsample : Monitor.sample { monitor with running := running } time (memory count) =
          ((monitor.sample time (memory count)).1,
            { (monitor.sample time (memory count)).2 with running := running }) := by
        unfold Monitor.sample
        simp only [hjudge]
        cases (monitor.note time (memory count)).judge time (memory count) <;> rfl
      simp only [readings, hsample, ih]

/-- What a monitor goes by, and whether readings are being taken in the background. -/
def watch (monitor : Monitor τ) : ResourceConfig τ × Bool := (monitor.config, monitor.running)

/-- A reading changes nothing about how readings are taken. -/
theorem watch_sample (monitor : Monitor τ) (time : τ) (bytes : Int) :
    (monitor.sample time bytes).2.watch = monitor.watch := by
  simp only [Monitor.sample]
  split <;> rfl

end Monitor

end

namespace World

/-- Whether readings of the memory come to one level, the latest one included. -/
def Pressed [Quantity τ] (level : Level) (world : World τ σ) : Prop :=
  ∃ monitor, world.monitor = some monitor ∧ monitor.Pressed level world.memory world.readings ∧
    ∀ taken ∈ monitor.latest, taken.level = level

/-! ### Steps without calls -/

/-- What two worlds have in common that engines look at. -/
structure Same (world other : World τ σ) : Prop where
  now : other.clock.now = world.clock.now
  disk : other.disk = world.disk
  benches : other.benches = world.benches
  moment : other.moment = world.moment
  random : other.random = world.random
  outside : other.outside = world.outside

theorem Same.refl (world : World τ σ) : world.Same world := ⟨rfl, rfl, rfl, rfl, rfl, rfl⟩

theorem Same.symm {world other : World τ σ} (h : world.Same other) : other.Same world :=
  ⟨h.now.symm, h.disk.symm, h.benches.symm, h.moment.symm, h.random.symm, h.outside.symm⟩

theorem Same.trans {first second third : World τ σ} (h : first.Same second) (h' : second.Same third) :
    first.Same third :=
  ⟨h'.now.trans h.now, h'.disk.trans h.disk, h'.benches.trans h.benches, h'.moment.trans h.moment,
    h'.random.trans h.random, h'.outside.trans h.outside⟩

/-- Engines do not look at the journal. -/
theorem Same.noted {world other : World τ σ} (h : world.Same other) (events others : List (Event τ)) :
    (world.noted events).Same (other.noted others) :=
  ⟨h.now, h.disk, h.benches, h.moment, h.random, h.outside⟩

variable [Quantity τ] {level : Level}

/-- Whether a world comes after another one without a call of an engine, and the pressure is as it was. -/
structure Quiet (level : Level) (before after : World τ σ) : Prop where
  clock : before.clock.Lasts after.clock
  pressed : before.Pressed level → after.Pressed level
  watched : after.monitor.map Monitor.watch = before.monitor.map Monitor.watch
  calls : ∃ events, after.journal = before.journal ++ events ∧ callsIn events = []

/-- Whether, besides, an engine sees no difference. -/
structure Drifted (level : Level) (before after : World τ σ) : Prop extends before.Quiet level after where
  same : before.Same after

theorem Quiet.trans {first second third : World τ σ} (h : first.Quiet level second) (h' : second.Quiet level third) :
    first.Quiet level third := by
  refine ⟨h.clock.trans h'.clock, fun hpressed => h'.pressed (h.pressed hpressed), h'.watched.trans h.watched, ?_⟩
  obtain ⟨events, hjournal, hcalls⟩ := h.calls
  obtain ⟨more, hjournal', hcalls'⟩ := h'.calls
  refine ⟨events ++ more, ?_, ?_⟩
  · rw [hjournal', hjournal, List.append_assoc]
  · rw [callsIn_append, hcalls, hcalls', List.append_nil]

namespace Drifted

theorem refl (world : World τ σ) : world.Drifted level world :=
  ⟨⟨Clockwork.Lasts.refl _, fun h => h, rfl, [], (List.append_nil _).symm, rfl⟩, Same.refl world⟩

theorem trans {first second third : World τ σ} (h : first.Drifted level second) (h' : second.Drifted level third) :
    first.Drifted level third :=
  ⟨h.toQuiet.trans h'.toQuiet, h.same.trans h'.same⟩

theorem noted (world : World τ σ) {events : List (Event τ)} (h : ∀ event ∈ events, event.Plain) :
    world.Drifted level (world.noted events) :=
  ⟨⟨Clockwork.Lasts.refl _, fun hpressed => hpressed, rfl, events, rfl, callsIn_plain h⟩, ⟨rfl, rfl, rfl, rfl, rfl, rfl⟩⟩

theorem spoken (world : World τ σ) {events : List (Event τ)} (h : ∀ event ∈ events, event.Spoken) :
    world.Drifted level (world.noted events) :=
  noted world fun event hin => (h event hin).plain

theorem managed (world : World τ σ) {clock : Clockwork τ} (h : world.clock.Managed clock) :
    world.Drifted level { world with clock := clock } :=
  ⟨⟨h.lasts, fun hpressed => hpressed, rfl, [], (List.append_nil _).symm, rfl⟩, ⟨h.now, rfl, rfl, rfl, rfl, rfl⟩⟩

theorem opened (level : Level) (world : World τ σ) (token : Nat) (budget : τ) :
    world.Drifted level { world with clock := (world.clock.scopeToken token (some budget)).2 } :=
  managed world (.scopeToken token (some budget))

theorem released (level : Level) (world : World τ σ) (token : Nat) :
    world.Drifted level { world with clock := world.clock.release token } :=
  managed world (.release token)

theorem sampled {before after : World τ σ} (h : before.Sampled after) (hpressed : after.Pressed level)
    (hwatched : after.monitor.map Monitor.watch = before.monitor.map Monitor.watch) : before.Drifted level after := by
  obtain ⟨monitor, readings, -, rfl⟩ := h
  exact ⟨⟨Clockwork.Lasts.refl _, fun _ => hpressed, hwatched, [], (List.append_nil _).symm, rfl⟩, ⟨rfl, rfl, rfl, rfl, rfl, rfl⟩⟩

theorem clear {base : Nat} {before after : World τ σ} (h : before.Drifted level after) (hclear : after.Clear base) :
    before.Clear base :=
  hclear.of_lasts h.clock

end Drifted

end World

/-! ### Acts without calls -/

section

variable [Quantity τ] {level : Level} {world : World τ σ}

/-- Whether an act comes to a result without a call of an engine. -/
def Act.Drifts (level : Level) (act : Act τ σ α) (world : World τ σ) (result : Except Fault α) : Prop :=
  ∃ after, act.on world = (result, after) ∧ world.Drifted level after

namespace Act.Drifts

variable {act : Act τ σ α} {value : α}

theorem pure (value : α) (world : World τ σ) : Act.Drifts level (Pure.pure value : Act τ σ α) world (.ok value) :=
  ⟨world, rfl, .refl world⟩

theorem ofExcept (result : Except Fault α) (world : World τ σ) :
    Act.Drifts level (Act.ofExcept result : Act τ σ α) world result :=
  ⟨world, Act.on_ofExcept result world, .refl world⟩

theorem askClock (question : Clockwork τ → α) (world : World τ σ) :
    Act.Drifts level (World.askClock question : Act τ σ α) world (.ok (question world.clock)) :=
  ⟨world, Act.on_askClock question world, .refl world⟩

theorem bind {next : α → Act τ σ β} {result : Except Fault β} (h : act.Drifts level world (.ok value))
    (hnext : ∀ after, world.Drifted level after → (next value).Drifts level after result) :
    (act >>= next).Drifts level world result := by
  obtain ⟨middle, hon, hdrifted⟩ := h
  obtain ⟨after, hon', hdrifted'⟩ := hnext middle hdrifted
  refine ⟨after, ?_, hdrifted.trans hdrifted'⟩
  rw [Act.on_bind_of_ok hon]
  exact hon'

/-- After a fault nothing follows. -/
theorem bind_error {next : α → Act τ σ β} {fault : Fault} (h : act.Drifts level world (.error fault)) :
    (act >>= next).Drifts level world (.error fault) := by
  obtain ⟨after, hon, hdrifted⟩ := h
  refine ⟨after, ?_, hdrifted⟩
  rw [Act.on_bind, hon]

/-- An act that only says something. -/
theorem said (h : ∃ events, act.on world = (.ok value, world.noted events) ∧ ∀ event ∈ events, event.Spoken) :
    act.Drifts level world (.ok value) := by
  obtain ⟨events, hon, hspoken⟩ := h
  exact ⟨_, hon, .spoken world hspoken⟩

theorem remark (message : String) : Act.Drifts level (FixFirst.remark message) world (.ok ()) :=
  said ⟨_, World.on_remark message world, fun event hin => by
    rw [List.mem_singleton.mp hin]
    trivial⟩

theorem warnIf (output : OutputConfig) (reason : Bool) (message : String) :
    Act.Drifts level (output.warnIf reason message) world (.ok ()) :=
  said (World.on_warnIf output reason message world)

end Act.Drifts

/-! ### Readings under constant pressure -/

namespace World

theorem Pressed.drifts_sample (h : world.Pressed level) :
    ∃ taken, Act.Drifts level World.sample world (.ok (some taken)) ∧ taken.level = level := by
  obtain ⟨monitor, hmonitor, hpressed, -⟩ := h
  obtain ⟨taken, next, hsample, hlevel, hlatest, hnext⟩ := hpressed.sample world.clock.now
  have hon : Act.on World.sample world =
      (.ok (some taken), { world with monitor := some next, readings := world.readings + 1 }) := by
    unfold World.sample
    rw [Act.on_bind_of_ok (Act.on_get world)]
    simp only [hmonitor, hsample]
    rfl
  have hsampled := sampled_sample world
  rw [hon] at hsampled
  have hwatched : next.watch = monitor.watch := by
    rw [← monitor.watch_sample world.clock.now (world.memory world.readings), hsample]
  refine ⟨taken, ⟨_, hon, .sampled hsampled ⟨next, rfl, hnext, fun other hother => ?_⟩ ?_⟩, hlevel⟩
  · rw [hlatest] at hother
    cases hother
    exact hlevel
  · rw [hmonitor, Option.map_some, Option.map_some, hwatched]

/-- Readings in the background do not matter. -/
theorem Pressed.drifts_background (h : world.Pressed level) (count : Nat) :
    Act.Drifts level (World.background count) world (.ok ()) := by
  induction count generalizing world with
  | zero => exact .pure () world
  | succ count ih =>
      obtain ⟨taken, ⟨after, hon, hdrifted⟩, -⟩ := h.drifts_sample
      obtain ⟨last, hlast, hmore⟩ := ih (hdrifted.pressed h)
      refine ⟨last, ?_, hdrifted.trans hmore⟩
      unfold World.background
      rw [Act.on_bind_of_ok (Act.on_attempt _ world), hon]
      exact hlast

theorem Pressed.drifts_latest (h : world.Pressed level) :
    ∃ taken, Act.Drifts level World.latest world (.ok (some taken)) ∧ taken.level = level := by
  obtain ⟨ahead, hon, hdrifted⟩ := h.drifts_background (world.meanwhile world.readings)
  have hahead := hdrifted.pressed h
  cases hknown : ahead.monitor >>= Monitor.latest with
  | none =>
      obtain ⟨taken, ⟨after, hlast, hmore⟩, hlevel⟩ := hahead.drifts_sample
      refine ⟨taken, ⟨after, ?_, hdrifted.trans hmore⟩, hlevel⟩
      unfold World.latest
      rw [Act.on_bind_of_ok (Act.on_get world), Act.on_bind_of_ok hon, Act.on_bind_of_ok (Act.on_get ahead), hknown]
      exact hlast
  | some known =>
      obtain ⟨monitor, hmonitor, -, hlatest⟩ := hahead
      have hlevel : known.level = level := hlatest known (by rwa [hmonitor] at hknown)
      refine ⟨known, ⟨ahead, ?_, hdrifted⟩, hlevel⟩
      unfold World.latest
      rw [Act.on_bind_of_ok (Act.on_get world), Act.on_bind_of_ok hon, Act.on_bind_of_ok (Act.on_get ahead), hknown]
      rfl

theorem Pressed.drifts_pressure (h : world.Pressed level) : Act.Drifts level World.pressure world (.ok level) := by
  obtain ⟨taken, hdrifts, rfl⟩ := h.drifts_sample
  exact hdrifts.bind fun after _ => .pure _ after

theorem Pressed.drifts_level (h : world.Pressed level) : Act.Drifts level World.level world (.ok level) := by
  obtain ⟨taken, hdrifts, rfl⟩ := h.drifts_latest
  exact hdrifts.bind fun after _ => .pure _ after

theorem Pressed.drifts_size (h : world.Pressed level) (config : BatchConfig τ) :
    Act.Drifts level config.size world (.ok (level.batchSize config.targetSize config.minSize).toNat) := by
  obtain ⟨taken, hdrifts, rfl⟩ := h.drifts_latest
  exact hdrifts.bind fun after _ => .pure _ after

theorem Pressed.drifts_workers (h : world.Pressed level) (runner : Runner τ σ) :
    runner.workers.Drifts level world
      (.ok (min runner.config.execution.jobs (level.concurrency runner.config.execution.jobs).toNat)) :=
  h.drifts_level.bind fun after _ => .pure _ after

/-- Whether readings are taken in the background does not matter for the pressure. -/
theorem Pressed.setRunning (h : world.Pressed level) (running : Bool) :
    (Act.on (World.setRunning running) world).2.Pressed level := by
  obtain ⟨monitor, hmonitor, hpressed, hlatest⟩ := h
  refine ⟨{ monitor with running := running }, ?_, fun times outcome hin => ?_, hlatest⟩
  · rw [Act.on_setRunning, hmonitor, Option.map_some]
  · rw [Monitor.readings_running] at hin
    exact hpressed times outcome hin

/-- Readings that start: the first one is taken at once, unless they have started already. -/
theorem Pressed.on_startMonitor (h : world.Pressed level) {monitor : Monitor τ} (hmonitor : world.monitor = some monitor) :
    ∃ middle, world.Drifted level middle ∧ Act.on (World.startMonitor 0) world =
      (.ok (), if monitor.running then world else (Act.on (World.setRunning true) middle).2) := by
  obtain ⟨taken, ⟨middle, hon, hdrifted⟩, -⟩ := h.drifts_sample
  refine ⟨middle, hdrifted, ?_⟩
  unfold World.startMonitor
  rw [Act.on_bind_of_ok (Act.on_get world), hmonitor]
  simp only
  split
  · rfl
  · rw [Act.on_bind_of_ok hon, Act.on_bind_of_ok (Act.on_setRunning true middle)]
    rfl

end World

end

/-! ### Two worlds -/

/-- What two runs are compared by. -/
structure Aspect where
  /-- The name of the engine that only one of them has. -/
  name : String
  /-- How many tokens there were when they started. -/
  base : Nat
  /-- How many entries the journal had when they started. -/
  past : Nat
  /-- The level of all readings. -/
  level : Level
  /-- The tokens of the one, each with its like in the other one. -/
  tokens : List (Nat × Nat)

/-- Whether two tokens end at the same time. -/
structure Clockwork.Paired (clock other : Clockwork τ) (token like : Nat) : Prop where
  here : token < clock.forest.tokens.length
  there : like < other.forest.tokens.length
  deadline : other.forest.deadline? like = clock.forest.deadline? token

theorem Clockwork.Paired.lasts {clock other after after' : Clockwork τ} {token like : Nat}
    (h : clock.Paired other token like) (hlasts : clock.Lasts after) (hlasts' : other.Lasts after') :
    after.Paired after' token like where
  here := Nat.lt_of_lt_of_le h.here hlasts.tokens
  there := Nat.lt_of_lt_of_le h.there hlasts'.tokens
  deadline := by rw [hlasts.deadlines token h.here, hlasts'.deadlines like h.there, h.deadline]

theorem Clockwork.Paired.remaining? [Quantity τ] {clock other : Clockwork τ} {token like : Nat}
    (h : clock.Paired other token like) (hnow : other.now = clock.now) :
    other.remaining? like = clock.remaining? token := by
  unfold Clockwork.remaining?
  rw [h.deadline, hnow]

namespace World

/-- The calls that were made since the journal had so many entries. -/
def callsSince (past : Nat) (world : World τ σ) : List Call := callsIn (world.journal.drop past)

theorem callsSince_append {past : Nat} {before after : World τ σ} {events : List (Event τ)}
    (hpast : past ≤ before.journal.length) (h : after.journal = before.journal ++ events) :
    after.callsSince past = before.callsSince past ++ callsIn events := by
  unfold callsSince
  rw [h, List.drop_append_of_le_length hpast, callsIn_append]

variable [Quantity τ] {aspect : Aspect} {asked : Bool} {world other after after' : World τ σ}

theorem Quiet.callsSince {level : Level} (h : world.Quiet level after) {past : Nat} (hpast : past ≤ world.journal.length) :
    past ≤ after.journal.length ∧ after.callsSince past = world.callsSince past := by
  obtain ⟨events, hjournal, hcalls⟩ := h.calls
  constructor
  · rw [hjournal, List.length_append]
    omega
  · rw [callsSince_append hpast hjournal, hcalls, List.append_nil]

/-- Whether the world of a run is like that of the run with one more engine, of which `asked` tells whether
it was called. -/
structure Beside (aspect : Aspect) (asked : Bool) (world other : World τ σ) : Prop where
  same : world.Same other
  pressed : world.Pressed aspect.level
  otherPressed : other.Pressed aspect.level
  watched : other.monitor.map Monitor.watch = world.monitor.map Monitor.watch
  tokens : ∀ pair ∈ aspect.tokens, aspect.base ≤ pair.1 ∧ aspect.base ≤ pair.2 ∧
    world.clock.Paired other.clock pair.1 pair.2
  past : aspect.past ≤ world.journal.length
  otherPast : aspect.past ≤ other.journal.length
  calls : (other.callsSince aspect.past).filter (·.engine != aspect.name) = world.callsSince aspect.past
  asked : (other.callsSince aspect.past).any (·.engine == aspect.name) = asked

/-- Two worlds in which no engine is called stay beside each other when they stay the same for engines. -/
theorem Beside.quiet (h : world.Beside aspect asked other) (hquiet : world.Quiet aspect.level after)
    (hquiet' : other.Quiet aspect.level after') (hsame : after.Same after') : after.Beside aspect asked after' := by
  obtain ⟨hpast, hcalls⟩ := hquiet.callsSince h.past
  obtain ⟨hpast', hcalls'⟩ := hquiet'.callsSince h.otherPast
  refine ⟨hsame, hquiet.pressed h.pressed, hquiet'.pressed h.otherPressed, ?_, fun pair hin => ?_, hpast, hpast', ?_, ?_⟩
  · rw [hquiet'.watched, hquiet.watched, h.watched]
  · obtain ⟨hbase, hbase', hpaired⟩ := h.tokens pair hin
    exact ⟨hbase, hbase', hpaired.lasts hquiet.clock hquiet'.clock⟩
  · rw [hcalls, hcalls']
    exact h.calls
  · rw [hcalls']
    exact h.asked

theorem Beside.drifted (h : world.Beside aspect asked other) (hdrifted : world.Drifted aspect.level after)
    (hdrifted' : other.Drifted aspect.level after') : after.Beside aspect asked after' :=
  h.quiet hdrifted.toQuiet hdrifted'.toQuiet ((hdrifted.same.symm.trans h.same).trans hdrifted'.same)

/-- Two worlds are beside each other with fewer tokens, too. -/
theorem Beside.fewer {tokens : List (Nat × Nat)} (h : world.Beside { aspect with tokens := tokens } asked other)
    (hfewer : ∀ pair ∈ aspect.tokens, pair ∈ tokens) : world.Beside aspect asked other :=
  { h with tokens := fun pair hin => h.tokens pair (hfewer pair hin) }

/-- Two worlds are beside each other with one more pair of tokens that are alike. -/
theorem Beside.more (h : world.Beside aspect asked other) {token like : Nat} (hbase : aspect.base ≤ token)
    (hbase' : aspect.base ≤ like) (hpaired : world.clock.Paired other.clock token like) :
    world.Beside { aspect with tokens := (token, like) :: aspect.tokens } asked other :=
  { h with
    tokens := fun pair hin => by
      rcases List.mem_cons.mp hin with rfl | hold
      · exact ⟨hbase, hbase', hpaired⟩
      · exact h.tokens pair hold }

/-! ### Readings in both worlds -/

theorem Beside.setRunning (h : world.Beside aspect asked other) (running : Bool) :
    (Act.on (World.setRunning running) world).2.Beside aspect asked (Act.on (World.setRunning running) other).2 := by
  have hwatched : (other.monitor.map fun monitor => { monitor with running := running }).map Monitor.watch =
      (world.monitor.map fun monitor => { monitor with running := running }).map Monitor.watch := by
    have hboth := congrArg (Option.map fun watch : ResourceConfig τ × Bool => (watch.1, running)) h.watched
    rw [Option.map_map, Option.map_map] at hboth ⊢
    exact hboth
  exact { h with
    same := ⟨h.same.now, h.same.disk, h.same.benches, h.same.moment, h.same.random, h.same.outside⟩
    pressed := h.pressed.setRunning running
    otherPressed := h.otherPressed.setRunning running
    watched := hwatched }

/-- The monitors of both worlds go by the same settings, and both or neither take readings in the background. -/
theorem Beside.monitors (h : world.Beside aspect asked other) :
    ∃ monitor monitor', world.monitor = some monitor ∧ other.monitor = some monitor' ∧
      monitor'.config = monitor.config ∧ monitor'.running = monitor.running := by
  obtain ⟨monitor, hmonitor, -⟩ := h.pressed
  obtain ⟨monitor', hmonitor', -⟩ := h.otherPressed
  have hwatched := h.watched
  rw [hmonitor, hmonitor'] at hwatched
  obtain ⟨hconfig, hrunning⟩ := Prod.mk.inj (Option.some.inj hwatched)
  exact ⟨monitor, monitor', hmonitor, hmonitor', hconfig, hrunning⟩

/-- Readings start in both worlds. -/
theorem Beside.startMonitor (h : world.Beside aspect asked other) :
    ∃ after after', Act.on (World.startMonitor 0) world = (.ok (), after) ∧
      Act.on (World.startMonitor 0) other = (.ok (), after') ∧ after.Beside aspect asked after' := by
  obtain ⟨monitor, monitor', hmonitor, hmonitor', -, hrunning⟩ := h.monitors
  obtain ⟨middle, hdrifted, hon⟩ := h.pressed.on_startMonitor hmonitor
  obtain ⟨middle', hdrifted', hon'⟩ := h.otherPressed.on_startMonitor hmonitor'
  rw [hrunning] at hon'
  refine ⟨_, _, hon, hon', ?_⟩
  split
  · exact h
  · exact (h.drifted hdrifted hdrifted').setRunning true

/-- Readings end in both worlds, or are not waited for in either. -/
theorem Beside.stopMonitor (h : world.Beside aspect asked other) (longest : Option τ) :
    ∃ result after after', Act.on (World.stopMonitor longest) world = (result, after) ∧
      Act.on (World.stopMonitor longest) other = (result, after') ∧ after.Beside aspect asked after' := by
  obtain ⟨monitor, monitor', hmonitor, hmonitor', hconfig, hrunning⟩ := h.monitors
  unfold World.stopMonitor
  rw [Act.on_bind_of_ok (Act.on_get world), Act.on_bind_of_ok (Act.on_get other), hmonitor, hmonitor']
  simp only [hconfig, hrunning]
  split
  · exact ⟨_, world, other, rfl, rfl, h⟩
  · split
    · exact ⟨_, world, other, rfl, rfl, h⟩
    · exact ⟨_, _, _, rfl, rfl, h.setRunning false⟩

end World

end FixFirst
