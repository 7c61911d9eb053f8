import FixFirst.Run

/-!
# What acts come to

An act takes a world to an outcome and a world.  This module says what each of the small steps
comes to, takes sequences of steps apart, and names two ways in which a step may leave most of the
world alone: writing to the journal, and taking readings of the memory.

## Main definitions

* `Act.on`, `Change.on` — an outcome and a world, from a world.
* `World.noted` — a world with more entries in its journal.
* `World.Sampled` — only the readings of the memory differ.
* `tendJobs` — the jobs of a phase when all waiting for them is granted.
* `World.still`, `Config.small` — a small world and small settings, for examples.

## Main statements

* `Act.on_bind_ok` — a sequence succeeds when both of its parts do.
* `World.budgeted_ok` — work under a token of its own: opened, done, released.
* `runJobs_cases` — the jobs of a phase come to outcomes, or the wait for some of them was refused.
-/

namespace FixFirst

variable {τ σ α β : Type}

/-- What an act comes to in a world. -/
def Act.on (act : Act τ σ α) (world : World τ σ) : Except Fault α × World τ σ := act.run.run world

/-- What a change comes to in a world. -/
def Change.on (change : Change τ σ α) (world : World τ σ) : α × World τ σ := change.run world

namespace Change

@[simp] theorem on_pure (value : α) (world : World τ σ) :
    Change.on (pure value) world = (value, world) := rfl

@[simp] theorem on_bind (change : Change τ σ α) (next : α → Change τ σ β) (world : World τ σ) :
    Change.on (change >>= next) world =
      Change.on (next (Change.on change world).1) (Change.on change world).2 := rfl

@[simp] theorem on_get (world : World τ σ) : Change.on get world = (world, world) := rfl

@[simp] theorem on_log (event : Event τ) (world : World τ σ) :
    Change.on (World.log event) world = ((), { world with journal := world.journal ++ [event] }) := rfl

@[simp] theorem on_askClock (question : Clockwork τ → α) (world : World τ σ) :
    Change.on (World.askClock question) world = (question world.clock, world) := rfl

@[simp] theorem on_now (world : World τ σ) : Change.on World.now world = (world.clock.now, world) := rfl

@[simp] theorem on_isCancelled (token : Nat) (world : World τ σ) :
    Change.on (World.isCancelled token) world = (world.clock.forest.isCancelled token, world) := rfl

@[simp] theorem on_moveClock (step : Clockwork τ → Clockwork τ) (world : World τ σ) :
    Change.on (World.moveClock step) world = ((), { world with clock := step world.clock }) := rfl

end Change

namespace Act

@[simp] theorem on_pure (value : α) (world : World τ σ) :
    Act.on (pure value) world = (.ok value, world) := rfl

@[simp] theorem on_throw (fault : Fault) (world : World τ σ) :
    Act.on (throw fault : Act τ σ α) world = (.error fault, world) := rfl

theorem on_bind (act : Act τ σ α) (next : α → Act τ σ β) (world : World τ σ) :
    (act >>= next).on world =
      match act.on world with
      | (.ok value, middle) => (next value).on middle
      | (.error fault, middle) => (.error fault, middle) := by
  change (match act.run.run world with
    | (outcome, middle) => (ExceptT.bindCont next outcome).run middle) = _
  rcases h : act.run.run world with ⟨outcome, middle⟩
  have hon : act.on world = (outcome, middle) := h
  rw [hon]
  cases outcome <;> rfl

/-- A sequence succeeds when its first part does, and the second one does in the world that the
first one left. -/
theorem on_bind_ok {act : Act τ σ α} {next : α → Act τ σ β} {world after : World τ σ} {value : β} :
    (act >>= next).on world = (.ok value, after) ↔
      ∃ first middle, act.on world = (.ok first, middle) ∧ (next first).on middle = (.ok value, after) := by
  rw [on_bind]
  rcases h : act.on world with ⟨outcome, middle⟩
  cases outcome with
  | ok first =>
      constructor
      · intro hnext
        exact ⟨first, middle, rfl, hnext⟩
      · rintro ⟨first', middle', heq, hnext⟩
        cases heq
        exact hnext
  | error fault =>
      constructor
      · intro hnext
        cases hnext
      · rintro ⟨first', middle', heq, -⟩
        cases heq

/-- A sequence fails when its first part does, or when the second one does after the first. -/
theorem on_bind_error {act : Act τ σ α} {next : α → Act τ σ β} {world after : World τ σ} {fault : Fault}
    (h : (act >>= next).on world = (.error fault, after)) :
    act.on world = (.error fault, after) ∨
      ∃ value middle, act.on world = (.ok value, middle) ∧ (next value).on middle = (.error fault, after) := by
  rw [on_bind] at h
  rcases hon : act.on world with ⟨outcome, middle⟩
  rw [hon] at h
  cases outcome with
  | ok value => exact Or.inr ⟨value, middle, rfl, h⟩
  | error cause =>
      cases h
      exact Or.inl rfl

/-- After a first part that succeeds, a sequence is its second part. -/
theorem on_bind_of_ok {act : Act τ σ α} {next : α → Act τ σ β} {world middle : World τ σ} {value : α}
    (h : act.on world = (.ok value, middle)) : (act >>= next).on world = (next value).on middle := by
  rw [on_bind, h]

@[simp] theorem on_map (f : α → β) (act : Act τ σ α) (world : World τ σ) :
    (f <$> act).on world = ((act.on world).1.map f, (act.on world).2) := by
  have hmap : f <$> act = act >>= fun value => pure (f value) := rfl
  rw [hmap, on_bind]
  rcases h : act.on world with ⟨outcome, middle⟩
  cases outcome <;> rfl

@[simp] theorem on_lift (change : Change τ σ α) (world : World τ σ) :
    Act.on (liftM change : Act τ σ α) world = (.ok (Change.on change world).1, (Change.on change world).2) := rfl

@[simp] theorem on_ofExcept (result : Except Fault α) (world : World τ σ) :
    (Act.ofExcept result : Act τ σ α).on world = (result, world) := by
  cases result <;> rfl

@[simp] theorem on_get (world : World τ σ) : Act.on get world = (.ok world, world) := rfl

@[simp] theorem on_set (next world : World τ σ) : Act.on (set next) world = (.ok (), next) := rfl

@[simp] theorem on_modify (f : World τ σ → World τ σ) (world : World τ σ) :
    Act.on (modify f) world = (.ok (), f world) := rfl

@[simp] theorem on_log (event : Event τ) (world : World τ σ) :
    Act.on (World.log event) world = (.ok (), { world with journal := world.journal ++ [event] }) := rfl

@[simp] theorem on_askClock (question : Clockwork τ → α) (world : World τ σ) :
    Act.on (World.askClock question) world = (.ok (question world.clock), world) := rfl

@[simp] theorem on_now (world : World τ σ) : Act.on World.now world = (.ok world.clock.now, world) := rfl

@[simp] theorem on_isCancelled (token : Nat) (world : World τ σ) :
    Act.on (World.isCancelled token) world = (.ok (world.clock.forest.isCancelled token), world) := rfl

@[simp] theorem on_onClock (step : Clockwork τ → α × Clockwork τ) (world : World τ σ) :
    Act.on (World.onClock step) world =
      (.ok (step world.clock).1, { world with clock := (step world.clock).2 }) := rfl

@[simp] theorem on_onBench (engine : String) (change : Workbench → Workbench) (world : World τ σ) :
    Act.on (World.onBench engine change) world =
      (.ok (), { world with benches := world.benches.put engine (change (world.bench engine)) }) := rfl

@[simp] theorem on_setRunning (running : Bool) (world : World τ σ) :
    Act.on (World.setRunning running) world =
      (.ok (), { world with monitor := world.monitor.map fun monitor => { monitor with running := running } }) := rfl

@[simp] theorem on_thenAlways (act : Act τ σ α) (after : Change τ σ Unit) (world : World τ σ) :
    (act.thenAlways after).on world = ((act.on world).1, (Change.on after (act.on world).2).2) := rfl

@[simp] theorem on_ensuring (act : Act τ σ α) (after : Act τ σ Unit) (world : World τ σ) :
    (act.ensuring after).on world =
      (match (after.on (act.on world).2).1 with
        | .ok _ => (act.on world).1
        | .error fault => .error fault,
        (after.on (act.on world).2).2) := by
  change Change.on (match (after.on (act.on world).2).1 with
    | .ok _ => pure (act.on world).1
    | .error fault => pure (.error fault)) (after.on (act.on world).2).2 = _
  cases (after.on (act.on world).2).1 <;> rfl

/-- Both acts succeed if one after the other does. -/
theorem on_ensuring_ok {act : Act τ σ α} {after : Act τ σ Unit} {world last : World τ σ} {value : α} :
    (act.ensuring after).on world = (.ok value, last) ↔
      ∃ middle, act.on world = (.ok value, middle) ∧ after.on middle = (.ok (), last) := by
  rw [on_ensuring]
  rcases act.on world with ⟨outcome, middle⟩
  constructor
  · intro h
    obtain ⟨hvalue, hlast⟩ := Prod.mk.inj h
    cases hended : (after.on middle).1 with
    | error fault =>
        rw [hended] at hvalue
        cases hvalue
    | ok done =>
        rw [hended] at hvalue
        exact ⟨middle, Prod.ext hvalue rfl, Prod.ext hended hlast⟩
  · rintro ⟨middle', hfirst, hafter⟩
    cases hfirst
    rw [hafter]

@[simp] theorem on_attempt (act : Act τ σ α) (world : World τ σ) :
    act.attempt.on world = (.ok (act.on world).1, (act.on world).2) := rfl

end Act

namespace World

/-! ### The journal -/

/-- A world with more entries in its journal. -/
def noted (world : World τ σ) (events : List (Event τ)) : World τ σ :=
  { world with journal := world.journal ++ events }

@[simp] theorem noted_nil (world : World τ σ) : world.noted [] = world := by simp [noted]

@[simp] theorem noted_noted (world : World τ σ) (first second : List (Event τ)) :
    (world.noted first).noted second = world.noted (first ++ second) := by
  simp [noted]

@[simp] theorem clock_noted (world : World τ σ) (events : List (Event τ)) :
    (world.noted events).clock = world.clock := rfl
@[simp] theorem disk_noted (world : World τ σ) (events : List (Event τ)) :
    (world.noted events).disk = world.disk := rfl
@[simp] theorem journal_noted (world : World τ σ) (events : List (Event τ)) :
    (world.noted events).journal = world.journal ++ events := rfl

/-- A warning is an entry in the journal, or nothing. -/
theorem on_warn (output : OutputConfig) (message : String) (world : World τ σ) :
    ∃ events, Act.on (output.warn message) world = (.ok (), world.noted events) ∧
      ∀ event ∈ events, event = .warned message := by
  unfold OutputConfig.warn
  by_cases hq : output.quiet = true
  · refine ⟨[], ?_, by simp⟩
    rw [if_pos hq, noted_nil]
    rfl
  · refine ⟨[.warned message], ?_, by simp⟩
    rw [if_neg hq]
    rfl

@[simp] theorem on_remark (message : String) (world : World τ σ) :
    Act.on (remark message) world = (.ok (), world.noted [.debug message]) := rfl

/-! ### Readings -/

/-- Whether a world is another one after readings of the memory were taken; the settings of its monitor stay. -/
def Sampled (before after : World τ σ) : Prop :=
  ∃ monitor readings, monitor.map Monitor.config = before.monitor.map Monitor.config ∧
    after = { before with monitor := monitor, readings := readings }

theorem Sampled.refl (world : World τ σ) : world.Sampled world := ⟨world.monitor, world.readings, rfl, rfl⟩

theorem Sampled.trans {first second third : World τ σ} (h : first.Sampled second)
    (h' : second.Sampled third) : first.Sampled third := by
  obtain ⟨monitor, readings, hconfig, rfl⟩ := h
  obtain ⟨monitor', readings', hconfig', rfl⟩ := h'
  exact ⟨monitor', readings', hconfig'.trans hconfig, rfl⟩

theorem Sampled.journal {before after : World τ σ} (h : before.Sampled after) : after.journal = before.journal := by
  obtain ⟨monitor, readings, -, rfl⟩ := h
  rfl

theorem Sampled.clock {before after : World τ σ} (h : before.Sampled after) : after.clock = before.clock := by
  obtain ⟨monitor, readings, -, rfl⟩ := h
  rfl

theorem Sampled.disk {before after : World τ σ} (h : before.Sampled after) : after.disk = before.disk := by
  obtain ⟨monitor, readings, -, rfl⟩ := h
  rfl

theorem sampled_setRunning (running : Bool) (world : World τ σ) :
    world.Sampled (Act.on (setRunning running) world).2 := by
  refine ⟨_, world.readings, ?_, rfl⟩
  cases world.monitor <;> rfl

/-- Only what is done before a pure last step changes the world. -/
theorem sampled_bind_pure {act : Act τ σ α} {world : World τ σ} (f : α → β)
    (h : world.Sampled (act.on world).2) :
    world.Sampled (Act.on (act >>= fun value => pure (f value)) world).2 := by
  rw [Act.on_bind]
  rcases hon : act.on world with ⟨outcome, middle⟩
  rw [hon] at h
  cases outcome <;> exact h

variable [Quantity τ]

theorem sampled_sample (world : World τ σ) : world.Sampled (Act.on sample world).2 := by
  unfold sample
  rw [Act.on_bind_of_ok (Act.on_get world)]
  cases hm : world.monitor with
  | none => exact Sampled.refl world
  | some monitor =>
      rw [Act.on_bind_of_ok (Act.on_set _ world)]
      simp only [Act.on_map, Act.on_ofExcept]
      refine ⟨some (monitor.sample world.clock.now (world.memory world.readings)).2, world.readings + 1, ?_, rfl⟩
      rw [hm, Option.map_some, Option.map_some, Monitor.config_sample]

theorem sampled_background (count : Nat) (world : World τ σ) : world.Sampled (Act.on (background count) world).2 := by
  induction count generalizing world with
  | zero => exact Sampled.refl world
  | succ count ih =>
      unfold background
      rw [Act.on_bind_of_ok (Act.on_attempt sample world)]
      exact (sampled_sample world).trans (ih _)

/-- Readings in the background do not fail. -/
theorem on_background (count : Nat) (world : World τ σ) :
    Act.on (background count) world = (.ok (), (Act.on (background count) world).2) := by
  induction count generalizing world with
  | zero => rfl
  | succ count ih =>
      unfold background
      rw [Act.on_bind_of_ok (Act.on_attempt sample world)]
      exact ih _

theorem sampled_latest (world : World τ σ) : world.Sampled (Act.on latest world).2 := by
  unfold latest
  rw [Act.on_bind_of_ok (Act.on_get world), Act.on_bind_of_ok (on_background _ world),
    Act.on_bind_of_ok (Act.on_get _)]
  have hahead := sampled_background (world.meanwhile world.readings) world
  split
  · exact hahead
  · exact hahead.trans (sampled_sample _)

theorem sampled_pressure (world : World τ σ) : world.Sampled (Act.on pressure world).2 :=
  sampled_bind_pure _ (sampled_sample world)

theorem sampled_level (world : World τ σ) : world.Sampled (Act.on level world).2 :=
  sampled_bind_pure _ (sampled_latest world)

theorem sampled_size (config : BatchConfig τ) (world : World τ σ) :
    world.Sampled (Act.on config.size world).2 :=
  sampled_bind_pure _ (sampled_latest world)

theorem sampled_workers (runner : Runner τ σ) (world : World τ σ) :
    world.Sampled (Act.on runner.workers world).2 :=
  sampled_bind_pure _ (sampled_level world)

theorem sampled_outlook {config : BatchConfig τ} {token : Nat} {budget : Option (Amount τ)}
    {world after : World τ σ} {view : Outlook τ}
    (h : (config.outlook token budget).on world = (.ok view, after)) : world.Sampled after := by
  obtain ⟨level, middle, hp, h⟩ := Act.on_bind_ok.mp h
  obtain ⟨size, middle', hs, h⟩ := Act.on_bind_ok.mp h
  obtain ⟨left, middle'', hl, h⟩ := Act.on_bind_ok.mp h
  have hfirst : world.Sampled middle := by simpa [hp] using sampled_pressure world
  have hsecond : middle.Sampled middle' := by simpa [hs] using sampled_size config middle
  simp only [Act.on_askClock, Prod.mk.injEq, Except.ok.injEq] at hl
  obtain ⟨-, rfl⟩ := hl
  obtain ⟨imminent, last, hi, h⟩ := Act.on_bind_ok.mp h
  cases h
  rw [Act.on_ofExcept] at hi
  rw [← (Prod.mk.inj hi).2]
  exact hfirst.trans hsecond

theorem sampled_startMonitor {world after : World τ σ}
    (h : Act.on (startMonitor 0) world = (.ok (), after)) : world.Sampled after := by
  unfold startMonitor at h
  rw [Act.on_bind_of_ok (Act.on_get world)] at h
  cases hm : world.monitor with
  | none =>
      rw [hm] at h
      cases h
      exact Sampled.refl world
  | some monitor =>
      rw [hm] at h
      by_cases hr : monitor.running = true
      · simp only [hr, if_true] at h
        cases h
        exact Sampled.refl world
      · simp only [hr, Bool.false_eq_true, if_false] at h
        obtain ⟨sampled, middle, hs, h⟩ := Act.on_bind_ok.mp h
        have hfirst : world.Sampled middle := by simpa [hs] using sampled_sample world
        rw [Act.on_bind_of_ok (Act.on_setRunning true middle)] at h
        cases h
        exact hfirst.trans (sampled_setRunning true middle)

theorem sampled_stopMonitor (longest : Option τ) (world : World τ σ) :
    world.Sampled (Act.on (stopMonitor longest) world).2 := by
  unfold stopMonitor
  rw [Act.on_bind_of_ok (Act.on_get world)]
  cases hm : world.monitor with
  | none => exact Sampled.refl world
  | some monitor =>
      simp only
      split
      · exact Sampled.refl world
      · split
        · exact Sampled.refl world
        · exact sampled_setRunning false world

/-- Ending the readings changes at most what the monitor says of them. -/
theorem stopMonitor_world (longest : Option τ) (world : World τ σ) :
    (Act.on (stopMonitor longest) world).2 = world ∨
      (Act.on (stopMonitor longest) world).2 =
        { world with monitor := world.monitor.map fun monitor => { monitor with running := false } } := by
  unfold stopMonitor
  rw [Act.on_bind_of_ok (Act.on_get world)]
  cases hm : world.monitor with
  | none => exact Or.inl rfl
  | some monitor =>
      simp only
      split
      · exact Or.inl rfl
      · split
        · exact Or.inl rfl
        · rw [Act.on_setRunning, hm]
          exact Or.inr rfl

/-- What ends the readings fails only because it is not waited for. -/
theorem stopMonitor_error {longest : Option τ} {world : World τ σ} {fault : Fault}
    (h : (Act.on (stopMonitor longest) world).1 = .error fault) :
    fault = refusedWait ∧ ∃ monitor, world.monitor = some monitor ∧
      grants longest (monitor.config.interval * Quantity.ofNat 2) = false := by
  unfold stopMonitor at h
  rw [Act.on_bind_of_ok (Act.on_get world)] at h
  cases hm : world.monitor with
  | none =>
      rw [hm] at h
      cases h
  | some monitor =>
      rw [hm] at h
      simp only at h
      split at h
      · cases h
      · split at h
        · rename_i hrefused
          cases h
          exact ⟨rfl, monitor, rfl, by simpa using hrefused⟩
        · cases h

/-! ### Work under a token of its own -/

/-- Work under a token of its own: the token is opened, the work is done under it, the token is
released; whether it overran is asked afterwards. -/
theorem budgeted_ok {token : Nat} {budget : τ} {work : Nat → Act τ σ α} {world after : World τ σ}
    {result : α} {overran : Bool}
    (h : (budgeted token budget work).on world = (.ok (result, overran), after)) :
    ∃ own opened done, world.clock.scopeToken token (some budget) = (own, opened) ∧
      (work own).on { world with clock := opened } = (.ok result, done) ∧
      after = { done with clock := done.clock.release own } ∧
      overran = (after.clock.forest.timedOut own && !after.clock.expired token) := by
  obtain ⟨own, first, ho, h⟩ := Act.on_bind_ok.mp h
  obtain ⟨result', second, hw, h⟩ := Act.on_bind_ok.mp h
  simp only [Act.on_onClock, Prod.mk.injEq, Except.ok.injEq] at ho
  obtain ⟨rfl, rfl⟩ := ho
  rw [Act.on_thenAlways, Change.on_moveClock] at hw
  obtain ⟨hres, rfl⟩ := Prod.mk.inj hw
  obtain ⟨hout, rfl⟩ := Prod.mk.inj h
  obtain ⟨rfl, rfl⟩ := Prod.mk.inj (Except.ok.inj hout)
  exact ⟨_, _, _, rfl, Prod.ext hres rfl, rfl, rfl⟩

theorem on_budgeted {token own : Nat} {budget : τ} {work : Nat → Act τ σ α} {world done : World τ σ}
    {opened : Clockwork τ} {result : α}
    (ho : world.clock.scopeToken token (some budget) = (own, opened))
    (hw : (work own).on { world with clock := opened } = (.ok result, done)) :
    (budgeted token budget work).on world =
      (.ok (result, (done.clock.release own).forest.timedOut own && !(done.clock.release own).expired token),
        { done with clock := done.clock.release own }) := by
  refine Act.on_bind_ok.mpr ⟨own, { world with clock := opened }, ?_, ?_⟩
  · rw [Act.on_onClock, ho]
  refine Act.on_bind_ok.mpr ⟨result, { done with clock := done.clock.release own }, ?_, rfl⟩
  rw [Act.on_thenAlways, hw]
  rfl

end World

/-! ### Jobs -/

section

variable [Quantity τ]

/-- What jobs side by side come to when all waiting for them is granted. -/
def tendParallel (schedule : Schedule) (token : Nat) (jobs : List (Job τ σ)) : Change τ σ (List (Outcome τ)) := do
  settleAll (← await token schedule.grace schedule.polls (jobs.map .waiting))

/-- What the jobs of a phase come to when all waiting for them is granted. -/
def tendJobs (schedule : List (Job τ σ) → World τ σ → Schedule) (token workers : Nat) (serial : Bool)
    (jobs : List (Job τ σ)) : Change τ σ (List (Outcome τ)) := do
  if serial || workers ≤ 1 || jobs.length ≤ 1 then runSerial token jobs
  else
    World.log (.pool (min workers jobs.length))
    tendParallel (schedule jobs (← get)) token jobs

/-- In what order jobs come back, in no more time of grace than the system grants. -/
def Runner.granted (runner : Runner τ σ) (jobs : List (Job τ σ)) (world : World τ σ) : Schedule :=
  (runner.schedule jobs world).within runner.grantsGrace

variable {granted serial : Bool} {schedule : List (Job τ σ) → World τ σ → Schedule} {token workers : Nat}
  {jobs : List (Job τ σ)} {world after : World τ σ}

/-- The jobs of a phase come to what they come to when waiting is granted, with no time of grace if that is not; or the
wait for some of them was refused. -/
theorem runJobs_cases (granted : Bool) (schedule : List (Job τ σ) → World τ σ → Schedule) (token workers : Nat)
    (serial : Bool) (jobs : List (Job τ σ)) (world : World τ σ) :
    (∃ outcomes after, (runJobs granted schedule token workers serial jobs).on world = (.ok outcomes, after) ∧
      Change.on (tendJobs (fun jobs world => (schedule jobs world).within granted) token workers serial jobs) world =
        (outcomes, after)) ∨
      granted = false ∧ serial = false ∧ ∃ order slots after,
        (runJobs granted schedule token workers serial jobs).on world = (.error World.refusedWait, after) ∧
        Change.on (await token [] order (jobs.map .waiting)) (world.noted [.pool (min workers jobs.length)]) =
          (slots, after) ∧ after.clock.forest.isCancelled token = true := by
  unfold runJobs tendJobs
  by_cases hserial : (serial || workers ≤ 1 || jobs.length ≤ 1) = true
  · rw [if_pos hserial, if_pos hserial, Act.on_lift]
    exact Or.inl ⟨_, _, rfl, rfl⟩
  · rw [if_neg hserial, if_neg hserial, Act.on_bind_of_ok (Act.on_log _ world), Act.on_bind_of_ok (Act.on_get _)]
    simp only [Change.on_bind, Change.on_log, Change.on_get]
    have hpool : world.noted [.pool (min workers jobs.length)] =
        { world with journal := world.journal ++ [.pool (min workers jobs.length)] } := rfl
    rw [← hpool]
    generalize world.noted [.pool (min workers jobs.length)] = begun
    unfold runParallel tendParallel
    simp only
    rw [Change.on_bind, Act.on_bind_of_ok (Act.on_lift _ begun)]
    rcases hawait : Change.on (await token ((schedule jobs begun).within granted).grace
      ((schedule jobs begun).within granted).polls (jobs.map .waiting)) begun with ⟨slots, middle⟩
    simp only
    rw [Act.on_bind_of_ok (Act.on_isCancelled token middle)]
    by_cases hrefused : (!granted && !slots.all Slot.isBack && middle.clock.forest.isCancelled token) = true
    · obtain ⟨hwaited, hcancelled⟩ := Bool.and_eq_true_iff.mp hrefused
      obtain ⟨hgranted, -⟩ := Bool.and_eq_true_iff.mp hwaited
      obtain rfl : granted = false := by simpa using hgranted
      obtain ⟨⟨hside, -⟩, -⟩ : (serial = false ∧ _) ∧ _ := by simpa using hserial
      refine Or.inr ⟨rfl, hside, (schedule jobs begun).polls, slots, middle, ?_, hawait, hcancelled⟩
      simp only [if_pos hrefused]
      rfl
    · refine Or.inl ⟨(Change.on (settleAll slots) middle).1, (Change.on (settleAll slots) middle).2, ?_, rfl⟩
      simp only [if_neg hrefused]
      rfl

/-- Jobs that came to outcomes. -/
theorem runJobs_ok {outcomes : List (Outcome τ)}
    (h : (runJobs granted schedule token workers serial jobs).on world = (.ok outcomes, after)) :
    Change.on (tendJobs (fun jobs world => (schedule jobs world).within granted) token workers serial jobs) world =
      (outcomes, after) := by
  rcases runJobs_cases granted schedule token workers serial jobs world with
    ⟨known, seen, hon, htended⟩ | ⟨-, -, order, slots, seen, hon, -⟩
  · cases h.symm.trans hon
    exact htended
  · cases h.symm.trans hon

end

namespace World

/-! ### A world to try things in -/

/-- A world in which nothing happened yet: one token, exact times, and no monitor. -/
def still {σ : Type} (disk : Disk) (outside : σ) : World Rat σ where
  clock := (Clockwork.starting 0).plain none none |>.2
  disk := disk
  memory _ := 0
  readings := 0
  meanwhile _ := 0
  monitor := none
  benches := []
  journal := []
  moment := 0
  random := ""
  outside := outside

end World

/-- Settings for small runs: fixing one engine after the other, thirty seconds, and no limits of memory. -/
def Config.small : Config Rat where
  execution := ⟨1, 30, true, true, false, false, false, .warning, 1, 1 / 10, Path.rooted []⟩
  batching := ⟨100, 1, 10, 0, 2, 0⟩
  resources := ⟨false, 1024, 1, 5, 1, 2⟩
  output := ⟨false, false, true⟩
  engines := []

end FixFirst
