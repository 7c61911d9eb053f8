import FixFirst.Proofs.Batch.Conservation
import FixFirst.Proofs.Run.Calls

/-!
# What acts write to the journal

Most of what a run does calls no engine.  An act is described by what holds between the world before it
and the world after it, whatever comes of it; such relations are kept by sequences of acts.

## Main definitions

* `World.Plain`, `World.Silent`, `World.Uncalled` — no calls and no commands, no calls and no commands but
  by engines, and no calls.
* `Act.Keeps` — an act that leads to a world related to the one before, whatever comes of it.
* `Shell.Quiet` — a shell that leaves the journal to those who give it commands.

## Main statements

* `Act.Keeps.bind` — what both parts of a sequence keep, the sequence keeps.
* `Runner.silent_setUp`, `Runner.uncalled_conclude` — no engine is called before the phases of a run, and
  none after them.
-/

namespace FixFirst

variable {τ σ α β : Type}

/-! ### Relations between worlds -/

/-- Whether nothing was written to the journal but entries that are neither calls nor commands. -/
def World.Plain (before after : World τ σ) : Prop :=
  ∃ events, after.journal = before.journal ++ events ∧ ∀ event ∈ events, event.Plain

/-- Whether no engine was called, and no command was given but by engines. -/
def World.Silent (before after : World τ σ) : Prop := before.Called after []

/-- Whether no engine was called. -/
def World.Uncalled (before after : World τ σ) : Prop :=
  ∃ events, after.journal = before.journal ++ events ∧ callsIn events = []

instance : Trans (World.Plain (τ := τ) (σ := σ)) (World.Plain (τ := τ) (σ := σ)) (World.Plain (τ := τ) (σ := σ)) where
  trans := by
    rintro first second third ⟨events, hjournal, hplain⟩ ⟨more, hjournal', hplain'⟩
    refine ⟨events ++ more, ?_, fun event hin => ?_⟩
    · rw [hjournal', hjournal, List.append_assoc]
    · exact (List.mem_append.mp hin).elim (hplain event) (hplain' event)

instance : Trans (World.Silent (τ := τ) (σ := σ)) (World.Silent (τ := τ) (σ := σ)) (World.Silent (τ := τ) (σ := σ)) where
  trans := World.Called.after_none

instance : Trans (World.Uncalled (τ := τ) (σ := σ)) (World.Uncalled (τ := τ) (σ := σ))
    (World.Uncalled (τ := τ) (σ := σ)) where
  trans := by
    rintro first second third ⟨events, hjournal, hcalls⟩ ⟨more, hjournal', hcalls'⟩
    refine ⟨events ++ more, ?_, ?_⟩
    · rw [hjournal', hjournal, List.append_assoc]
    · rw [callsIn_append, hcalls, hcalls', List.append_nil]

theorem World.Plain.of_journal {before after : World τ σ} (h : after.journal = before.journal) : before.Plain after :=
  ⟨[], by rw [h, List.append_nil], by simp⟩

theorem World.Plain.silent {before after : World τ σ} (h : before.Plain after) : before.Silent after := by
  obtain ⟨events, hjournal, hplain⟩ := h
  exact ⟨events, hjournal, callsIn_plain hplain, .of_plain hplain⟩

theorem World.Silent.uncalled {before after : World τ σ} (h : before.Silent after) : before.Uncalled after := by
  obtain ⟨events, hjournal, hcalls, -⟩ := h
  exact ⟨events, hjournal, hcalls⟩

/-! ### Acts -/

namespace Act

/-- Whether an act leaves every world related to the one before, whatever comes of it. -/
def Keeps (R : World τ σ → World τ σ → Prop) (act : Act τ σ α) : Prop := ∀ world, R world (act.on world).2

theorem Keeps.bind {R : World τ σ → World τ σ → Prop} [Trans R R R] {act : Act τ σ α} {next : α → Act τ σ β}
    (h : act.Keeps R) (hnext : ∀ value, (next value).Keeps R) : (act >>= next).Keeps R := by
  intro world
  have hfirst := h world
  rw [on_bind]
  rcases hon : act.on world with ⟨outcome, middle⟩
  rw [hon] at hfirst
  cases outcome with
  | ok value => exact Trans.trans hfirst (hnext value middle)
  | error fault => exact hfirst

theorem Keeps.of_on {R : World τ σ → World τ σ → Prop} {act : Act τ σ α} (h : act.Keeps R)
    {outcome : Except Fault α} {world after : World τ σ} (hon : act.on world = (outcome, after)) : R world after := by
  have hkeeps := h world
  rwa [hon] at hkeeps

/-- After a silent first part, the calls of a sequence are those of its second part. -/
theorem Keeps.called_bind {act : Act τ σ α} {next : α → Act τ σ β} {P : List Call → Prop} (h : act.Keeps World.Silent)
    (hnone : P []) (hnext : ∀ value (middle : World τ σ), ∃ calls, middle.Called ((next value).on middle).2 calls ∧ P calls)
    (world : World τ σ) : ∃ calls, world.Called ((act >>= next).on world).2 calls ∧ P calls := by
  rw [on_bind]
  rcases hon : act.on world with ⟨outcome, middle⟩
  cases outcome with
  | ok value =>
      obtain ⟨calls, hcalled, hcalls⟩ := hnext value middle
      exact ⟨calls, (h.of_on hon).after_none hcalled, hcalls⟩
  | error fault => exact ⟨[], h.of_on hon, hnone⟩

theorem Keeps.silent {act : Act τ σ α} (h : act.Keeps World.Plain) : act.Keeps World.Silent :=
  fun world => (h world).silent

theorem Keeps.uncalled {act : Act τ σ α} (h : act.Keeps World.Plain) : act.Keeps World.Uncalled :=
  fun world => (h world).silent.uncalled

theorem plain_of_journal {act : Act τ σ α} (h : ∀ world, (act.on world).2.journal = world.journal) :
    act.Keeps World.Plain :=
  fun world => .of_journal (h world)

theorem plain_pure (value : α) : (pure value : Act τ σ α).Keeps World.Plain := plain_of_journal fun _ => rfl

theorem plain_throw (fault : Fault) : (throw fault : Act τ σ α).Keeps World.Plain := plain_of_journal fun _ => rfl

theorem plain_get : (get : Act τ σ (World τ σ)).Keeps World.Plain := plain_of_journal fun _ => rfl

theorem plain_ofExcept (result : Except Fault α) : (ofExcept result : Act τ σ α).Keeps World.Plain :=
  plain_of_journal fun world => by rw [on_ofExcept]

theorem plain_askClock (question : Clockwork τ → α) : (World.askClock question : Act τ σ α).Keeps World.Plain :=
  plain_of_journal fun _ => rfl

theorem plain_onClock (step : Clockwork τ → α × Clockwork τ) : (World.onClock step : Act τ σ α).Keeps World.Plain :=
  plain_of_journal fun _ => rfl

theorem plain_sampled {act : Act τ σ α} (h : ∀ world : World τ σ, world.Sampled (act.on world).2) :
    act.Keeps World.Plain :=
  fun world => .of_journal (h world).journal

theorem plain_log (event : Event τ) (h : event.Plain) : (World.log event : Act τ σ Unit).Keeps World.Plain := by
  refine fun world => ⟨[event], rfl, fun other hin => ?_⟩
  rw [List.mem_singleton.mp hin]
  exact h

theorem plain_remark (message : String) : (remark message : Act τ σ Unit).Keeps World.Plain :=
  plain_log (.debug message) trivial

theorem plain_said {act : Act τ σ α}
    (h : ∀ world, ∃ value events, act.on world = (.ok value, world.noted events) ∧ ∀ event ∈ events, event.Spoken) :
    act.Keeps World.Plain := by
  intro world
  obtain ⟨value, events, hon, hspoken⟩ := h world
  rw [hon]
  exact ⟨events, rfl, fun event hin => (hspoken event hin).plain⟩

end Act

open Act

theorem OutputConfig.plain_warnIf (output : OutputConfig) (reason : Bool) (message : String) :
    (output.warnIf reason message : Act τ σ Unit).Keeps World.Plain :=
  plain_said fun world => ⟨(), World.on_warnIf output reason message world⟩

theorem Course.plain_enter (course : Course τ) (phase : Phase) :
    (course.enter phase : Act τ σ (Course τ)).Keeps World.Plain := by
  unfold enter
  split
  · exact plain_pure course
  · split
    · exact plain_throw _
    · exact (plain_remark _).bind fun _ => (plain_log (.entered phase) trivial).bind fun _ => plain_pure _

theorem Course.plain_wrapUp (course : Course τ) (id : String) (cancelled : Bool) (reason : Option String) :
    (course.wrapUp id cancelled reason : Act τ σ (Course τ)).Keeps World.Plain := by
  unfold wrapUp
  split
  · exact (plain_remark _).bind fun _ => plain_pure _
  · exact plain_enter course .aggregate

theorem BatchConfig.plain_queue (files : List String) (critical : Option (List String)) :
    (BatchConfig.queue files critical : Act τ σ (List Ranked)).Keeps World.Plain :=
  plain_of_journal fun world => by rw [BatchConfig.on_queue]

variable [Quantity τ]

theorem World.plain_startMonitor : (World.startMonitor 0 : Act τ σ Unit).Keeps World.Plain := by
  refine plain_get.bind fun world => ?_
  split
  · exact plain_pure ()
  · split
    · exact plain_pure ()
    · exact (plain_sampled World.sampled_sample).bind fun _ =>
        (plain_of_journal fun _ => rfl).bind fun _ => plain_pure ()

theorem BatchConfig.plain_outlook (config : BatchConfig τ) (token : Nat) (budget : Option (Amount τ)) :
    (config.outlook token budget : Act τ σ (Outlook τ)).Keeps World.Plain :=
  (plain_sampled World.sampled_pressure).bind fun _ => (plain_sampled (World.sampled_size config)).bind fun _ =>
    (plain_askClock _).bind fun _ => (plain_ofExcept _).bind fun _ => plain_pure _

theorem BatchConfig.plain_admission (config : BatchConfig τ) (files : List String) (critical : Option (List String))
    (token : Nat) : (config.admission files critical token : Act τ σ (Admission τ)).Keeps World.Plain :=
  (BatchConfig.plain_queue files critical).bind fun _ => (plain_sampled World.sampled_pressure).bind fun _ =>
    (plain_askClock _).bind fun _ => plain_pure _

/-- Work under a token of its own makes the calls that the work makes. -/
theorem World.called_budgeted {P : List Call → Prop} (token : Nat) (budget : τ) (work : Nat → Act τ σ α)
    (h : ∀ own (opened : World τ σ), ∃ calls, opened.Called ((work own).on opened).2 calls ∧ P calls) (world : World τ σ) :
    ∃ calls, world.Called ((World.budgeted token budget work).on world).2 calls ∧ P calls := by
  obtain ⟨calls, hcalled, hcalls⟩ := h (world.clock.scopeToken token (some budget)).1
    { world with clock := (world.clock.scopeToken token (some budget)).2 }
  refine ⟨calls, ?_, hcalls⟩
  unfold World.budgeted
  rw [Act.on_bind_of_ok (Act.on_onClock _ world), Act.on_bind, Act.on_thenAlways]
  -- Only the clock is changed before and after the work.
  rcases hdone : (work (world.clock.scopeToken token (some budget)).1).on
    { world with clock := (world.clock.scopeToken token (some budget)).2 } with ⟨outcome, done⟩
  rw [hdone] at hcalled
  cases outcome with
  | ok value => exact hcalled
  | error fault => exact hcalled

namespace Runner

variable {runner : Runner τ σ}

omit [Quantity τ] in
/-- Preparing engines calls none of them. -/
theorem silent_prepare (hdiscreet : ∀ engine ∈ runner.engines, engine.Discreet) (fingerprints : Keyed String)
    (world : World τ σ) : world.Silent (Change.on (runner.prepare fingerprints) world).2 := by
  unfold prepare
  generalize runner.engines = engines at hdiscreet
  induction engines generalizing world with
  | nil => exact World.Called.of_journal rfl
  | cons engine rest ih =>
      rw [List.forM_eq_forM, List.forM_cons]
      simp only [Change.on_bind, Change.on_log]
      obtain ⟨commands, hjournal, hcommands⟩ := (hdiscreet engine List.mem_cons_self).prepares
        ((fingerprints.get? engine.name).getD "")
        (world.noted [.prepared engine.name ((fingerprints.get? engine.name).getD "")])
      refine World.Called.after_none (World.Called.working
        (.prepared engine.name ((fingerprints.get? engine.name).getD "")) trivial hcommands ?_)
        (ih _ fun other hin => hdiscreet other (List.mem_cons_of_mem _ hin))
      rw [World.journal_noted, List.append_assoc] at hjournal
      exact hjournal

/-- Setting up a run calls no engine. -/
theorem silent_setUp (hdiscreet : ∀ engine ∈ runner.engines, engine.Discreet) (request : Request τ) :
    (runner.setUp request).Keeps World.Silent := by
  unfold setUp
  split
  · exact (plain_throw _).silent
  · refine plain_get.silent.bind fun world => (plain_ofExcept _).silent.bind fun _ => (plain_ofExcept _).silent.bind fun _ => ?_
    refine (plain_remark _).silent.bind fun _ => (plain_onClock _).silent.bind fun _ => (plain_onClock _).silent.bind fun _ => ?_
    refine (plain_ofExcept _).silent.bind fun _ => (plain_of_journal fun _ => rfl).silent.bind fun _ => ?_
    refine Keeps.bind (fun world => ?_) fun _ => (plain_pure _).silent
    rw [Act.on_lift]
    exact silent_prepare hdiscreet request.fingerprints world

end Runner

/-! ### The end of a run -/

/-- Whether a shell leaves the journal to those who give it commands. -/
def Shell.Quiet (shell : Shell τ σ) : Prop :=
  ∀ command token (world : World τ σ), ((shell command token).on world).2.journal = world.journal

omit [Quantity τ] in
theorem Shell.uncalled_run {shell : Shell τ σ} (hquiet : shell.Quiet) (command : Command) (token : Option Nat) :
    (shell.run command token).Keeps World.Uncalled := by
  refine Keeps.bind (fun world => ?_) fun _ => (plain_of_journal (hquiet command token)).uncalled
  exact ⟨[.command command.arguments (command.directory.map Path.text)], rfl, rfl⟩

omit [Quantity τ] in
theorem uncalled_git {shell : Shell τ σ} (hquiet : shell.Quiet) (root : Path) (arguments : List String) :
    (git shell root arguments).Keeps World.Uncalled := by
  unfold git
  refine Keeps.bind (fun world => ?_) fun outcome => ?_
  · rw [Act.on_attempt]
    exact Shell.uncalled_run hquiet _ none world
  · split
    · exact (plain_pure _).uncalled
    · split
      · exact (plain_pure _).uncalled
      · exact (plain_throw _).uncalled

omit [Quantity τ] in
theorem uncalled_stageEach {shell : Shell τ σ} (hquiet : shell.Quiet) (root : Path) (files : List String) :
    (stageEach shell root files).Keeps World.Uncalled := by
  induction files with
  | nil => exact (plain_pure _).uncalled
  | cons file rest ih =>
      exact (uncalled_git hquiet root _).bind fun _ => ih.bind fun _ => (plain_pure _).uncalled

omit [Quantity τ] in
theorem uncalled_stage {shell : Shell τ σ} (hquiet : shell.Quiet) (root : Path) (files : List String) :
    (stage shell root files).Keeps World.Uncalled := by
  refine plain_get.uncalled.bind fun world => (plain_ofExcept _).uncalled.bind fun targets => ?_
  split
  · exact (plain_pure _).uncalled
  · refine (uncalled_git hquiet root _).bind fun inside => ?_
    split
    · exact uncalled_stageEach hquiet root targets
    · exact (plain_pure _).uncalled

omit [Quantity τ] in
/-- Warnings about items are entries in the journal, and nothing else. -/
theorem OutputConfig.on_warnEach {ι : Type} (output : OutputConfig) (items : List ι) (message : ι → String)
    (world : World τ σ) :
    ∃ events, Act.on (forIn items PUnit.unit fun item _ => do
        output.warn (message item)
        pure (ForInStep.yield PUnit.unit)) world = (.ok PUnit.unit, world.noted events) ∧
      ∀ event ∈ events, event.Spoken := by
  induction items generalizing world with
  | nil => exact ⟨[], by rw [World.noted_nil]; rfl, by simp⟩
  | cons item rest ih =>
      obtain ⟨events, hwarn, hspoken⟩ := World.on_warn_spoken output (message item) world
      obtain ⟨more, hmore, hspoken'⟩ := ih (world.noted events)
      refine ⟨events ++ more, ?_, fun event hin => ?_⟩
      · rw [List.forIn_cons, bind_assoc, Act.on_bind_of_ok hwarn, pure_bind]
        rw [hmore, World.noted_noted]
      · rcases List.mem_append.mp hin with hfirst | hsecond
        · exact hspoken event hfirst
        · exact hspoken' event hsecond

omit [Quantity τ] in
theorem Runner.uncalled_stageFixed {runner : Runner τ σ} (hquiet : runner.shell.Quiet) (request : Request τ)
    (cancelled : Bool) (course : Course τ) (report : Report τ) :
    (runner.stageFixed request cancelled course report).Keeps World.Uncalled := by
  unfold stageFixed
  simp only
  split
  · exact (plain_pure _).uncalled
  · refine plain_get.uncalled.bind fun world => (plain_ofExcept _).uncalled.bind fun scope => ?_
    split
    · exact (plain_pure _).uncalled
    · split
      · exact (plain_pure _).uncalled
      · refine (Course.plain_enter course .stage).uncalled.bind fun entered => ?_
        refine (uncalled_stage hquiet _ _).bind fun staging => ?_
        refine Keeps.bind ?_ fun _ => (plain_pure _).uncalled
        exact (plain_said fun world => ⟨_, runner.config.output.on_warnEach staging.warnings _ world⟩).uncalled

/-- The end of a run calls no engine. -/
theorem Runner.uncalled_conclude {runner : Runner τ σ} (hquiet : runner.shell.Quiet) (request : Request τ)
    (setup : Setup τ) (course : Course τ) : (runner.conclude request setup course).Keeps World.Uncalled := by
  refine (plain_askClock _).uncalled.bind fun reason => (plain_askClock _).uncalled.bind fun cancelled => ?_
  refine (Course.plain_wrapUp course _ _ _).uncalled.bind fun wrapped => Keeps.bind ?_ fun report => ?_
  · exact (plain_get.bind fun world => (plain_ofExcept _).bind fun base => plain_pure _).uncalled
  refine (uncalled_stageFixed hquiet request cancelled wrapped report).bind fun staged => ?_
  exact (plain_ofExcept _).uncalled.bind fun tracker => (plain_askClock _).uncalled.bind fun now => (plain_pure _).uncalled

end FixFirst
