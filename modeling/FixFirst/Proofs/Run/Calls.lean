import Mathlib.Data.List.Forall2
import FixFirst.Proofs.Run.Batches

/-!
# The calls of a run

What a run does to the journal is a sequence of entries, and the calls among them are those of the
jobs that were started.  One after the other, jobs are called in their order, and some at the end may
not be called; side by side, each one is called at most once.  Nothing is asked of engines but that
they write to the journal through the shell only: they may cancel tokens, fail, and not come back.

## Main definitions

* `Call`, `callsIn` — a call of an engine, and those in a stretch of the journal.
* `Attended` — a stretch of the journal in which all commands are given by engines.
* `World.Called` — what was added to the journal, and the calls in it.
* `Engine.Discreet`, `Engine.Signs` — engines that write commands only, and put their name on results.
* `Job.Yields` — what the outcome of a job is, whatever becomes of it.

## Main statements

* `called_runJobs` — the calls of jobs, one after the other or side by side.
* `tendJobs_yields` — one outcome for each job.
-/

namespace FixFirst

variable {τ σ : Type}

/-! ### Calls in the journal -/

/-- A call of an engine. -/
structure Call where
  engine : String
  pass : Pass
  files : List String
  deriving DecidableEq

/-- The call that a job makes. -/
def Job.asCall (job : Job τ σ) : Call := ⟨job.engine.name, job.pass, job.files⟩

/-- The call that an entry of the journal tells of. -/
def Event.call? : Event τ → Option Call
  | .called engine pass files => some ⟨engine, pass, files⟩
  | _ => none

/-- The calls in a stretch of the journal. -/
def callsIn (events : List (Event τ)) : List Call := events.filterMap Event.call?

/-- Whether an entry of the journal begins the work of an engine. -/
def Event.Begins : Event τ → Prop
  | .called .. | .prepared .. => True
  | _ => False

/-- Whether an entry of the journal is neither a call nor a command. -/
def Event.Plain : Event τ → Prop
  | .called .. | .command .. => False
  | _ => True

/-- Whether all commands in a stretch of the journal follow the beginning of the work of an engine, with
nothing but commands between. -/
inductive Attended : List (Event τ) → Prop
  | nil : Attended []
  | plain {event : Event τ} {rest : List (Event τ)} (plain : event.Plain) (tail : Attended rest) :
      Attended (event :: rest)
  | working {event : Event τ} {commands rest : List (Event τ)} (begins : event.Begins)
      (given : ∀ event ∈ commands, event.IsCommand) (tail : Attended rest) : Attended (event :: (commands ++ rest))

theorem Attended.append {first second : List (Event τ)} (h : Attended first) (h' : Attended second) :
    Attended (first ++ second) := by
  induction h with
  | nil => exact h'
  | plain plain tail ih => exact .plain plain ih
  | working begins given tail ih =>
      rw [List.cons_append, List.append_assoc]
      exact .working begins given ih

theorem Event.Spoken.plain {event : Event τ} (h : event.Spoken) : event.Plain := by
  cases event <;> trivial

theorem Event.Plain.call? {event : Event τ} (h : event.Plain) : event.call? = none := by
  cases event <;> first | rfl | cases h

theorem Event.IsCommand.call? {event : Event τ} (h : event.IsCommand) : event.call? = none := by
  cases event <;> first | rfl | cases h

theorem callsIn_append (first second : List (Event τ)) : callsIn (first ++ second) = callsIn first ++ callsIn second :=
  List.filterMap_append

theorem callsIn_eq_nil {events : List (Event τ)} (h : ∀ event ∈ events, event.call? = none) : callsIn events = [] :=
  List.filterMap_eq_nil_iff.mpr h

theorem callsIn_plain {events : List (Event τ)} (h : ∀ event ∈ events, event.Plain) : callsIn events = [] :=
  callsIn_eq_nil fun event hin => (h event hin).call?

theorem Attended.of_plain {events : List (Event τ)} (h : ∀ event ∈ events, event.Plain) : Attended events := by
  induction events with
  | nil => exact .nil
  | cons event rest ih =>
      exact .plain (h event List.mem_cons_self) (ih fun other hin => h other (List.mem_cons_of_mem _ hin))

/-! ### What is added to the journal -/

/-- Whether a world follows another one, with these calls added to the journal and all commands added given
by engines. -/
def World.Called (before after : World τ σ) (calls : List Call) : Prop :=
  ∃ events, after.journal = before.journal ++ events ∧ callsIn events = calls ∧ Attended events

namespace World.Called

theorem of_journal {before after : World τ σ} (h : after.journal = before.journal) : before.Called after [] :=
  ⟨[], by rw [h, List.append_nil], rfl, .nil⟩

theorem trans {first second third : World τ σ} {calls more : List Call} (h : first.Called second calls)
    (h' : second.Called third more) : first.Called third (calls ++ more) := by
  obtain ⟨events, hjournal, hcalls, hattended⟩ := h
  obtain ⟨others, hjournal', hcalls', hattended'⟩ := h'
  refine ⟨events ++ others, ?_, ?_, hattended.append hattended'⟩
  · rw [hjournal', hjournal, List.append_assoc]
  · rw [callsIn_append, hcalls, hcalls']

/-- What adds no calls may come before. -/
theorem after_none {first second third : World τ σ} {calls : List Call} (h : first.Called second [])
    (h' : second.Called third calls) : first.Called third calls :=
  h.trans h'

/-- What adds no calls may come after. -/
theorem then_none {first second third : World τ σ} {calls : List Call} (h : first.Called second calls)
    (h' : second.Called third []) : first.Called third calls := by
  have hboth := h.trans h'
  rwa [List.append_nil] at hboth

theorem noted (world : World τ σ) {events : List (Event τ)} (h : ∀ event ∈ events, event.Plain) :
    world.Called (world.noted events) [] :=
  ⟨events, rfl, callsIn_plain h, .of_plain h⟩

theorem spoken (world : World τ σ) {events : List (Event τ)} (h : ∀ event ∈ events, event.Spoken) :
    world.Called (world.noted events) [] :=
  noted world fun event hin => (h event hin).plain

theorem sampled {before after : World τ σ} (h : before.Sampled after) : before.Called after [] :=
  of_journal h.journal

/-- An entry that begins the work of an engine, and what the engine adds to the journal. -/
theorem working {before after : World τ σ} (event : Event τ) {commands : List (Event τ)} (begins : event.Begins)
    (given : ∀ event ∈ commands, event.IsCommand) (h : after.journal = before.journal ++ event :: commands) :
    before.Called after event.call?.toList := by
  have hattended : Attended (event :: commands) := by
    have hone := Attended.working begins given .nil
    rwa [List.append_nil] at hone
  refine ⟨event :: commands, h, ?_, hattended⟩
  have hnone : callsIn commands = [] := callsIn_eq_nil fun other hin => (given other hin).call?
  unfold callsIn at hnone ⊢
  rw [List.filterMap_cons, hnone]
  cases event.call? <;> rfl

end World.Called

/-! ### Engines -/

/-- Whether what happens to a world adds nothing but commands to the journal. -/
def World.Commanded (before after : World τ σ) : Prop :=
  ∃ commands, after.journal = before.journal ++ commands ∧ ∀ event ∈ commands, event.IsCommand

/-- Whether an engine adds nothing but commands to the journal. -/
structure Engine.Discreet (engine : Engine τ σ) : Prop where
  prepares : ∀ fingerprint (world : World τ σ), world.Commanded (Change.on (engine.prepare fingerprint) world).2
  calls : ∀ pass files token (world : World τ σ), world.Commanded (Change.on (engine.call pass files token) world).2

/-- Whether an engine puts its name on its results. -/
def Engine.Signs (engine : Engine τ σ) : Prop :=
  ∀ pass files token world result, (Change.on (engine.call pass files token) world).1 = .result result →
    result.engine = engine.name

/-! ### One job -/

/-- What the outcome of a job is, whatever becomes of it. -/
structure Job.Yields (job : Job τ σ) (outcome : Outcome τ) : Prop where
  engine : outcome.engine = job.engine.name
  pass : outcome.pass = job.pass
  signed : job.engine.Signs → ∀ result, outcome.verdict = .result result → result.engine = job.engine.name

theorem Job.yields_abandoned (job : Job τ σ) : job.Yields (job.outcome .abandoned) :=
  ⟨rfl, rfl, fun _ result heq => by cases heq⟩

/-- An outcome of jobs is one of them. -/
theorem exists_yields {jobs : List (Job τ σ)} {outcomes : List (Outcome τ)} (h : List.Forall₂ Job.Yields jobs outcomes)
    {outcome : Outcome τ} (hin : outcome ∈ outcomes) : ∃ job ∈ jobs, job.Yields outcome := by
  induction h with
  | nil => cases hin
  | @cons job own jobs outcomes head tail ih =>
      rcases List.mem_cons.mp hin with rfl | hrest
      · exact ⟨job, List.mem_cons_self, head⟩
      · obtain ⟨other, hother, hyields⟩ := ih hrest
        exact ⟨other, List.mem_cons_of_mem _ hother, hyields⟩

variable [Quantity τ]

/-- What a job comes to, from what the call of its engine comes to. -/
theorem Job.on_run (job : Job τ σ) (token : Nat) (world : World τ σ) {reply : Reply τ} {back : World τ σ}
    (h : Change.on (job.engine.call job.pass job.files token) (world.noted [.called job.engine.name job.pass job.files]) =
      (reply, back)) :
    Change.on (job.run token) world =
      match job.verdict? (back.clock.now - world.clock.now) reply with
      | none => (none, back)
      | some verdict => (some (job.outcome verdict), back.noted [.completed (job.outcome verdict)]) := by
  unfold Job.run
  simp only [Change.on_bind, Change.on_now, Change.on_log]
  unfold World.noted at h
  rw [h]
  split <;> rename_i hverdict <;> simp only [hverdict] <;> rfl

/-- A job that is started makes one call. -/
theorem Job.called_run (job : Job τ σ) (hdiscreet : job.engine.Discreet) (token : Nat) (world : World τ σ) :
    world.Called (Change.on (job.run token) world).2 [job.asCall] := by
  obtain ⟨commands, hjournal, hcommands⟩ :=
    hdiscreet.calls job.pass job.files token (world.noted [.called job.engine.name job.pass job.files])
  rcases hcall : Change.on (job.engine.call job.pass job.files token)
    (world.noted [.called job.engine.name job.pass job.files]) with ⟨reply, back⟩
  rw [hcall] at hjournal
  have hback : world.Called back [job.asCall] := by
    refine World.Called.working (.called job.engine.name job.pass job.files) trivial hcommands ?_
    rw [hjournal, World.journal_noted, List.append_assoc]
    rfl
  rw [job.on_run token world hcall]
  split
  · exact hback
  · exact hback.then_none (World.Called.noted back fun event hin => by
      rw [List.mem_singleton.mp hin]
      trivial)

/-- The outcome of a job that came back. -/
theorem Job.yields_run (job : Job τ σ) {token : Nat} {world after : World τ σ} {outcome : Outcome τ}
    (h : Change.on (job.run token) world = (some outcome, after)) : job.Yields outcome := by
  rcases hcall : Change.on (job.engine.call job.pass job.files token)
    (world.noted [.called job.engine.name job.pass job.files]) with ⟨reply, back⟩
  rw [job.on_run token world hcall] at h
  split at h
  · cases h
  · rename_i verdict hverdict
    cases h
    refine ⟨rfl, rfl, fun hsigns result heq => ?_⟩
    have hsame : verdict = .result result := heq
    subst hsame
    cases reply with
    | result known =>
        cases hverdict
        exact hsigns job.pass job.files token _ result (congrArg Prod.fst hcall)
    | fault fault =>
        have hfault := Option.some.inj hverdict
        split at hfault
        · cases hfault
        · cases hfault
          rfl
        · cases hfault
    | silence => cases hverdict

/-! ### One after the other -/

/-- Serial jobs are called in their order; some may not be called. -/
theorem called_runSerial {jobs : List (Job τ σ)} (hdiscreet : ∀ job ∈ jobs, job.engine.Discreet) (token : Nat)
    (world : World τ σ) :
    ∃ made : List (Job τ σ), made.Sublist jobs ∧ world.Called (Change.on (runSerial token jobs) world).2 (made.map Job.asCall) := by
  induction jobs generalizing world with
  | nil => exact ⟨[], .refl _, .of_journal rfl⟩
  | cons job rest ih =>
      have hrest := fun other hin => hdiscreet other (List.mem_cons_of_mem _ hin)
      unfold runSerial
      rw [Change.on_bind, Change.on_askClock]
      cases world.clock.forest.reason? token with
      | some reason =>
          simp only [Change.on_bind, Change.on_log, Change.on_pure]
          obtain ⟨made, hsub, hcalled⟩ := ih hrest (world.noted [.unstarted job.engine.name reason])
          refine ⟨made, hsub.cons job, World.Called.after_none (World.Called.noted world fun event hin => ?_) hcalled⟩
          rw [List.mem_singleton.mp hin]
          trivial
      | none =>
          simp only [Change.on_bind, Change.on_pure]
          obtain ⟨made, hsub, hcalled⟩ := ih hrest (Change.on (job.run token) world).2
          exact ⟨job :: made, hsub.cons_cons job,
            (job.called_run (hdiscreet job List.mem_cons_self) token world).trans hcalled⟩

theorem runSerial_yields (token : Nat) (jobs : List (Job τ σ)) (world : World τ σ) :
    List.Forall₂ Job.Yields jobs (Change.on (runSerial token jobs) world).1 := by
  induction jobs generalizing world with
  | nil => exact .nil
  | cons job rest ih =>
      unfold runSerial
      rw [Change.on_bind, Change.on_askClock]
      cases world.clock.forest.reason? token with
      | some reason => exact .cons job.yields_abandoned (ih _)
      | none =>
          simp only [Change.on_bind, Change.on_pure]
          refine .cons ?_ (ih _)
          rcases hjob : Change.on (job.run token) world with ⟨answer, middle⟩
          cases answer with
          | none => exact job.yields_abandoned
          | some outcome => exact job.yields_run hjob

/-! ### Side by side -/

namespace Slot

/-- The job that a slot waits for. -/
def waits? : Slot τ σ → Option (Job τ σ)
  | .waiting job => some job
  | _ => none

/-- Whether a slot is that of a job. -/
def Of (job : Job τ σ) : Slot τ σ → Prop
  | .waiting own | .stuck own => own = job
  | .back outcome => job.Yields outcome

end Slot

/-- The jobs that slots wait for. -/
def waitedFor (slots : List (Slot τ σ)) : List (Job τ σ) := slots.filterMap Slot.waits?

omit [Quantity τ] in
/-- When a slot stops waiting, its job is taken from those waited for. -/
theorem waitedFor_set {slots : List (Slot τ σ)} {position : Nat} {job : Job τ σ} {slot : Slot τ σ}
    (hslot : slots[position]? = some (.waiting job)) (hnext : slot.waits? = none) :
    (job :: waitedFor (slots.set position slot)).Perm (waitedFor slots) := by
  induction slots generalizing position with
  | nil => cases hslot
  | cons first rest ih =>
      cases position with
      | zero =>
          cases Option.some.inj hslot
          unfold waitedFor
          rw [List.set_cons_zero, List.filterMap_cons, hnext, List.filterMap_cons]
          exact .refl _
      | succ position =>
          have hrest := ih hslot
          unfold waitedFor at hrest ⊢
          rw [List.set_cons_succ, List.filterMap_cons, List.filterMap_cons]
          cases first.waits? with
          | none => exact hrest
          | some other => exact (List.Perm.swap other job _).trans (hrest.cons other)

omit [Quantity τ] in
theorem set_self {slots : List (Slot τ σ)} {position : Nat} {slot : Slot τ σ} (h : slots[position]? = some slot) :
    slots.set position slot = slots := by
  obtain ⟨hlt, rfl⟩ := List.getElem?_eq_some_iff.mp h
  exact List.set_getElem_self hlt

/-- Jobs that come back are called once, and are not waited for any more. -/
theorem called_comeBack {slots : List (Slot τ σ)} (hdiscreet : ∀ job ∈ waitedFor slots, job.engine.Discreet)
    (token : Nat) (positions : List Nat) (world : World τ σ) :
    ∃ made : List (Job τ σ), (made ++ waitedFor (Change.on (comeBack token positions slots) world).1).Perm (waitedFor slots) ∧
      world.Called (Change.on (comeBack token positions slots) world).2 (made.map Job.asCall) := by
  induction positions generalizing slots world with
  | nil => exact ⟨[], .refl _, .of_journal rfl⟩
  | cons position rest ih =>
      unfold comeBack
      cases hslot : slots[position]? with
      | none => exact ih hdiscreet world
      | some slot =>
          simp only [Change.on_bind]
          cases slot with
          | waiting job =>
              rcases hjob : Change.on (job.run token) world with ⟨answer, middle⟩
              have hin : job ∈ waitedFor slots :=
                List.mem_filterMap.mpr ⟨_, List.mem_of_getElem? hslot, rfl⟩
              have hcalled := job.called_run (hdiscreet job hin) token world
              rw [hjob] at hcalled
              obtain ⟨next, hproceed, hnext⟩ : ∃ next : Slot τ σ,
                  Change.on (Slot.proceed token (.waiting job)) world = (next, middle) ∧ next.waits? = none := by
                unfold Slot.proceed
                rw [Change.on_bind, hjob]
                cases answer with
                | none => exact ⟨.stuck job, rfl, rfl⟩
                | some outcome => exact ⟨.back outcome, rfl, rfl⟩
              rw [hproceed]
              have hperm := waitedFor_set hslot hnext
              have hless : ∀ other ∈ waitedFor (slots.set position next), other.engine.Discreet :=
                fun other hother => hdiscreet other (hperm.subset (List.mem_cons_of_mem _ hother))
              obtain ⟨made, hmade, hrest⟩ := ih hless middle
              exact ⟨job :: made, (hmade.cons job).trans hperm, hcalled.trans hrest⟩
          | stuck job =>
              have hsame : Change.on (Slot.proceed token (.stuck job : Slot τ σ)) world = (.stuck job, world) := rfl
              rw [hsame, set_self hslot]
              exact ih hdiscreet world
          | back outcome =>
              have hsame : Change.on (Slot.proceed token (.back outcome : Slot τ σ)) world = (.back outcome, world) := rfl
              rw [hsame, set_self hslot]
              exact ih hdiscreet world

/-- The jobs of a phase that is waited for are each called at most once. -/
theorem called_await {slots : List (Slot τ σ)} (hdiscreet : ∀ job ∈ waitedFor slots, job.engine.Discreet)
    (token : Nat) (grace : List Nat) (polls : List (List Nat)) (world : World τ σ) :
    ∃ made rest : List (Job τ σ), (made ++ rest).Perm (waitedFor slots) ∧
      world.Called (Change.on (await token grace polls slots) world).2 (made.map Job.asCall) := by
  induction polls generalizing slots world with
  | nil =>
      obtain ⟨made, hmade, hcalled⟩ := called_comeBack hdiscreet token (List.range slots.length) world
      exact ⟨made, _, hmade, hcalled⟩
  | cons positions rest ih =>
      obtain ⟨made, hmade, hcalled⟩ := called_comeBack hdiscreet token positions world
      rcases hback : Change.on (comeBack token positions slots) world with ⟨next, middle⟩
      rw [hback] at hmade hcalled
      have hless : ∀ job ∈ waitedFor next, job.engine.Discreet :=
        fun job hjob => hdiscreet job (hmade.subset (List.mem_append_right _ hjob))
      -- What is called later is still waited for now.
      have hlater : ∀ (after : World τ σ) (more left : List (Job τ σ)), (more ++ left).Perm (waitedFor next) →
          middle.Called after (more.map Job.asCall) →
          ∃ made rest : List (Job τ σ), (made ++ rest).Perm (waitedFor slots) ∧ world.Called after (made.map Job.asCall) := by
        intro after more left hmore hcalls
        refine ⟨made ++ more, left, ?_, ?_⟩
        · rw [List.append_assoc]
          exact (hmore.append_left made).trans hmade
        · rw [List.map_append]
          exact hcalled.trans hcalls
      unfold await
      rw [Change.on_bind, hback]
      split
      · exact ⟨made, _, hmade, hcalled⟩
      · rw [Change.on_bind, Change.on_isCancelled]
        split
        · obtain ⟨more, hmore, hcalls⟩ := called_comeBack hless token grace middle
          exact hlater _ more _ hmore hcalls
        · obtain ⟨more, left, hmore, hcalls⟩ := ih hless middle
          exact hlater _ more left hmore hcalls

omit [Quantity τ] in
theorem called_settleAll (slots : List (Slot τ σ)) (world : World τ σ) :
    world.Called (Change.on (settleAll slots) world).2 [] := by
  induction slots generalizing world with
  | nil => exact .of_journal rfl
  | cons slot rest ih =>
      have hone : world.Called (Change.on slot.settle world).2 [] := by
        have hlost : ∀ job : Job τ σ, world.Called (world.noted [.abandoned job.engine.name]) [] := fun job =>
          World.Called.noted world fun event hin => by
            rw [List.mem_singleton.mp hin]
            trivial
        cases slot with
        | waiting job => exact hlost job
        | stuck job => exact hlost job
        | back outcome => exact .of_journal rfl
      unfold settleAll
      rw [Change.on_bind, Change.on_bind, Change.on_pure]
      exact hone.after_none (ih _)

omit [Quantity τ] in
theorem waitedFor_start (jobs : List (Job τ σ)) : waitedFor (jobs.map .waiting) = jobs := by
  unfold waitedFor
  rw [List.filterMap_map]
  exact List.filterMap_some

theorem called_tendJobs {jobs : List (Job τ σ)} (hdiscreet : ∀ job ∈ jobs, job.engine.Discreet)
    (schedule : List (Job τ σ) → World τ σ → Schedule) (token workers : Nat) (serial : Bool) (world : World τ σ) :
    ∃ made rest : List (Job τ σ), (made ++ rest).Perm jobs ∧ (serial = true → made.Sublist jobs) ∧
      world.Called (Change.on (tendJobs schedule token workers serial jobs) world).2 (made.map Job.asCall) := by
  unfold tendJobs
  split
  · obtain ⟨made, hsub, hcalled⟩ := called_runSerial hdiscreet token world
    obtain ⟨rest, hrest⟩ := hsub.exists_perm_append
    exact ⟨made, rest, hrest.symm, fun _ => hsub, hcalled⟩
  · rename_i hparallel
    have hserial : serial ≠ true := by
      rintro rfl
      exact hparallel rfl
    simp only [Change.on_bind, Change.on_log, Change.on_get]
    have hlogged : world.Called (world.noted [.pool (min workers jobs.length)]) [] :=
      World.Called.noted world fun event hin => by
        rw [List.mem_singleton.mp hin]
        trivial
    unfold tendParallel
    rw [Change.on_bind]
    have hstart := waitedFor_start jobs
    have hwaiting : ∀ job ∈ waitedFor (jobs.map .waiting), job.engine.Discreet := by
      rw [hstart]
      exact hdiscreet
    obtain ⟨made, rest, hmade, hcalled⟩ := called_await hwaiting token
      (schedule jobs (world.noted [.pool (min workers jobs.length)])).grace
      (schedule jobs (world.noted [.pool (min workers jobs.length)])).polls
      (world.noted [.pool (min workers jobs.length)])
    rw [hstart] at hmade
    refine ⟨made, rest, hmade, fun heq => absurd heq hserial, ?_⟩
    exact (hlogged.after_none hcalled).then_none (called_settleAll _ _)

/-- The calls of the jobs of a phase, whatever it comes to: each job at most once, and in their order if they run one
after the other. -/
theorem called_runJobs {jobs : List (Job τ σ)} (hdiscreet : ∀ job ∈ jobs, job.engine.Discreet) (granted : Bool)
    (schedule : List (Job τ σ) → World τ σ → Schedule) (token workers : Nat) (serial : Bool) (world : World τ σ) :
    ∃ made rest : List (Job τ σ), (made ++ rest).Perm jobs ∧ (serial = true → made.Sublist jobs) ∧
      world.Called ((runJobs granted schedule token workers serial jobs).on world).2 (made.map Job.asCall) := by
  rcases runJobs_cases granted schedule token workers serial jobs world with
    ⟨outcomes, after, hon, htended⟩ | ⟨-, rfl, order, slots, after, hon, hawait, -⟩
  · have hcalled := called_tendJobs hdiscreet (fun jobs world => (schedule jobs world).within granted) token workers
      serial world
    rwa [htended, ← congrArg Prod.snd hon] at hcalled
  · have hstart := waitedFor_start jobs
    have hwaiting : ∀ job ∈ waitedFor (jobs.map .waiting), job.engine.Discreet := by
      rw [hstart]
      exact hdiscreet
    obtain ⟨made, rest, hmade, hcalled⟩ := called_await hwaiting token [] order
      (world.noted [.pool (min workers jobs.length)])
    rw [hstart] at hmade
    rw [hawait] at hcalled
    rw [hon]
    refine ⟨made, rest, hmade, fun hserial => (by cases hserial), World.Called.after_none ?_ hcalled⟩
    exact World.Called.noted world fun event hin => by
      rw [List.mem_singleton.mp hin]
      trivial

/-! ### One outcome for each job -/

omit [Quantity τ] in
theorem forall₂_set {jobs : List (Job τ σ)} {slots : List (Slot τ σ)} (h : List.Forall₂ Slot.Of jobs slots)
    {position : Nat} {slot next : Slot τ σ} (hslot : slots[position]? = some slot)
    (hnext : ∀ job, slot.Of job → next.Of job) : List.Forall₂ Slot.Of jobs (slots.set position next) := by
  induction h generalizing position with
  | nil => exact .nil
  | cons head tail ih =>
      cases position with
      | zero =>
          cases Option.some.inj hslot
          exact .cons (hnext _ head) tail
      | succ position => exact .cons head (ih hslot)

theorem of_proceed {job : Job τ σ} {slot : Slot τ σ} (h : slot.Of job) (token : Nat) (world : World τ σ) :
    (Change.on (slot.proceed token) world).1.Of job := by
  cases slot with
  | waiting own =>
      obtain rfl : own = job := h
      unfold Slot.proceed
      rw [Change.on_bind]
      rcases hjob : Change.on (own.run token) world with ⟨answer, middle⟩
      cases answer with
      | none => exact rfl
      | some outcome => exact own.yields_run hjob
  | stuck own => exact h
  | back outcome => exact h

theorem comeBack_of {jobs : List (Job τ σ)} {slots : List (Slot τ σ)} (h : List.Forall₂ Slot.Of jobs slots) (token : Nat)
    (positions : List Nat) (world : World τ σ) :
    List.Forall₂ Slot.Of jobs (Change.on (comeBack token positions slots) world).1 := by
  induction positions generalizing slots world with
  | nil => exact h
  | cons position rest ih =>
      unfold comeBack
      cases hslot : slots[position]? with
      | none => exact ih h world
      | some slot =>
          simp only [Change.on_bind]
          exact ih (forall₂_set h hslot fun job hof => of_proceed hof token world) _

theorem await_of {jobs : List (Job τ σ)} {slots : List (Slot τ σ)} (h : List.Forall₂ Slot.Of jobs slots) (token : Nat)
    (grace : List Nat) (polls : List (List Nat)) (world : World τ σ) :
    List.Forall₂ Slot.Of jobs (Change.on (await token grace polls slots) world).1 := by
  induction polls generalizing slots world with
  | nil => exact comeBack_of h token _ world
  | cons positions rest ih =>
      have hback := comeBack_of h token positions world
      unfold await
      rw [Change.on_bind]
      split
      · exact hback
      · rw [Change.on_bind, Change.on_isCancelled]
        split
        · exact comeBack_of hback token grace _
        · exact ih hback _

omit [Quantity τ] in
theorem settleAll_yields {jobs : List (Job τ σ)} {slots : List (Slot τ σ)} (h : List.Forall₂ Slot.Of jobs slots)
    (world : World τ σ) : List.Forall₂ Job.Yields jobs (Change.on (settleAll slots) world).1 := by
  induction h generalizing world with
  | nil => exact .nil
  | @cons job slot jobs slots head tail ih =>
      unfold settleAll
      rw [Change.on_bind, Change.on_bind, Change.on_pure]
      refine .cons ?_ (ih _)
      cases slot with
      | waiting own =>
          obtain rfl : own = job := head
          exact own.yields_abandoned
      | stuck own =>
          obtain rfl : own = job := head
          exact own.yields_abandoned
      | back outcome => exact head

/-- The jobs of a phase have one outcome each, in their order. -/
theorem tendJobs_yields (schedule : List (Job τ σ) → World τ σ → Schedule) (token workers : Nat) (serial : Bool)
    (jobs : List (Job τ σ)) (world : World τ σ) :
    List.Forall₂ Job.Yields jobs (Change.on (tendJobs schedule token workers serial jobs) world).1 := by
  unfold tendJobs
  split
  · exact runSerial_yields token jobs world
  · simp only [Change.on_bind, Change.on_log, Change.on_get]
    unfold tendParallel
    rw [Change.on_bind]
    refine settleAll_yields (await_of ?_ _ _ _ _) _
    exact List.forall₂_map_right_iff.mpr (List.forall₂_same.mpr fun job _ => rfl)

end FixFirst
