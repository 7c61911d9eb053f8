import FixFirst.Proofs.Run.Conduct

/-!
# Jobs that come back

As long as the token of a phase is active, every job of the phase comes back, whether the jobs run
one after the other or side by side in any order.

## Main definitions

* `Pending` — the slots of jobs that run side by side, and the jobs that have come back so far.
* `WorkedOff` — all jobs came back.

## Main statements

* `passed_tendJobs` — jobs leave the tokens and the paths to the engines.
* `tendJobs_workedOff` — under a token that stays active, all jobs come back.
-/

namespace FixFirst

variable {σ : Type} {outer token : Nat}

/-! ### One job -/

namespace Job

theorem verdict?_none {job : Job Rat σ} {duration : Rat} {reply : Reply Rat}
    (h : job.verdict? duration reply = none) : reply = .silence := by
  cases reply with
  | result result => cases h
  | fault fault => cases h
  | silence => rfl

/-- The verdict on a call that came back: not abandoned, and a result with the name of the engine if
the reply had it. -/
theorem verdict?_some {job : Job Rat σ} {duration : Rat} {reply : Reply Rat} {verdict : Verdict Rat}
    (h : job.verdict? duration reply = some verdict) (hnamed : ∀ result, reply = .result result →
      result.engine = job.engine.name) :
    verdict ≠ .abandoned ∧ ∀ result, verdict = .result result → result.engine = job.engine.name := by
  cases reply with
  | result result =>
      cases h
      refine ⟨fun heq => (by cases heq), fun other heq => ?_⟩
      cases heq
      exact hnamed result rfl
  | fault fault =>
      obtain rfl := Option.some.inj h
      split
      · exact ⟨fun heq => (by cases heq), fun other heq => (by cases heq)⟩
      · refine ⟨fun heq => (by cases heq), fun other heq => ?_⟩
        cases heq
        rfl
      · exact ⟨fun heq => (by cases heq), fun other heq => (by cases heq)⟩
  | silence => cases h

/-- A job that comes back, or one that does not come back under a cancelled token. -/
theorem run_cases (job : Job Rat σ) (hproper : job.engine.Proper outer) (token : Nat) (world : World Rat σ) :
    world.Passed outer (Change.on (job.run token) world).2 ∧
      (((Change.on (job.run token) world).1 = none ∧
          (Change.on (job.run token) world).2.clock.forest.isCancelled token = true) ∨
        ∃ outcome trace, (Change.on (job.run token) world).1 = some outcome ∧ job.Answered outcome trace ∧
          (Change.on (job.run token) world).2.journal = world.journal ++ trace) := by
  let called := world.noted [.called job.engine.name job.pass job.files]
  have hconduct := hproper.calls job.pass job.files token called
  have hnamed := hproper.named job.pass job.files token called
  have hreturns := hproper.returns job.pass job.files token called
  have hrun : Change.on (job.run token) world =
      match job.verdict? ((Change.on (job.engine.call job.pass job.files token) called).2.clock.now - world.clock.now)
          (Change.on (job.engine.call job.pass job.files token) called).1 with
      | none => (none, (Change.on (job.engine.call job.pass job.files token) called).2)
      | some verdict => (some (job.outcome verdict),
          (Change.on (job.engine.call job.pass job.files token) called).2.noted [.completed (job.outcome verdict)]) := by
    unfold Job.run
    simp only [Change.on_bind, Change.on_now, Change.on_log]
    split <;> rename_i hverdict <;> simp only [called, World.noted, hverdict] <;> rfl
  rcases hcall : Change.on (job.engine.call job.pass job.files token) called with ⟨reply, back⟩
  rw [hcall] at hconduct hnamed hreturns hrun
  obtain ⟨commands, hjournal, hcommands⟩ := hconduct.journal
  have hpassed : world.Passed outer back := (World.Passed.noted world _).trans hconduct.toPassed
  cases hverdict : job.verdict? (back.clock.now - world.clock.now) reply with
  | none =>
      simp only [hverdict] at hrun
      rw [hrun]
      exact ⟨hpassed, Or.inl ⟨rfl, hreturns (verdict?_none hverdict)⟩⟩
  | some verdict =>
      simp only [hverdict] at hrun
      rw [hrun]
      obtain ⟨hback, hresult⟩ := verdict?_some hverdict hnamed
      refine ⟨hpassed.trans (World.Passed.noted back _), Or.inr ⟨job.outcome verdict, _, rfl,
        ⟨rfl, rfl, hback, hresult, commands, hcommands, rfl⟩, ?_⟩⟩
      rw [World.journal_noted, hjournal]
      simp [called]

end Job

/-! ### One after the other -/

/-- Serial jobs leave the tokens and the paths to the engines. -/
theorem passed_runSerial {jobs : List (Job Rat σ)} (hproper : ∀ job ∈ jobs, job.engine.Proper outer) (token : Nat)
    (world : World Rat σ) : world.Passed outer (Change.on (runSerial token jobs) world).2 := by
  induction jobs generalizing world with
  | nil => exact World.Passed.of_eq rfl rfl
  | cons job rest ih =>
      have hrest := fun other hin => hproper other (List.mem_cons_of_mem _ hin)
      unfold runSerial
      rw [Change.on_bind, Change.on_askClock]
      cases world.clock.forest.reason? token with
      | some reason =>
          simp only [Change.on_bind, Change.on_log, Change.on_pure]
          exact (World.Passed.noted world _).trans (ih hrest _)
      | none =>
          simp only [Change.on_bind, Change.on_pure]
          exact (job.run_cases (hproper job List.mem_cons_self) token world).1.trans (ih hrest _)

/-- Under a token that is active at the end, serial jobs come back in their order. -/
theorem runSerial_answers {jobs : List (Job Rat σ)} (hproper : ∀ job ∈ jobs, job.engine.Proper outer)
    {world after : World Rat σ} {outcomes : List (Outcome Rat)}
    (h : Change.on (runSerial token jobs) world = (outcomes, after))
    (hactive : after.clock.forest.isCancelled token = false) :
    outcomes.length = jobs.length ∧ ∃ events, after.journal = world.journal ++ events ∧
      Answers (jobs.zip outcomes) events := by
  induction jobs generalizing world outcomes with
  | nil =>
      cases h
      exact ⟨rfl, [], (List.append_nil _).symm, .nil⟩
  | cons job rest ih =>
      have hrest := fun other hin => hproper other (List.mem_cons_of_mem _ hin)
      have hpassed := passed_runSerial hproper token world
      rw [h] at hpassed
      have hstart : world.clock.forest.reason? token = none := by
        have hopen := hpassed.active hactive
        unfold Forest.isCancelled at hopen
        simpa using hopen
      unfold runSerial at h
      rw [Change.on_bind, Change.on_askClock] at h
      simp only [hstart, Change.on_bind, Change.on_pure] at h
      obtain ⟨-, hcases⟩ := job.run_cases (hproper job List.mem_cons_self) token world
      rcases hjob : Change.on (job.run token) world with ⟨answer, middle⟩
      rcases hmore : Change.on (runSerial token rest) middle with ⟨others, last⟩
      rw [hjob] at h hcases
      simp only [hmore] at h
      obtain ⟨rfl, rfl⟩ := Prod.mk.inj h
      have hpassed' := passed_runSerial hrest token middle
      rw [hmore] at hpassed'
      rcases hcases with ⟨-, hcancelled⟩ | ⟨outcome, trace, houtcome, hanswered, hjournal⟩
      · have hopen := hpassed'.active hactive
        rw [hcancelled] at hopen
        cases hopen
      · obtain ⟨hlength, events, hevents, hanswers⟩ := ih hrest hmore
        cases houtcome
        refine ⟨congrArg (· + 1) hlength, trace ++ events, ?_, .cons hanswered hanswers⟩
        rw [hevents, hjournal, List.append_assoc]

/-! ### Side by side: what stays -/

/-- Whether a slot waits for a proper engine, if it waits. -/
def Slot.Proper (outer : Nat) : Slot Rat σ → Prop
  | .waiting job => job.engine.Proper outer
  | _ => True

theorem Slot.passed_proceed {slot : Slot Rat σ} (h : slot.Proper outer) (token : Nat) (world : World Rat σ) :
    world.Passed outer (Change.on (slot.proceed token) world).2 ∧
      (Change.on (slot.proceed token) world).1.Proper outer := by
  cases slot with
  | waiting job =>
      unfold Slot.proceed
      rw [Change.on_bind, Change.on_pure]
      refine ⟨(job.run_cases h token world).1, ?_⟩
      cases (Change.on (job.run token) world).1 <;> trivial
  | stuck job => exact ⟨World.Passed.of_eq rfl rfl, trivial⟩
  | back outcome => exact ⟨World.Passed.of_eq rfl rfl, trivial⟩

theorem Slot.proper_set {slots : List (Slot Rat σ)} (h : ∀ slot ∈ slots, slot.Proper outer) {slot : Slot Rat σ}
    (hslot : slot.Proper outer) (position : Nat) : ∀ other ∈ slots.set position slot, other.Proper outer := by
  intro other hother
  rcases List.mem_or_eq_of_mem_set hother with hold | rfl
  · exact h other hold
  · exact hslot

theorem passed_comeBack {slots : List (Slot Rat σ)} (h : ∀ slot ∈ slots, slot.Proper outer) (token : Nat)
    (positions : List Nat) (world : World Rat σ) :
    world.Passed outer (Change.on (comeBack token positions slots) world).2 ∧
      ∀ slot ∈ (Change.on (comeBack token positions slots) world).1, slot.Proper outer := by
  induction positions generalizing slots world with
  | nil => exact ⟨World.Passed.of_eq rfl rfl, h⟩
  | cons position rest ih =>
      unfold comeBack
      cases hslot : slots[position]? with
      | none => exact ih h world
      | some slot =>
          obtain ⟨hpassed, hproper⟩ := Slot.passed_proceed (h slot (List.mem_of_getElem? hslot)) token world
          simp only [Change.on_bind]
          obtain ⟨hrest, hall⟩ := ih (Slot.proper_set h hproper position) (Change.on (slot.proceed token) world).2
          exact ⟨hpassed.trans hrest, hall⟩

theorem passed_await {slots : List (Slot Rat σ)} (h : ∀ slot ∈ slots, slot.Proper outer) (token : Nat)
    (grace : List Nat) (polls : List (List Nat)) (world : World Rat σ) :
    world.Passed outer (Change.on (await token grace polls slots) world).2 := by
  induction polls generalizing slots world with
  | nil => exact (passed_comeBack h token _ world).1
  | cons positions rest ih =>
      obtain ⟨hpassed, hall⟩ := passed_comeBack h token positions world
      unfold await
      rw [Change.on_bind]
      split
      · exact hpassed
      · rw [Change.on_bind, Change.on_isCancelled]
        split
        · exact hpassed.trans (passed_comeBack hall token grace _).1
        · exact hpassed.trans (ih hall _)

theorem passed_settleAll (outer : Nat) (slots : List (Slot Rat σ)) (world : World Rat σ) :
    world.Passed outer (Change.on (settleAll slots) world).2 := by
  induction slots generalizing world with
  | nil => exact World.Passed.of_eq rfl rfl
  | cons slot rest ih =>
      have hone : world.Passed outer (Change.on slot.settle world).2 := by
        cases slot <;> exact World.Passed.of_eq rfl rfl
      unfold settleAll
      rw [Change.on_bind, Change.on_bind, Change.on_pure]
      exact hone.trans (ih _)

/-! ### Side by side: what comes back -/

/-- Slots of which each waits for its job or holds its outcome; `pairs` are the jobs that have come back,
in the order in which they did. -/
inductive Pending : List (Job Rat σ) → List (Slot Rat σ) → List (Job Rat σ × Outcome Rat) → Prop
  | nil : Pending [] [] []
  | waiting {job : Job Rat σ} {jobs : List (Job Rat σ)} {slots : List (Slot Rat σ)}
      {pairs : List (Job Rat σ × Outcome Rat)} (rest : Pending jobs slots pairs) :
      Pending (job :: jobs) (.waiting job :: slots) pairs
  | back {job : Job Rat σ} {outcome : Outcome Rat} {jobs : List (Job Rat σ)} {slots : List (Slot Rat σ)}
      {pairs all : List (Job Rat σ × Outcome Rat)} (rest : Pending jobs slots pairs)
      (order : all.Perm ((job, outcome) :: pairs)) : Pending (job :: jobs) (.back outcome :: slots) all

namespace Pending

variable {jobs : List (Job Rat σ)} {slots : List (Slot Rat σ)} {pairs : List (Job Rat σ × Outcome Rat)}

/-- At first all jobs are waited for. -/
theorem start (jobs : List (Job Rat σ)) : Pending jobs (jobs.map .waiting) [] := by
  induction jobs with
  | nil => exact .nil
  | cons job rest ih => exact .waiting ih

theorem slot (h : Pending jobs slots pairs) {position : Nat} {slot : Slot Rat σ} (hslot : slots[position]? = some slot) :
    (∃ job ∈ jobs, slot = .waiting job) ∨ ∃ outcome, slot = .back outcome := by
  induction h generalizing position with
  | nil => cases hslot
  | @waiting job jobs slots pairs rest ih =>
      cases position with
      | zero => exact Or.inl ⟨job, List.mem_cons_self, (Option.some.inj hslot).symm⟩
      | succ position =>
          rcases ih hslot with ⟨other, hother, heq⟩ | hback
          · exact Or.inl ⟨other, List.mem_cons_of_mem _ hother, heq⟩
          · exact Or.inr hback
  | @back job outcome jobs slots pairs all rest order ih =>
      cases position with
      | zero => exact Or.inr ⟨outcome, (Option.some.inj hslot).symm⟩
      | succ position =>
          rcases ih hslot with ⟨other, hother, heq⟩ | hback
          · exact Or.inl ⟨other, List.mem_cons_of_mem _ hother, heq⟩
          · exact Or.inr hback

/-- A job comes back. -/
theorem set (h : Pending jobs slots pairs) {position : Nat} {job : Job Rat σ}
    (hslot : slots[position]? = some (.waiting job)) (outcome : Outcome Rat) :
    Pending jobs (slots.set position (.back outcome)) (pairs ++ [(job, outcome)]) := by
  induction h generalizing position with
  | nil => cases hslot
  | waiting rest ih =>
      cases position with
      | zero =>
          cases Option.some.inj hslot
          exact .back rest List.perm_append_comm
      | succ position => exact .waiting (ih hslot)
  | back rest order ih =>
      cases position with
      | zero => cases Option.some.inj hslot
      | succ position => exact .back (ih hslot) (order.append_right _)

/-- When all slots are back, they hold one outcome per job. -/
theorem done (h : Pending jobs slots pairs) (hback : ∀ slot ∈ slots, slot.isBack = true) :
    ∃ outcomes : List (Outcome Rat), slots = outcomes.map .back ∧ outcomes.length = jobs.length ∧
      pairs.Perm (jobs.zip outcomes) := by
  induction h with
  | nil => exact ⟨[], rfl, rfl, .refl _⟩
  | waiting rest ih => cases hback _ List.mem_cons_self
  | @back job outcome jobs slots pairs all rest order ih =>
      obtain ⟨outcomes, rfl, hlength, hperm⟩ := ih fun slot hin => hback slot (List.mem_cons_of_mem _ hin)
      exact ⟨outcome :: outcomes, rfl, congrArg (· + 1) hlength, order.trans (hperm.cons _)⟩

theorem length (h : Pending jobs slots pairs) : slots.length = jobs.length := by
  induction h with
  | nil => rfl
  | waiting rest ih => exact congrArg (· + 1) ih
  | back rest order ih => exact congrArg (· + 1) ih

theorem proper (h : Pending jobs slots pairs) (hproper : ∀ job ∈ jobs, job.engine.Proper outer) :
    ∀ slot ∈ slots, slot.Proper outer := by
  intro slot hin
  obtain ⟨position, hslot⟩ := List.mem_iff_getElem?.mp hin
  rcases h.slot hslot with ⟨job, hjob, rfl⟩ | ⟨outcome, rfl⟩
  · exact hproper job hjob
  · trivial

end Pending

/-- Under a token that is active afterwards, one job that is waited for comes back, and one that is back stays. -/
theorem proceed_pending {jobs : List (Job Rat σ)} (hproper : ∀ job ∈ jobs, job.engine.Proper outer) {position : Nat}
    {slots : List (Slot Rat σ)} {slot next : Slot Rat σ} {pairs : List (Job Rat σ × Outcome Rat)}
    {world after : World Rat σ} (h : Pending jobs slots pairs) (hslot : slots[position]? = some slot)
    (hrun : Change.on (slot.proceed token) world = (next, after))
    (hactive : after.clock.forest.isCancelled token = false) :
    next.isBack = true ∧ (slot.isBack = true → next = slot) ∧
      ∃ more events, after.journal = world.journal ++ events ∧ Answers more events ∧
        Pending jobs (slots.set position next) (pairs ++ more) := by
  rcases h.slot hslot with ⟨job, hjob, rfl⟩ | ⟨outcome, rfl⟩
  · obtain ⟨-, hcases⟩ := job.run_cases (hproper job hjob) token world
    rcases hone : Change.on (job.run token) world with ⟨answer, last⟩
    rw [hone] at hcases
    simp only [Slot.proceed, Change.on_bind, Change.on_pure, hone] at hrun
    rcases hcases with ⟨rfl, hcancelled⟩ | ⟨outcome, trace, rfl, hanswered, htrace⟩
    · cases hrun
      rw [hcancelled] at hactive
      cases hactive
    · cases hrun
      have hanswers := Answers.cons hanswered .nil
      rw [List.append_nil] at hanswers
      exact ⟨rfl, fun hback => (by cases hback), [(job, outcome)], trace, htrace, hanswers, h.set hslot outcome⟩
  · cases hrun
    obtain ⟨hlt, hsame⟩ := List.getElem?_eq_some_iff.mp hslot
    refine ⟨rfl, fun _ => rfl, [], [], (List.append_nil _).symm, .nil, ?_⟩
    rw [List.append_nil, ← hsame, List.set_getElem_self]
    exact h

/-- Under a token that is active at the end, the jobs at some positions come back. -/
theorem comeBack_pending {jobs : List (Job Rat σ)} (hproper : ∀ job ∈ jobs, job.engine.Proper outer)
    {positions : List Nat} {slots next : List (Slot Rat σ)} {pairs : List (Job Rat σ × Outcome Rat)}
    {world after : World Rat σ} (h : Pending jobs slots pairs)
    (hrun : Change.on (comeBack token positions slots) world = (next, after))
    (hactive : after.clock.forest.isCancelled token = false) :
    ∃ more events, after.journal = world.journal ++ events ∧ Answers more events ∧ Pending jobs next (pairs ++ more) ∧
      (∀ (position : Nat) (slot : Slot Rat σ), slots[position]? = some slot → slot.isBack = true →
        next[position]? = some slot) ∧
      ∀ position ∈ positions, ∀ slot, next[position]? = some slot → slot.isBack = true := by
  induction positions generalizing slots pairs world with
  | nil =>
      cases hrun
      refine ⟨[], [], (List.append_nil _).symm, .nil, ?_, fun _ _ hslot _ => hslot, fun _ hin => by cases hin⟩
      rwa [List.append_nil]
  | cons position rest ih =>
      unfold comeBack at hrun
      cases hslot : slots[position]? with
      | none =>
          simp only [hslot] at hrun
          obtain ⟨more, events, hjournal, hanswers, hpending, hkept, hback⟩ := ih h hrun
          refine ⟨more, events, hjournal, hanswers, hpending, hkept, fun other hin slot hother => ?_⟩
          rcases List.mem_cons.mp hin with rfl | hin
          · have hlong := List.getElem?_eq_none_iff.mp hslot
            rw [h.length, ← hpending.length] at hlong
            rw [List.getElem?_eq_none hlong] at hother
            cases hother
          · exact hback other hin slot hother
      | some slot =>
          simp only [hslot, Change.on_bind] at hrun
          obtain ⟨-, hnew⟩ := Slot.passed_proceed (h.proper hproper slot (List.mem_of_getElem? hslot)) token world
          rcases hone : Change.on (slot.proceed token) world with ⟨new, middle⟩
          rw [hone] at hrun hnew
          have hlater := (passed_comeBack (Slot.proper_set (h.proper hproper) hnew position) token rest middle).1
          simp only at hrun
          rw [hrun] at hlater
          obtain ⟨hback, hsame, more, events, hjournal, hanswers, hpending⟩ :=
            proceed_pending hproper h hslot hone (hlater.active hactive)
          obtain ⟨more', events', hjournal', hanswers', hpending', hkept, hrest⟩ := ih hpending hrun
          have hplace : (slots.set position new)[position]? = some new :=
            List.getElem?_set_self (List.getElem?_eq_some_iff.mp hslot).1
          refine ⟨more ++ more', events ++ events', ?_, hanswers.append hanswers', ?_, ?_, ?_⟩
          · rw [hjournal', hjournal, List.append_assoc]
          · rwa [List.append_assoc] at hpending'
          · intro other old hother hisback
            refine hkept other old ?_ hisback
            by_cases heq : position = other
            · subst heq
              cases hslot.symm.trans hother
              rw [hplace, hsame hisback]
            · rw [List.getElem?_set_ne heq, hother]
          · intro other hin old hother
            rcases List.mem_cons.mp hin with rfl | hin
            · cases (hkept other _ hplace hback).symm.trans hother
              exact hback
            · exact hrest other hin old hother

/-- Under a token that is active at the end, all jobs that are waited for come back. -/
theorem await_pending {jobs : List (Job Rat σ)} (hproper : ∀ job ∈ jobs, job.engine.Proper outer)
    {grace : List Nat} {polls : List (List Nat)} {slots last : List (Slot Rat σ)}
    {pairs : List (Job Rat σ × Outcome Rat)} {world after : World Rat σ} (h : Pending jobs slots pairs)
    (hrun : Change.on (await token grace polls slots) world = (last, after))
    (hactive : after.clock.forest.isCancelled token = false) :
    ∃ more events, after.journal = world.journal ++ events ∧ Answers more events ∧ Pending jobs last (pairs ++ more) ∧
      ∀ slot ∈ last, slot.isBack = true := by
  induction polls generalizing slots pairs world with
  | nil =>
      obtain ⟨more, events, hjournal, hanswers, hpending, -, hback⟩ := comeBack_pending hproper h hrun hactive
      refine ⟨more, events, hjournal, hanswers, hpending, fun slot hin => ?_⟩
      obtain ⟨position, hslot⟩ := List.mem_iff_getElem?.mp hin
      refine hback position (List.mem_range.mpr ?_) slot hslot
      rw [h.length, ← hpending.length]
      exact (List.getElem?_eq_some_iff.mp hslot).1
  | cons positions rest ih =>
      unfold await at hrun
      rw [Change.on_bind] at hrun
      have hall := (passed_comeBack (h.proper hproper) token positions world).2
      rcases hone : Change.on (comeBack token positions slots) world with ⟨next, middle⟩
      rw [hone] at hrun hall
      simp only at hrun
      by_cases hdone : next.all Slot.isBack = true
      · rw [if_pos hdone] at hrun
        cases hrun
        obtain ⟨more, events, hjournal, hanswers, hpending, -, -⟩ := comeBack_pending hproper h hone hactive
        exact ⟨more, events, hjournal, hanswers, hpending, List.all_eq_true.mp hdone⟩
      · rw [if_neg hdone, Change.on_bind, Change.on_isCancelled] at hrun
        cases hcancelled : middle.clock.forest.isCancelled token with
        | true =>
            simp only [hcancelled, if_true] at hrun
            have hlater := (passed_comeBack hall token grace middle).1
            simp only [hrun] at hlater
            have hopen := hlater.active hactive
            rw [hcancelled] at hopen
            cases hopen
        | false =>
            simp only [hcancelled, Bool.false_eq_true, if_false] at hrun
            obtain ⟨more, events, hjournal, hanswers, hpending, -, -⟩ := comeBack_pending hproper h hone hcancelled
            obtain ⟨more', events', hjournal', hanswers', hpending', hback⟩ := ih hpending hrun
            refine ⟨more ++ more', events ++ events', ?_, hanswers.append hanswers', ?_, hback⟩
            · rw [hjournal', hjournal, List.append_assoc]
            · rwa [List.append_assoc] at hpending'

theorem on_settleAll_back (outcomes : List (Outcome Rat)) (world : World Rat σ) :
    Change.on (settleAll (outcomes.map .back)) world = (outcomes, world) := by
  induction outcomes with
  | nil => rfl
  | cons outcome rest ih =>
      simp only [List.map_cons, settleAll, Slot.settle, pure_bind, Change.on_bind, Change.on_pure, ih]

/-! ### A phase -/

/-- All jobs came back: one outcome per job, each with its stretch of the journal, in the order of the
jobs if they ran one after the other. -/
structure WorkedOff (serial : Bool) (jobs : List (Job Rat σ)) (outcomes : List (Outcome Rat))
    (events : List (Event Rat)) : Prop where
  length : outcomes.length = jobs.length
  answers : ∃ asides pairs rest, events = asides ++ rest ∧ (∀ event ∈ asides, event.Aside) ∧
    Answers pairs rest ∧ pairs.Perm (jobs.zip outcomes) ∧ (serial = true → pairs = jobs.zip outcomes)

variable {schedule : List (Job Rat σ) → World Rat σ → Schedule} {workers : Nat} {serial : Bool}

/-- Jobs leave the tokens and the paths to the engines. -/
theorem passed_tendJobs {jobs : List (Job Rat σ)} (hproper : ∀ job ∈ jobs, job.engine.Proper outer)
    (world : World Rat σ) : world.Passed outer (Change.on (tendJobs schedule token workers serial jobs) world).2 := by
  unfold tendJobs
  split
  · exact passed_runSerial hproper token world
  · simp only [Change.on_bind, Change.on_log, Change.on_get]
    refine (World.Passed.noted world [.pool (min workers jobs.length)]).trans ?_
    unfold tendParallel
    rw [Change.on_bind]
    exact (passed_await ((Pending.start jobs).proper hproper) token _ _ _).trans (passed_settleAll outer _ _)

/-- Under a token that is active at the end, all jobs come back. -/
theorem tendJobs_workedOff {jobs : List (Job Rat σ)} (hproper : ∀ job ∈ jobs, job.engine.Proper outer)
    {world after : World Rat σ} {outcomes : List (Outcome Rat)}
    (h : Change.on (tendJobs schedule token workers serial jobs) world = (outcomes, after))
    (hactive : after.clock.forest.isCancelled token = false) :
    ∃ events, after.journal = world.journal ++ events ∧ WorkedOff serial jobs outcomes events := by
  unfold tendJobs at h
  split at h
  · obtain ⟨hlength, events, hjournal, hanswers⟩ := runSerial_answers hproper h hactive
    exact ⟨events, hjournal, hlength, [], _, events, rfl, fun _ hin => (by cases hin), hanswers, .refl _, fun _ => rfl⟩
  · rename_i hparallel
    simp only [Change.on_bind, Change.on_log, Change.on_get] at h
    unfold tendParallel at h
    rw [Change.on_bind] at h
    rcases hawait : Change.on (await token (schedule jobs (world.noted [.pool (min workers jobs.length)])).grace
      (schedule jobs (world.noted [.pool (min workers jobs.length)])).polls (jobs.map .waiting))
      (world.noted [.pool (min workers jobs.length)]) with ⟨slots, middle⟩
    have hsettle : Change.on (settleAll slots) middle = (outcomes, after) := by
      simp only [World.noted] at hawait
      rw [hawait] at h
      exact h
    have hlater := passed_settleAll outer slots middle
    rw [hsettle] at hlater
    obtain ⟨pairs, events, hjournal, hanswers, hpending, hback⟩ :=
      await_pending hproper (Pending.start jobs) hawait (hlater.active hactive)
    obtain ⟨known, rfl, hlength, hperm⟩ := hpending.done hback
    rw [on_settleAll_back] at hsettle
    cases hsettle
    refine ⟨.pool (min workers jobs.length) :: events, ?_, hlength, [.pool (min workers jobs.length)], pairs, events,
      rfl, ?_, hanswers, hperm, fun hserial => ?_⟩
    · rw [hjournal]
      simp
    · intro event hin
      rw [List.mem_singleton.mp hin]
      trivial
    · rw [hserial] at hparallel
      simp at hparallel

namespace WorkedOff

variable {jobs : List (Job Rat σ)} {outcomes : List (Outcome Rat)} {events : List (Event Rat)}

theorem smooth (h : WorkedOff serial jobs outcomes events) : Smooth events := by
  obtain ⟨asides, pairs, rest, rfl, hasides, hanswers, -, -⟩ := h.answers
  exact (Smooth.asides hasides).append (.answers hanswers)

theorem aside (h : WorkedOff serial jobs outcomes events) {asides : List (Event Rat)}
    (hasides : ∀ event ∈ asides, event.Aside) : WorkedOff serial jobs outcomes (asides ++ events) := by
  obtain ⟨known, pairs, rest, rfl, hknown, hanswers, hperm, hserial⟩ := h.answers
  refine ⟨h.length, asides ++ known, pairs, rest, (List.append_assoc ..).symm, fun event hin => ?_, hanswers, hperm,
    hserial⟩
  rcases List.mem_append.mp hin with hnew | hold
  · exact hasides event hnew
  · exact hknown event hold

theorem answered (h : WorkedOff serial jobs outcomes events) {job : Job Rat σ} {outcome : Outcome Rat}
    (hin : (job, outcome) ∈ jobs.zip outcomes) : ∃ trace, job.Answered outcome trace := by
  obtain ⟨asides, pairs, rest, -, -, hanswers, hperm, -⟩ := h.answers
  exact hanswers.answered (hperm.mem_iff.mpr hin)

/-- Outcomes have the names of the engines of their jobs. -/
theorem engines (h : WorkedOff serial jobs outcomes events) :
    outcomes.map (·.engine) = jobs.map (·.engine.name) := by
  refine List.ext_getElem (by simp [h.length]) fun i houtcome hjob => ?_
  rw [List.length_map] at houtcome hjob
  simp only [List.getElem_map]
  have hin : (jobs[i], outcomes[i]) ∈ jobs.zip outcomes := by
    have hzip : i < (jobs.zip outcomes).length := by
      rw [List.length_zip]
      omega
    have hget := List.getElem_mem hzip
    rwa [List.getElem_zip] at hget
  obtain ⟨trace, hanswered⟩ := h.answered hin
  exact hanswered.engine

/-- The outcomes in the journal are the outcomes of the jobs. -/
theorem mem_outcomes (h : WorkedOff serial jobs outcomes events) {outcome : Outcome Rat}
    (hin : .completed outcome ∈ events) : ∃ job, (job, outcome) ∈ jobs.zip outcomes := by
  obtain ⟨asides, pairs, rest, rfl, hasides, hanswers, hperm, -⟩ := h.answers
  rcases List.mem_append.mp hin with haside | hrest
  · exact absurd (hasides _ haside) (by simp [Event.Aside])
  · obtain ⟨job, hjob⟩ := hanswers.mem_outcomes hrest
    exact ⟨job, hperm.mem_iff.mp hjob⟩

/-- A job has its outcome, at the same place. -/
theorem exists_split {before after : List (Job Rat σ)} {job : Job Rat σ}
    (h : WorkedOff serial (before ++ job :: after) outcomes events) :
    ∃ earlier outcome later, outcomes = earlier ++ outcome :: later ∧ earlier.length = before.length ∧
      later.length = after.length := by
  have hall := h.length
  simp only [List.length_append, List.length_cons] at hall
  have hlt : before.length < outcomes.length := by omega
  refine ⟨outcomes.take before.length, outcomes.get ⟨before.length, hlt⟩, outcomes.drop (before.length + 1), ?_, ?_, ?_⟩
  · rw [List.get_eq_getElem, List.getElem_cons_drop, List.take_append_drop]
  · rw [List.length_take]
    omega
  · rw [List.length_drop]
    omega

/-- A job covers its files.  The outcomes in the journal of other engines are among the other outcomes;
after a serial job, among the later ones. -/
theorem covers {before after : List (Job Rat σ)} {job : Job Rat σ} {earlier later : List (Outcome Rat)}
    {outcome : Outcome Rat} {file : String}
    (h : WorkedOff serial (before ++ job :: after) (earlier ++ outcome :: later) events)
    (hlength : earlier.length = before.length) (hfile : file ∈ job.files) :
    ∃ first last, Covers events job.engine.name job.pass file outcome first last ∧
      ∀ other, .completed other ∈ (if serial then last else first ++ last) → other.engine ≠ job.engine.name →
        other ∈ (if serial then [] else earlier) ++ later := by
  have hzip : (before ++ job :: after).zip (earlier ++ outcome :: later) =
      before.zip earlier ++ (job, outcome) :: after.zip later := by
    rw [List.zip_append hlength.symm, List.zip_cons_cons]
  cases serial with
  | true =>
      obtain ⟨asides, pairs, rest, rfl, hasides, hanswers, -, hserial⟩ := h.answers
      rw [hserial rfl, hzip] at hanswers
      obtain ⟨first, trace, last, rfl, hanswered, -, hlater⟩ := hanswers.split
      refine ⟨asides ++ first, last, ?_, fun other hin _ => ?_⟩
      · rw [← List.append_assoc, ← List.append_assoc]
        exact hanswered.covers hfile _ _
      · obtain ⟨late, hlate⟩ := hlater.mem_outcomes hin
        exact (List.of_mem_zip hlate).2
  | false =>
      obtain ⟨asides, pairs, rest, heq, hasides, hanswers, hperm, -⟩ := h.answers
      have hin : (job, outcome) ∈ pairs := by
        rw [hperm.mem_iff, hzip]
        exact List.mem_append_right _ List.mem_cons_self
      obtain ⟨left, right, rfl⟩ := List.append_of_mem hin
      obtain ⟨first, trace, last, rfl, hanswered, -, -⟩ := hanswers.split
      refine ⟨asides ++ first, last, ?_, fun other hother hengine => ?_⟩
      · rw [heq, ← List.append_assoc, ← List.append_assoc]
        exact hanswered.covers hfile _ _
      · have hevents : .completed other ∈ events := by
          rw [heq]
          simp only [Bool.false_eq_true, if_false, List.mem_append] at hother ⊢
          rcases hother with (haside | hfirst) | hlast
          · exact Or.inl haside
          · exact Or.inr (Or.inl (Or.inl hfirst))
          · exact Or.inr (Or.inr hlast)
        obtain ⟨late, hlate⟩ := h.mem_outcomes hevents
        have houtcomes := (List.of_mem_zip hlate).2
        rcases List.mem_append.mp houtcomes with hearlier | hrest
        · exact List.mem_append_left _ hearlier
        · rcases List.mem_cons.mp hrest with rfl | hlater
          · exact absurd hanswered.engine hengine
          · exact List.mem_append_right _ hlater

end WorkedOff

end FixFirst
