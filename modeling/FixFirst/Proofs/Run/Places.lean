import FixFirst.Proofs.Beside.Jobs

/-!
# One outcome for each job

Jobs are told apart by their places in the list, as several of them may be of one engine.  Whichever way
they are run, each is called at most once, and the outcome at its place is what its call came to; without
a call that came back, it is abandoned.  What happens to the world while a job is called is whatever the
call does, so a token may be cancelled at any moment: before, by a call, or while nothing comes back.

## Main definitions

* `Made` — what calls came to, by the places of their jobs.
* `JobStep` — one step of running jobs: a note, or the call of a job that was not called before.
* `outcomesOf` — the outcomes of jobs, after such calls.
* `Independent` — whether jobs do not influence each other.

## Main statements

* `Made.Kept` — what calls by place keep to, and `kept_of_steps`, that they do.
* `steps_tendJobs` — the jobs of a phase are run by such steps, and have these outcomes.
* `perm_notified` — the outcomes that are told of are those that are not abandoned.
* `one_outcome_each` — one outcome for each job, under any schedule.
-/

namespace FixFirst

open Relation (ReflTransGen)

variable {τ σ : Type}

/-! ### Outcomes -/

namespace Outcome

/-- What is said of a tool that was missing. -/
def missing? (outcome : Outcome τ) : Option String :=
  match outcome.verdict with
  | .missing message => some message
  | _ => none

/-- What is said of a call that failed. -/
def failure? (outcome : Outcome τ) : Option String :=
  match outcome.verdict with
  | .failure message => some message
  | _ => none

/-- Whether an outcome says one thing: that its call was abandoned, and then it holds nothing, or else exactly
one of a result, a missing tool and a failure. -/
def Single (outcome : Outcome τ) : Prop :=
  (outcome.isAbandoned = true ∧ outcome.result?.isSome = false ∧ outcome.missing? = none ∧ outcome.failure? = none) ∨
    (outcome.isAbandoned = false ∧
      [outcome.result?.isSome, outcome.missing?.isSome, outcome.failure?.isSome].count true = 1)

theorem single (outcome : Outcome τ) : outcome.Single := by
  rcases outcome with ⟨engine, pass, verdict⟩
  cases verdict with
  | abandoned => exact Or.inl ⟨rfl, rfl, rfl, rfl⟩
  | _ => exact Or.inr ⟨rfl, rfl⟩

end Outcome

/-! ### Calls by place -/

/-- What calls of jobs came to, in the order in which they were made, each with the place of its job; nothing
for a call that did not come back. -/
abbrev Made (τ : Type) := List (Nat × Option (Outcome τ))

/-- The places of the jobs that were called. -/
def Made.places (made : Made τ) : List Nat := made.map (·.1)

/-- What came back from the job at a place. -/
def Made.answer? (made : Made τ) (place : Nat) : Option (Outcome τ) := (made.lookup place).join

/-- The outcome of the job at a place: what came back from it, or else that it is abandoned. -/
def Job.outcomeAt (made : Made τ) (place : Nat) (job : Job τ σ) : Outcome τ :=
  (made.answer? place).getD (job.outcome .abandoned)

/-- The outcomes of jobs. -/
def outcomesOf (jobs : List (Job τ σ)) (made : Made τ) : List (Outcome τ) := jobs.mapIdx (Job.outcomeAt made)

/-- Where the job at a place is. -/
def Job.slotAt (made : Made τ) (place : Nat) (job : Job τ σ) : Slot τ σ :=
  match made.lookup place with
  | none => .waiting job
  | some none => .stuck job
  | some (some outcome) => .back outcome

/-- Where jobs are. -/
def slotsOf (jobs : List (Job τ σ)) (made : Made τ) : List (Slot τ σ) := jobs.mapIdx (Job.slotAt made)

namespace Made

@[simp] theorem places_append (made more : Made τ) : (made ++ more).places = made.places ++ more.places :=
  List.map_append

theorem lookup_eq_none {made : Made τ} {place : Nat} : made.lookup place = none ↔ place ∉ made.places := by
  constructor
  · intro hnone hin
    obtain ⟨entry, hentry, rfl⟩ := List.mem_map.mp hin
    simpa using List.lookup_eq_none_iff.mp hnone entry hentry
  · intro haway
    refine List.lookup_eq_none_iff.mpr fun entry hentry => ?_
    have hne : entry.1 ≠ place := fun hsame => haway (List.mem_map.mpr ⟨entry, hentry, hsame⟩)
    simpa using hne.symm

/-- What is looked up is one of the calls. -/
theorem mem_of_lookup {made : Made τ} {place : Nat} {answer : Option (Outcome τ)} (h : made.lookup place = some answer) :
    (place, answer) ∈ made := by
  obtain ⟨before, later, rfl, -⟩ := List.lookup_eq_some_iff.mp h
  exact List.mem_append_right _ List.mem_cons_self

theorem mem_of_answer? {made : Made τ} {place : Nat} {outcome : Outcome τ} (h : made.answer? place = some outcome) :
    (place, some outcome) ∈ made :=
  mem_of_lookup (Option.join_eq_some_iff.mp h)

/-- Where each place is named once, looking it up finds what stands beside it. -/
theorem lookup_of_mem {made : Made τ} (h : made.places.Nodup) {place : Nat} {answer : Option (Outcome τ)}
    (hin : (place, answer) ∈ made) : made.lookup place = some answer := by
  induction made with
  | nil => cases hin
  | cons first rest ih =>
      obtain ⟨own, known⟩ := first
      obtain ⟨haway, hrest⟩ := List.nodup_cons.mp h
      rcases List.mem_cons.mp hin with heq | hlater
      · cases heq
        exact List.lookup_cons_self
      · have hne : place ≠ own := by
          rintro rfl
          exact haway (List.mem_map.mpr ⟨(place, answer), hlater, rfl⟩)
        have hb : (place == own) = false := by simpa using hne
        simp only [List.lookup_cons, hb]
        exact ih hrest hlater

theorem lookup_snoc_self {made : Made τ} {place : Nat} (h : place ∉ made.places) (answer : Option (Outcome τ)) :
    List.lookup place (made ++ [(place, answer)]) = some answer := by
  rw [List.lookup_append, lookup_eq_none.mpr h, List.lookup_cons_self]
  rfl

theorem lookup_snoc_of_ne (made : Made τ) {place other : Nat} (h : other ≠ place) (answer : Option (Outcome τ)) :
    List.lookup other (made ++ [(place, answer)]) = made.lookup other := by
  have hb : (other == place) = false := by simpa using h
  rw [List.lookup_append]
  simp only [List.lookup_cons, List.lookup_nil, hb, Option.or_none]

/-- Where each place is named once, what came back is what the places named have. -/
theorem filterMap_places {made : Made τ} (h : made.places.Nodup) :
    made.places.filterMap made.answer? = made.filterMap (·.2) := by
  unfold places
  rw [List.filterMap_map]
  refine List.filterMap_congr fun entry hin => ?_
  show (made.lookup entry.1).join = entry.2
  rw [lookup_of_mem h hin]
  rfl

end Made

theorem outcomesOf_getElem? (jobs : List (Job τ σ)) (made : Made τ) (place : Nat) :
    (outcomesOf jobs made)[place]? = jobs[place]?.map (Job.outcomeAt made place) :=
  List.getElem?_mapIdx

@[simp] theorem length_outcomesOf (jobs : List (Job τ σ)) (made : Made τ) : (outcomesOf jobs made).length = jobs.length :=
  List.length_mapIdx

theorem slotsOf_getElem? (jobs : List (Job τ σ)) (made : Made τ) (place : Nat) :
    (slotsOf jobs made)[place]? = jobs[place]?.map (Job.slotAt made place) :=
  List.getElem?_mapIdx

@[simp] theorem length_slotsOf (jobs : List (Job τ σ)) (made : Made τ) : (slotsOf jobs made).length = jobs.length :=
  List.length_mapIdx

/-- Before any call, all jobs are waited for. -/
theorem slotsOf_nil (jobs : List (Job τ σ)) : slotsOf jobs [] = jobs.map .waiting := by
  refine List.ext_getElem? fun place => ?_
  rw [slotsOf_getElem?, List.getElem?_map]
  rfl

/-- A call changes where its own job is. -/
theorem slotsOf_snoc {jobs : List (Job τ σ)} {made : Made τ} {place : Nat} {job : Job τ σ} (hjob : jobs[place]? = some job)
    (hnew : place ∉ made.places) (answer : Option (Outcome τ)) :
    slotsOf jobs (made ++ [(place, answer)]) =
      (slotsOf jobs made).set place (match answer with | none => .stuck job | some outcome => .back outcome) := by
  refine List.ext_getElem? fun other => ?_
  rw [slotsOf_getElem?, List.getElem?_set, slotsOf_getElem?, length_slotsOf]
  by_cases hsame : place = other
  · subst hsame
    have hlt : place < jobs.length := (List.getElem?_eq_some_iff.mp hjob).1
    rw [if_pos rfl, if_pos hlt, hjob, Option.map_some]
    unfold Job.slotAt
    rw [Made.lookup_snoc_self hnew]
    cases answer <;> rfl
  · rw [if_neg hsame]
    unfold Job.slotAt
    rw [Made.lookup_snoc_of_ne made (Ne.symm hsame)]

/-! ### Steps -/

/-- Whether an entry of the journal is a note on how jobs are run. -/
def Event.IsNote : Event τ → Prop
  | .pool _ | .unstarted .. | .abandoned _ => True
  | _ => False

/-- The outcome that an entry of the journal tells of. -/
def Event.completed? : Event τ → Option (Outcome τ)
  | .completed outcome => some outcome
  | _ => none

/-- The outcomes that the entries of a journal tell of. -/
def notified (events : List (Event τ)) : List (Outcome τ) := events.filterMap Event.completed?

theorem notified_append (first second : List (Event τ)) : notified (first ++ second) = notified first ++ notified second :=
  List.filterMap_append

theorem notified_eq_nil {events : List (Event τ)} (h : ∀ event ∈ events, event.completed? = none) : notified events = [] :=
  List.filterMap_eq_nil_iff.mpr h

theorem Event.IsNote.completed? {event : Event τ} (h : event.IsNote) : event.completed? = none := by
  cases event <;> first | rfl | cases h

theorem Event.IsCommand.completed? {event : Event τ} (h : event.IsCommand) : event.completed? = none := by
  cases event <;> first | rfl | cases h

variable [Quantity τ]

/-- A step of running jobs: a note is made, or a job is called that was not called before. -/
inductive JobStep (token : Nat) (jobs : List (Job τ σ)) : Made τ × World τ σ → Made τ × World τ σ → Prop
  | noted {made : Made τ} {world : World τ σ} {events : List (Event τ)} (notes : ∀ event ∈ events, event.IsNote) :
      JobStep token jobs (made, world) (made, world.noted events)
  | called {made : Made τ} {world : World τ σ} {place : Nat} {job : Job τ σ} (here : jobs[place]? = some job)
      (new : place ∉ made.places) :
      JobStep token jobs (made, world)
        (made ++ [(place, (Change.on (job.run token) world).1)], (Change.on (job.run token) world).2)

/-- Any number of steps. -/
abbrev JobSteps (token : Nat) (jobs : List (Job τ σ)) : Made τ × World τ σ → Made τ × World τ σ → Prop :=
  ReflTransGen (JobStep token jobs)

section

variable {token : Nat} {jobs : List (Job τ σ)} {made made' : Made τ} {world world' start : World τ σ}

theorem JobStep.lasts (h : ∀ job ∈ jobs, job.engine.Lasting) {before after : Made τ × World τ σ}
    (hstep : JobStep token jobs before after) : before.2.clock.Lasts after.2.clock := by
  cases hstep with
  | noted notes => exact Clockwork.Lasts.refl _
  | called here new => exact Job.lasts_run (h _ (List.mem_of_getElem? here)) token _

/-- Jobs take back no cancellation when their engines do not. -/
theorem lasts_of_steps (h : ∀ job ∈ jobs, job.engine.Lasting) {before after : Made τ × World τ σ}
    (hsteps : JobSteps token jobs before after) : before.2.clock.Lasts after.2.clock := by
  induction hsteps with
  | refl => exact Clockwork.Lasts.refl _
  | tail _ hstep ih => exact ih.trans (hstep.lasts h)

/-- Calls are added to those made before. -/
theorem append_of_steps {before after : Made τ × World τ σ} (hsteps : JobSteps token jobs before after) :
    ∃ more, after.1 = before.1 ++ more := by
  induction hsteps with
  | refl => exact ⟨[], (List.append_nil _).symm⟩
  | tail _ hstep ih =>
      obtain ⟨more, hmore⟩ := ih
      cases hstep with
      | noted notes => exact ⟨more, hmore⟩
      | called here new => exact ⟨more ++ [_], (congrArg (· ++ _) hmore).trans (List.append_assoc ..)⟩

theorem places_of_steps {before after : Made τ × World τ σ} (hsteps : JobSteps token jobs before after) :
    before.1.places ⊆ after.1.places := by
  obtain ⟨more, hmore⟩ := append_of_steps hsteps
  rw [hmore, Made.places_append]
  exact List.subset_append_left _ _

/-! ### What calls by place keep to -/

/-- What calls by place keep to: each job is called at most once, what came back is what its call came to, and
the journal tells of it. -/
structure Made.Kept (token : Nat) (jobs : List (Job τ σ)) (start : World τ σ) (made : Made τ) (world : World τ σ) :
    Prop where
  nodup : made.places.Nodup
  within : ∀ place ∈ made.places, place < jobs.length
  answers : ∀ place answer, (place, answer) ∈ made →
    ∃ job asked, jobs[place]? = some job ∧ (Change.on (job.run token) asked).1 = answer
  told : ∃ events, world.journal = start.journal ++ events ∧ notified events = made.filterMap (·.2)

/-- What a job adds to the journal tells of its outcome, if it came back, and of nothing else. -/
theorem Job.told_run {job : Job τ σ} (hdiscreet : job.engine.Discreet) (token : Nat) (world : World τ σ) :
    ∃ events, (Change.on (job.run token) world).2.journal = world.journal ++ events ∧
      notified events = (Change.on (job.run token) world).1.toList := by
  obtain ⟨commands, hjournal, hcommands⟩ :=
    hdiscreet.calls job.pass job.files token (world.noted [.called job.engine.name job.pass job.files])
  rcases hcall : Change.on (job.engine.call job.pass job.files token)
    (world.noted [.called job.engine.name job.pass job.files]) with ⟨reply, back⟩
  rw [hcall] at hjournal
  have hback : back.journal = world.journal ++ (.called job.engine.name job.pass job.files :: commands) := by
    rw [hjournal, World.journal_noted, List.append_assoc]
    rfl
  have hquiet : notified (.called job.engine.name job.pass job.files :: commands) = [] := by
    refine notified_eq_nil fun event hin => ?_
    rcases List.mem_cons.mp hin with rfl | hcommand
    · rfl
    · exact (hcommands event hcommand).completed?
  rw [job.on_run token world hcall]
  cases job.verdict? (back.clock.now - world.clock.now) reply with
  | none => exact ⟨_, hback, hquiet⟩
  | some verdict =>
      refine ⟨(.called job.engine.name job.pass job.files :: commands) ++ [.completed (job.outcome verdict)], ?_, ?_⟩
      · rw [World.journal_noted, hback, List.append_assoc]
      · rw [notified_append, hquiet]
        rfl

namespace Made.Kept

theorem initial (token : Nat) (jobs : List (Job τ σ)) (start : World τ σ) : Kept token jobs start [] start :=
  ⟨.nil, fun _ hin => (by cases hin), fun _ _ hin => (by cases hin), [], (List.append_nil _).symm, rfl⟩

/-- What one step keeps. -/
theorem step (hdiscreet : ∀ job ∈ jobs, job.engine.Discreet) (h : Kept token jobs start made world)
    (hstep : JobStep token jobs (made, world) (made', world')) : Kept token jobs start made' world' := by
  obtain ⟨events, hjournal, htold⟩ := h.told
  cases hstep with
  | @noted _ _ notes hnotes =>
      refine { h with told := ⟨events ++ notes, ?_, ?_⟩ }
      · rw [World.journal_noted, hjournal, List.append_assoc]
      · rw [notified_append, htold, notified_eq_nil fun event hin => (hnotes event hin).completed?, List.append_nil]
  | @called _ _ place job here new =>
      obtain ⟨own, hown, htold'⟩ := job.told_run (hdiscreet _ (List.mem_of_getElem? here)) token world
      refine ⟨?_, ?_, ?_, events ++ own, ?_, ?_⟩
      · rw [Made.places_append]
        refine List.nodup_append.mpr ⟨h.nodup, List.nodup_singleton _, fun other hother last hlast => ?_⟩
        obtain rfl : last = place := List.mem_singleton.mp hlast
        rintro rfl
        exact new hother
      · intro other hother
        rw [Made.places_append] at hother
        rcases List.mem_append.mp hother with hold | hlast
        · exact h.within other hold
        · rw [List.mem_singleton.mp hlast]
          exact (List.getElem?_eq_some_iff.mp here).1
      · intro other answer hin
        rcases List.mem_append.mp hin with hold | hlast
        · exact h.answers other answer hold
        · obtain ⟨rfl, hanswer⟩ := Prod.mk.inj (List.mem_singleton.mp hlast)
          exact ⟨job, world, here, hanswer.symm⟩
      · rw [hown, hjournal, List.append_assoc]
      · rw [notified_append, htold, htold', List.filterMap_append]
        cases (Change.on (job.run token) world).1 <;> rfl

end Made.Kept

/-- What any number of steps keep. -/
theorem kept_of_steps (hdiscreet : ∀ job ∈ jobs, job.engine.Discreet)
    (hsteps : JobSteps token jobs ([], start) (made, world)) : Made.Kept token jobs start made world := by
  suffices h : ∀ after : Made τ × World τ σ, JobSteps token jobs ([], start) after → Made.Kept token jobs start after.1 after.2 from
    h _ hsteps
  intro after hafter
  induction hafter with
  | refl => exact .initial token jobs start
  | tail _ hstep ih => exact ih.step hdiscreet hstep

end

/-! ### Jobs come back -/

section

variable {token : Nat} {jobs : List (Job τ σ)}

/-- The job at a place is called unless it was called before. -/
theorem steps_proceed (token : Nat) {place : Nat} {job : Job τ σ} (hjob : jobs[place]? = some job) (made : Made τ) (world : World τ σ) :
    ∃ made' world', JobSteps token jobs (made, world) (made', world') ∧ place ∈ made'.places ∧
      (slotsOf jobs made).set place (Change.on ((job.slotAt made place).proceed token) world).1 = slotsOf jobs made' ∧
      (Change.on ((job.slotAt made place).proceed token) world).2 = world' := by
  have hslot : (slotsOf jobs made)[place]? = some (job.slotAt made place) := by
    rw [slotsOf_getElem?, hjob]
    rfl
  by_cases hold : place ∈ made.places
  · -- A job that was called is left where it is.
    have hsame : Change.on ((job.slotAt made place).proceed token) world = (job.slotAt made place, world) := by
      unfold Job.slotAt
      rcases hlookup : made.lookup place with _ | _ | outcome
      · exact absurd hold (Made.lookup_eq_none.mp hlookup)
      · rfl
      · rfl
    refine ⟨made, world, .refl, hold, ?_, congrArg Prod.snd hsame⟩
    rw [hsame]
    exact set_self hslot
  · have hwaiting : job.slotAt made place = .waiting job := by
      unfold Job.slotAt
      rw [Made.lookup_eq_none.mpr hold]
    refine ⟨_, _, .single (.called hjob hold), ?_, ?_, ?_⟩
    · rw [Made.places_append]
      exact List.mem_append_right _ List.mem_cons_self
    · rw [hwaiting, slotsOf_snoc hjob hold]
      congr 1
      unfold Slot.proceed
      rw [Change.on_bind]
      cases (Change.on (job.run token) world).1 <;> rfl
    · rw [hwaiting]
      rfl

/-- Jobs that come back take such steps, after which they have been called. -/
theorem steps_comeBack (token : Nat) (jobs : List (Job τ σ)) (positions : List Nat) (made : Made τ) (world : World τ σ) :
    ∃ made' world', Change.on (comeBack token positions (slotsOf jobs made)) world = (slotsOf jobs made', world') ∧
      JobSteps token jobs (made, world) (made', world') ∧
      ∀ place ∈ positions, place < jobs.length → place ∈ made'.places := by
  induction positions generalizing made world with
  | nil => exact ⟨made, world, rfl, .refl, fun _ hin => by cases hin⟩
  | cons position rest ih =>
      unfold comeBack
      rw [slotsOf_getElem?]
      cases hjob : jobs[position]? with
      | none =>
          obtain ⟨made', world', hon, hsteps, hcalled⟩ := ih made world
          refine ⟨made', world', hon, hsteps, fun place hin hlt => ?_⟩
          rcases List.mem_cons.mp hin with rfl | hrest
          · exact absurd (List.getElem?_eq_none_iff.mp hjob) (Nat.not_le_of_lt hlt)
          · exact hcalled place hrest hlt
      | some job =>
          obtain ⟨middle, _, hfirst, hplace, hset, rfl⟩ := steps_proceed token hjob made world
          obtain ⟨made', world', hon, hsteps, hcalled⟩ := ih middle (Change.on ((job.slotAt made position).proceed token) world).2
          refine ⟨made', world', ?_, hfirst.trans hsteps, fun place hin hlt => ?_⟩
          · simp only [Option.map_some, Change.on_bind]
            rw [hset]
            exact hon
          · rcases List.mem_cons.mp hin with rfl | hrest
            · exact places_of_steps hsteps hplace
            · exact hcalled place hrest hlt

omit [Quantity τ] in
/-- A job that is back was called. -/
theorem mem_places_of_isBack {job : Job τ σ} {made : Made τ} {place : Nat} (h : (job.slotAt made place).isBack = true) :
    place ∈ made.places := by
  by_contra hnew
  unfold Job.slotAt at h
  rw [Made.lookup_eq_none.mpr hnew] at h
  cases h

/-- Jobs that are waited for take such steps; unless their token is cancelled in the end, all have been called. -/
theorem steps_await (token : Nat) (jobs : List (Job τ σ)) (grace : List Nat) (polls : List (List Nat)) (made : Made τ) (world : World τ σ) :
    ∃ made' world', Change.on (await token grace polls (slotsOf jobs made)) world = (slotsOf jobs made', world') ∧
      JobSteps token jobs (made, world) (made', world') ∧
      ((∀ job ∈ jobs, job.engine.Lasting) → world'.clock.forest.isCancelled token = false →
        ∀ place < jobs.length, place ∈ made'.places) := by
  induction polls generalizing made world with
  | nil =>
      unfold await
      rw [length_slotsOf]
      obtain ⟨made', world', hon, hsteps, hcalled⟩ := steps_comeBack token jobs (List.range jobs.length) made world
      exact ⟨made', world', hon, hsteps, fun _ _ place hlt => hcalled place (List.mem_range.mpr hlt) hlt⟩
  | cons positions rest ih =>
      obtain ⟨middle, world₁, hback, hfirst, -⟩ := steps_comeBack token jobs positions made world
      unfold await
      rw [Change.on_bind, hback]
      split
      · rename_i hall
        refine ⟨middle, world₁, rfl, hfirst, fun _ _ place hlt => ?_⟩
        have hslot : (slotsOf jobs middle)[place]? = some (jobs[place].slotAt middle place) := by
          rw [slotsOf_getElem?, List.getElem?_eq_getElem hlt, Option.map_some]
        exact mem_places_of_isBack (List.all_eq_true.mp hall _ (List.mem_of_getElem? hslot))
      · rw [Change.on_bind, Change.on_isCancelled]
        split
        · rename_i hcancelled
          obtain ⟨made', world', hon, hsteps, -⟩ := steps_comeBack token jobs grace middle world₁
          refine ⟨made', world', hon, hfirst.trans hsteps, fun hlasting hactive => ?_⟩
          have hstill := (lasts_of_steps hlasting hsteps).cancelled token hcancelled
          exact absurd (hactive.symm.trans hstill) (by decide)
        · obtain ⟨made', world', hon, hsteps, hcalled⟩ := ih middle world₁
          exact ⟨made', world', hon, hfirst.trans hsteps, hcalled⟩

omit [Quantity τ] in
/-- Slots that settle without more than notes, one by one. -/
theorem settleAll_mapIdx {slot : Nat → Job τ σ → Slot τ σ} {outcome : Nat → Job τ σ → Outcome τ}
    (h : ∀ place job (world : World τ σ), ∃ lost, (∀ event ∈ lost, event.IsNote) ∧
      Change.on (slot place job).settle world = (outcome place job, world.noted lost)) (world : World τ σ) :
    ∃ lost, (∀ event ∈ lost, event.IsNote) ∧
      Change.on (settleAll (jobs.mapIdx slot)) world = (jobs.mapIdx outcome, world.noted lost) := by
  induction jobs generalizing slot outcome world with
  | nil => exact ⟨[], by simp, by rw [World.noted_nil]; rfl⟩
  | cons job rest ih =>
      obtain ⟨first, hfirst, hsettle⟩ := h 0 job world
      obtain ⟨more, hmore, hrest⟩ := ih (fun place => h (place + 1)) (world.noted first)
      refine ⟨first ++ more, fun event hin => ?_, ?_⟩
      · rcases List.mem_append.mp hin with hin | hin
        · exact hfirst event hin
        · exact hmore event hin
      · rw [List.mapIdx_cons, List.mapIdx_cons]
        unfold settleAll
        rw [Change.on_bind, Change.on_bind, Change.on_pure, hsettle]
        simp only [hrest, World.noted_noted]

omit [Quantity τ] in
/-- The jobs that have not come back are abandoned. -/
theorem settleAll_slotsOf (jobs : List (Job τ σ)) (made : Made τ) (world : World τ σ) :
    ∃ lost, (∀ event ∈ lost, event.IsNote) ∧
      Change.on (settleAll (slotsOf jobs made)) world = (outcomesOf jobs made, world.noted lost) := by
  refine settleAll_mapIdx (fun place job world => ?_) world
  have habandoned : ∀ event ∈ [Event.abandoned (τ := τ) job.engine.name], event.IsNote := fun event hin => by
    rw [List.mem_singleton.mp hin]
    trivial
  unfold Job.slotAt Job.outcomeAt Made.answer?
  rcases made.lookup place with _ | _ | outcome
  · exact ⟨_, habandoned, rfl⟩
  · exact ⟨_, habandoned, rfl⟩
  · exact ⟨[], by simp, by rw [World.noted_nil]; rfl⟩

/-! ### One after the other -/

omit [Quantity τ] in
theorem outcomeAt_of_not_mem {made : Made τ} {place : Nat} (h : place ∉ made.places) (job : Job τ σ) :
    job.outcomeAt made place = job.outcome .abandoned := by
  unfold Job.outcomeAt Made.answer?
  rw [Made.lookup_eq_none.mpr h]
  rfl

omit [Quantity τ] in
/-- What a job came to is not changed by later calls. -/
theorem outcomeAt_called {made : Made τ} {place : Nat} (h : place ∉ made.places) (answer : Option (Outcome τ))
    (more : Made τ) (job : Job τ σ) :
    job.outcomeAt (made ++ (place, answer) :: more) place = answer.getD (job.outcome .abandoned) := by
  unfold Job.outcomeAt Made.answer?
  rw [List.append_cons, List.lookup_append, Made.lookup_snoc_self h]
  rfl

/-- Serial jobs from a place on: they take such steps, each at a place of its own, and unless their token is
cancelled in the end, all have been called. -/
theorem steps_runSerial (token : Nat) (rest : List (Job τ σ)) (count : Nat) (hrest : ∀ place, jobs[count + place]? = rest[place]?)
    (made : Made τ) (hmade : ∀ place ∈ made.places, place < count) (world : World τ σ) :
    ∃ more world', Change.on (runSerial token rest) world =
        (rest.mapIdx fun place => Job.outcomeAt (made ++ more) (count + place), world') ∧
      JobSteps token jobs (made, world) (made ++ more, world') ∧ (∀ place ∈ Made.places more, count ≤ place) ∧
      ((∀ job ∈ jobs, job.engine.Lasting) → world'.clock.forest.isCancelled token = false →
        ∀ place < rest.length, count + place ∈ Made.places more) := by
  induction rest generalizing count made world with
  | nil =>
      refine ⟨[], world, rfl, ?_, fun place hin => (by cases hin), fun _ _ place hlt => absurd hlt (Nat.not_lt_zero _)⟩
      rw [List.append_nil]
  | cons job rest ih =>
      have hjob : jobs[count]? = some job := hrest 0
      have hnew : count ∉ made.places := fun hin => Nat.lt_irrefl _ (hmade count hin)
      have hlater : ∀ place, jobs[count + 1 + place]? = rest[place]? := fun place => by
        rw [Nat.add_right_comm]
        exact hrest (place + 1)
      have hplaces : ∀ made : Made τ, (fun place => Job.outcomeAt (σ := σ) made (count + 1 + place)) =
          fun place => Job.outcomeAt made (count + (place + 1)) := fun made =>
        funext fun place => by rw [Nat.add_right_comm, Nat.add_assoc]
      unfold runSerial
      rw [Change.on_bind, Change.on_askClock]
      cases hreason : world.clock.forest.reason? token with
      | some reason =>
          -- The job is not started, and its place is not named later.
          obtain ⟨more, world', hon, hsteps, hfrom, -⟩ := ih (count + 1) hlater made
            (fun place hin => Nat.lt_succ_of_lt (hmade place hin)) (world.noted [.unstarted job.engine.name reason])
          have hnote : JobStep token jobs (made, world) (made, world.noted [.unstarted job.engine.name reason]) :=
            .noted fun event hin => by
              rw [List.mem_singleton.mp hin]
              trivial
          have hnever : count ∉ (made ++ more).places := by
            rw [Made.places_append]
            intro hin
            rcases List.mem_append.mp hin with hold | hmore
            · exact hnew hold
            · exact Nat.not_succ_le_self _ (hfrom count hmore)
          refine ⟨more, world', ?_, .head hnote hsteps, fun place hin => Nat.le_of_succ_le (hfrom place hin), ?_⟩
          · simp only [Change.on_bind, Change.on_log, Change.on_pure]
            unfold World.noted at hon
            rw [hon, List.mapIdx_cons, hplaces, Nat.add_zero, outcomeAt_of_not_mem hnever]
          · intro hlasting hactive
            have hcancelled : world.clock.forest.isCancelled token = true := by
              unfold Forest.isCancelled
              rw [hreason]
              rfl
            have hstill := (lasts_of_steps hlasting hsteps).cancelled token hcancelled
            exact absurd (hactive.symm.trans hstill) (by decide)
      | none =>
          let answer := (Change.on (job.run token) world).1
          obtain ⟨more, world', hon, hsteps, hfrom, hall⟩ := ih (count + 1) hlater
            (made ++ [(count, answer)]) (fun place hin => by
              rw [Made.places_append] at hin
              rcases List.mem_append.mp hin with hold | hlast
              · exact Nat.lt_succ_of_lt (hmade place hold)
              · rw [List.mem_singleton.mp hlast]
                exact Nat.lt_succ_self count) (Change.on (job.run token) world).2
          refine ⟨(count, answer) :: more, world', ?_, ?_, ?_, ?_⟩
          · simp only [Change.on_bind, Change.on_pure]
            rw [hon, List.mapIdx_cons, hplaces, Nat.add_zero, ← List.append_cons, outcomeAt_called hnew]
          · rw [List.append_cons]
            exact .head (.called hjob hnew) hsteps
          · intro place hin
            rcases List.mem_cons.mp hin with rfl | hmore
            · exact Nat.le_refl _
            · exact Nat.le_of_succ_le (hfrom place hmore)
          · intro hlasting hactive place hlt
            cases place with
            | zero => exact List.mem_cons_self
            | succ place =>
                have hmore := hall hlasting hactive place (Nat.lt_of_succ_lt_succ hlt)
                rw [Nat.add_right_comm, Nat.add_assoc] at hmore
                exact List.mem_cons_of_mem _ hmore

/-- The jobs of a phase take such steps, and have the outcomes that these leave; unless their token is cancelled
in the end, all have been called. -/
theorem steps_tendJobs (token : Nat) (schedule : List (Job τ σ) → World τ σ → Schedule) (workers : Nat) (serial : Bool)
    (jobs : List (Job τ σ)) (start : World τ σ) :
    ∃ made after, Change.on (tendJobs schedule token workers serial jobs) start = (outcomesOf jobs made, after) ∧
      JobSteps token jobs ([], start) (made, after) ∧
      ((∀ job ∈ jobs, job.engine.Lasting) → after.clock.forest.isCancelled token = false →
        ∀ place < jobs.length, place ∈ made.places) := by
  unfold tendJobs
  split
  · obtain ⟨made, after, hon, hsteps, -, hall⟩ := steps_runSerial token jobs 0
      (fun place => by rw [Nat.zero_add]) [] (fun _ hin => by cases hin) start
    refine ⟨made, after, ?_, hsteps, ?_⟩
    · rw [hon]
      simp only [List.nil_append, Nat.zero_add]
      rfl
    · simpa only [Nat.zero_add] using hall
  · simp only [Change.on_bind, Change.on_log, Change.on_get]
    have hpool : JobStep token jobs ([], start) ([], start.noted [.pool (min workers jobs.length)]) := .noted fun event hin => by
      rw [List.mem_singleton.mp hin]
      trivial
    obtain ⟨made, middle, hawait, hsteps, hall⟩ := steps_await token jobs
      (schedule jobs (start.noted [.pool (min workers jobs.length)])).grace
      (schedule jobs (start.noted [.pool (min workers jobs.length)])).polls [] (start.noted [.pool (min workers jobs.length)])
    obtain ⟨lost, hlost, hsettle⟩ := settleAll_slotsOf jobs made middle
    refine ⟨made, middle.noted lost, ?_, .tail (.head hpool hsteps) (.noted hlost), hall⟩
    unfold tendParallel
    rw [Change.on_bind]
    rw [slotsOf_nil] at hawait
    exact (congrArg (fun awaited => Change.on (settleAll awaited.1) awaited.2) hawait).trans hsettle

end

/-! ### One outcome for each job -/

section

variable {token : Nat} {jobs : List (Job τ σ)} {made : Made τ} {start after : World τ σ}

/-- What came back is not abandoned. -/
theorem Job.isAbandoned_run {job : Job τ σ} {token : Nat} {world : World τ σ} {outcome : Outcome τ}
    (h : (Change.on (job.run token) world).1 = some outcome) : outcome.isAbandoned = false := by
  rw [job.on_run token world rfl] at h
  split at h
  · cases h
  · rename_i verdict hverdict
    cases h
    unfold Job.verdict? at hverdict
    split at hverdict
    · cases hverdict
      rfl
    · obtain rfl := Option.some.inj hverdict
      split <;> rfl
    · cases hverdict

/-- The outcomes told of are those that are not abandoned, each once. -/
theorem perm_notified (h : Made.Kept token jobs start made after) :
    (made.filterMap (·.2)).Perm ((outcomesOf jobs made).filter (!·.isAbandoned)) := by
  have hback : ∀ place outcome, made.answer? place = some outcome → outcome.isAbandoned = false := by
    intro place outcome hanswer
    obtain ⟨job, asked, -, hrun⟩ := h.answers place _ (Made.mem_of_answer? hanswer)
    exact Job.isAbandoned_run hrun
  -- The outcomes that are not abandoned are the answers at all places.
  have hfilter : (outcomesOf jobs made).filter (!·.isAbandoned) = (List.range jobs.length).filterMap made.answer? := by
    unfold outcomesOf
    rw [← List.filterMap_eq_filter, List.mapIdx_eq_zipIdx_map, List.filterMap_map, List.range_eq_range',
      ← List.zipIdx_map_snd, List.filterMap_map]
    refine List.filterMap_congr fun entry _ => ?_
    show Option.guard (!·.isAbandoned) (entry.1.outcomeAt made entry.2) = made.answer? entry.2
    unfold Job.outcomeAt
    cases hanswer : made.answer? entry.2 with
    | none => rfl
    | some outcome =>
        refine Option.guard_eq_some_iff.mpr ⟨rfl, ?_⟩
        simp [hback entry.2 outcome hanswer]
  -- Only the places named have an answer.
  have hplaces : ((List.range jobs.length).filter (made.places.contains ·)).Perm made.places := by
    refine (List.perm_ext_iff_of_nodup (List.nodup_range.filter _) h.nodup).mpr fun place => ?_
    rw [List.mem_filter, List.contains_iff_mem, List.mem_range]
    exact ⟨And.right, fun hin => ⟨h.within place hin, hin⟩⟩
  have hnamed : (List.range jobs.length).filterMap made.answer? =
      ((List.range jobs.length).filter (made.places.contains ·)).filterMap made.answer? := by
    rw [List.filterMap_filter]
    refine List.filterMap_congr fun place _ => ?_
    split
    · rfl
    · rename_i haway
      unfold Made.answer?
      rw [Made.lookup_eq_none.mpr fun hin => haway (List.contains_iff_mem.mpr hin)]
      rfl
  rw [hfilter, hnamed, ← Made.filterMap_places h.nodup]
  exact (hplaces.filterMap _).symm

/-- Whether jobs do not influence each other: whichever others were called before, each comes to what it comes to
at the start. -/
def Independent (token : Nat) (jobs : List (Job τ σ)) (start : World τ σ) : Prop :=
  ∀ made world, JobSteps token jobs ([], start) (made, world) → ∀ place job, jobs[place]? = some job →
    place ∉ made.places → (Change.on (job.run token) world).1 = (Change.on (job.run token) start).1

/-- Calls that do not influence each other come to what they come to at the start. -/
theorem answers_of_independent (h : Independent token jobs start) (hsteps : JobSteps token jobs ([], start) (made, after)) :
    ∀ place job answer, (place, answer) ∈ made → jobs[place]? = some job →
      answer = (Change.on (job.run token) start).1 := by
  suffices hall : ∀ reached : Made τ × World τ σ, JobSteps token jobs ([], start) reached → ∀ place job answer,
      (place, answer) ∈ reached.1 → jobs[place]? = some job → answer = (Change.on (job.run token) start).1 from
    hall _ hsteps
  intro reached hreached
  induction hreached with
  | refl =>
      intro place job answer hin
      cases hin
  | tail hbefore hstep ih =>
      intro place job answer hin hjob
      cases hstep with
      | noted notes => exact ih place job answer hin hjob
      | called here new =>
          rcases List.mem_append.mp hin with hold | hlast
          · exact ih place job answer hold hjob
          · obtain ⟨rfl, rfl⟩ := Prod.mk.inj (List.mem_singleton.mp hlast)
            obtain rfl := Option.some.inj (here.symm.trans hjob)
            exact h _ _ hbefore _ _ here new

/-- Jobs that do not influence each other come to what each comes to by itself, if all are called. -/
theorem outcomesOf_of_independent (h : Independent token jobs start)
    (hsteps : JobSteps token jobs ([], start) (made, after)) (hall : ∀ place < jobs.length, place ∈ made.places) :
    outcomesOf jobs made = jobs.map fun job => (Change.on (job.run token) start).1.getD (job.outcome .abandoned) := by
  refine List.ext_getElem? fun place => ?_
  rw [outcomesOf_getElem?, List.getElem?_map]
  cases hjob : jobs[place]? with
  | none => rfl
  | some job =>
      have hcalled := hall place (List.getElem?_eq_some_iff.mp hjob).1
      cases hlookup : made.lookup place with
      | none => exact absurd hcalled (Made.lookup_eq_none.mp hlookup)
      | some answer =>
          have hanswer := answers_of_independent h hsteps place job answer (Made.mem_of_lookup hlookup) hjob
          simp only [Option.map_some, Job.outcomeAt, Made.answer?, hlookup, Option.join_some, hanswer]

/-- What is found of a job that was called. -/
theorem Made.Kept.outcomeAt (h : Made.Kept token jobs start made after) {place : Nat} {job : Job τ σ}
    (hjob : jobs[place]? = some job) (hcalled : place ∈ made.places) :
    ∃ asked, job.outcomeAt made place = (Change.on (job.run token) asked).1.getD (job.outcome .abandoned) := by
  cases hlookup : made.lookup place with
  | none => exact absurd hcalled (Made.lookup_eq_none.mp hlookup)
  | some answer =>
      obtain ⟨own, asked, hown, rfl⟩ := h.answers place _ (Made.mem_of_lookup hlookup)
      obtain rfl := Option.some.inj (hown.symm.trans hjob)
      refine ⟨asked, ?_⟩
      unfold Job.outcomeAt Made.answer?
      rw [hlookup, Option.join_some]

/-- Jobs that do not influence each other come to what each comes to by itself, if their token is never cancelled. -/
theorem on_runJobs_of_independent (hlasting : ∀ job ∈ jobs, job.engine.Lasting) (h : Independent token jobs start)
    {granted : Bool} {schedule : List (Job τ σ) → World τ σ → Schedule} {workers : Nat} {serial : Bool}
    (hactive : ((runJobs granted schedule token workers serial jobs).on start).2.clock.forest.isCancelled token = false) :
    ((runJobs granted schedule token workers serial jobs).on start).1 =
      .ok (jobs.map fun job => (Change.on (job.run token) start).1.getD (job.outcome .abandoned)) := by
  rcases runJobs_cases granted schedule token workers serial jobs start with
    ⟨outcomes, after, hon, htended⟩ | ⟨-, -, order, slots, after, hon, -, hcancelled⟩
  · obtain ⟨made, last, htend, hsteps, hall⟩ :=
      steps_tendJobs token (fun jobs world => (schedule jobs world).within granted) workers serial jobs start
    obtain ⟨rfl, rfl⟩ := Prod.mk.inj (htended.symm.trans htend)
    rw [hon] at hactive ⊢
    exact congrArg Except.ok (outcomesOf_of_independent h hsteps (hall hlasting hactive))
  · rw [hon] at hactive
    exact absurd (hactive.symm.trans hcancelled) (by decide)

/-- **One outcome for each job**, under any schedule, however many workers there are, and whenever the token is
cancelled.  The outcomes stand in the order of the jobs: each is what the call of its job came to, or else that it
was abandoned, and says one thing; while the token is active, none is abandoned whose call comes back.  The
outcomes that are not abandoned are told of once each, and no others.  If the jobs do not influence each other and
the token is never cancelled, they come to the same side by side as one after the other.  There are no outcomes
only where the system does not grant the time of grace, and the token was cancelled. -/
theorem one_outcome_each (hdiscreet : ∀ job ∈ jobs, job.engine.Discreet) (granted : Bool)
    (schedule : List (Job τ σ) → World τ σ → Schedule) (token workers : Nat) (serial : Bool) (start : World τ σ) :
    (∃ (outcomes : List (Outcome τ)) (after : World τ σ),
      (runJobs granted schedule token workers serial jobs).on start = (.ok outcomes, after) ∧
      outcomes.length = jobs.length ∧
      (∀ (place : Nat) (job : Job τ σ), jobs[place]? = some job → ∃ outcome, outcomes[place]? = some outcome ∧
        outcome.engine = job.engine.name ∧ outcome.pass = job.pass ∧ outcome.Single ∧
        (outcome = job.outcome .abandoned ∨ ∃ asked, (Change.on (job.run token) asked).1 = some outcome)) ∧
      (∃ events, after.journal = start.journal ++ events ∧
        (notified events).Perm (outcomes.filter (!·.isAbandoned))) ∧
      ((∀ job ∈ jobs, job.engine.Lasting) → after.clock.forest.isCancelled token = false →
        ∀ (place : Nat) (job : Job τ σ), jobs[place]? = some job → ∃ asked,
          outcomes[place]? = some ((Change.on (job.run token) asked).1.getD (job.outcome .abandoned))) ∧
      ((∀ job ∈ jobs, job.engine.Lasting) → Independent token jobs start →
        (∀ serial, ((runJobs granted schedule token workers serial jobs).on start).2.clock.forest.isCancelled token =
          false) →
        ((runJobs granted schedule token workers false jobs).on start).1 =
          ((runJobs granted schedule token workers true jobs).on start).1)) ∨
      granted = false ∧ ∃ after, (runJobs granted schedule token workers serial jobs).on start =
        (.error World.refusedWait, after) ∧ after.clock.forest.isCancelled token = true := by
  rcases runJobs_cases granted schedule token workers serial jobs start with
    ⟨outcomes, after, hon, htended⟩ | ⟨hgranted, -, order, slots, after, hon, -, hcancelled⟩
  · refine Or.inl ⟨outcomes, after, hon, ?_⟩
    obtain ⟨made, last, htend, hsteps, hall⟩ :=
      steps_tendJobs token (fun jobs world => (schedule jobs world).within granted) workers serial jobs start
    obtain ⟨rfl, rfl⟩ := Prod.mk.inj (htended.symm.trans htend)
    have hkept := kept_of_steps hdiscreet hsteps
    have hplace : ∀ (place : Nat) (job : Job τ σ), jobs[place]? = some job →
        (outcomesOf jobs made)[place]? = some (job.outcomeAt made place) := fun place job hjob => by
      rw [outcomesOf_getElem?, hjob, Option.map_some]
    refine ⟨length_outcomesOf jobs made, fun place job hjob => ?_, ?_, ?_, ?_⟩
    · refine ⟨job.outcomeAt made place, hplace place job hjob, ?_⟩
      unfold Job.outcomeAt
      cases hanswer : made.answer? place with
      | none => exact ⟨rfl, rfl, Outcome.single _, Or.inl rfl⟩
      | some outcome =>
          obtain ⟨own, asked, hown, hrun⟩ := hkept.answers place _ (Made.mem_of_answer? hanswer)
          obtain rfl := Option.some.inj (hown.symm.trans hjob)
          have hyields := own.yields_run (Prod.ext hrun rfl)
          exact ⟨hyields.engine, hyields.pass, Outcome.single _, Or.inr ⟨asked, hrun⟩⟩
    · obtain ⟨events, hjournal, htold⟩ := hkept.told
      exact ⟨events, hjournal, htold ▸ perm_notified hkept⟩
    · intro hlasting hactive place job hjob
      obtain ⟨asked, houtcome⟩ :=
        hkept.outcomeAt hjob (hall hlasting hactive place (List.getElem?_eq_some_iff.mp hjob).1)
      exact ⟨asked, (hplace place job hjob).trans (congrArg some houtcome)⟩
    · intro hlasting hindependent hactive
      rw [on_runJobs_of_independent hlasting hindependent (hactive false),
        on_runJobs_of_independent hlasting hindependent (hactive true)]
  · exact Or.inr ⟨hgranted, after, hon, hcancelled⟩

end

/-! ### Two engines side by side -/

namespace Crossed

/-- An engine that always answers the same. -/
def answering (name : String) (reply : Reply Rat) : Engine Rat Unit where
  name := name
  kind := .lint
  canFix := false
  precise := false
  prepare _ := return
  reset := return
  check _ _ := return reply
  fix _ _ := return reply

/-- A result, and the lack of a tool. -/
def jobs : List (Job Rat Unit) :=
  [⟨answering "ruff" (.result ⟨"ruff", .lint, .check, true, [], 0, some true, 0, [], [], false⟩), .check, ["/a"]⟩,
    ⟨answering "mypy" (.fault (.toolMissing "mypy" none)), .check, ["/a"]⟩]

/-- The second job comes back first. -/
def schedule (_ : List (Job Rat Unit)) (_ : World Rat Unit) : Schedule := ⟨[[1], [0]], []⟩

def start : World Rat Unit := World.still (Disk.empty [] []) ()

theorem on_call (name : String) (reply : Reply Rat) (pass : Pass) (files : List String) (token : Nat)
    (world : World Rat Unit) :
    Change.on ((answering name reply).call pass files token) world = (reply, world) := by
  cases pass <;> rfl

theorem discreet : ∀ job ∈ jobs, job.engine.Discreet := by
  have hanswering : ∀ name reply, (answering name reply).Discreet := fun name reply =>
    { prepares _ world := ⟨[], (List.append_nil _).symm, by simp⟩
      calls pass files token world := by
        rw [on_call]
        exact ⟨[], (List.append_nil _).symm, by simp⟩ }
  simp [jobs, hanswering]

theorem lasting : ∀ job ∈ jobs, job.engine.Lasting := by
  have hanswering : ∀ name reply, (answering name reply).Lasting := fun name reply world =>
    ⟨fun _ => Clockwork.Lasts.refl _, fun pass files token => by
      rw [on_call]
      exact Clockwork.Lasts.refl _⟩
  simp [jobs, hanswering]

/-- Engines that always answer the same do not influence each other. -/
theorem independent : Independent 0 jobs start := by
  intro made world _ place job hjob _
  obtain ⟨name, reply, hengine⟩ : ∃ name reply, job.engine = answering name reply := by
    rcases List.mem_cons.mp (List.mem_of_getElem? hjob) with rfl | hrest
    · exact ⟨_, _, rfl⟩
    · obtain rfl := List.mem_singleton.mp hrest
      exact ⟨_, _, rfl⟩
  have halways : ∀ world : World Rat Unit,
      (Change.on (job.run 0) world).1 = (job.verdict? 0 reply).map job.outcome := by
    intro world
    have hcall := on_call name reply job.pass job.files 0 (world.noted [.called job.engine.name job.pass job.files])
    rw [← hengine] at hcall
    rw [job.on_run 0 world hcall]
    have htime : (world.noted [.called job.engine.name job.pass job.files]).clock.now - world.clock.now = 0 := sub_self _
    rw [htime]
    cases job.verdict? 0 reply <;> rfl
  rw [halways, halways]

theorem one_outcome_each_crossed :
    ∃ (outcomes : List (Outcome Rat)) (events : List (Event Rat)),
      ((runJobs true schedule 0 2 false jobs).on start).1 = .ok outcomes ∧ outcomes.length = 2 ∧
      (notified events).Perm (outcomes.filter (!·.isAbandoned)) ∧
      ((runJobs true schedule 0 2 false jobs).on start).1 = ((runJobs true schedule 0 2 true jobs).on start).1 := by
  rcases one_outcome_each discreet true schedule 0 2 false start with
    ⟨outcomes, after, hon, hlength, -, ⟨events, -, htold⟩, -, hsame⟩ | ⟨hrefused, -⟩
  · have hactive : ∀ serial, ((runJobs true schedule 0 2 serial jobs).on start).2.clock.forest.isCancelled 0 = false := by
      intro serial
      cases serial <;> rfl
    exact ⟨outcomes, events, congrArg Prod.fst hon, hlength, htold, hsame lasting independent hactive⟩
  · cases hrefused

example : ((runJobs true schedule 0 2 false jobs).on start).1.map (List.map (·.engine)) = .ok ["ruff", "mypy"] := by
  rfl

/-- A call during which the token is cancelled. -/
def interrupted : Job Rat Unit where
  engine := { answering "mypy" .silence with check := fun _ token => do
    World.moveClock (·.cancel token "interrupted")
    return .fault (.cancelled "interrupted") }
  pass := .check
  files := ["/a"]

example : ((runJobs true schedule 0 2 false (jobs.set 1 interrupted)).on start).1.map (List.map (·.isAbandoned)) =
    .ok [true, false] := by
  cbv

-- Where the time of grace is not granted, the job that is late then is waited for in vain.
example : ((runJobs false schedule 0 2 false (jobs.set 1 interrupted)).on start).1 = .error World.refusedWait := by
  cbv

end Crossed

end FixFirst
