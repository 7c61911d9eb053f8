import FixFirst.Proofs.Act

/-!
# What a course takes note of

Taking note of outcomes changes the course of a run, and says something about it in the journal.
This module gives the changes as functions, and says what they keep.

## Main definitions

* `Event.Spoken` — an entry of the journal that is only words.
* `Course.taking`, `Course.takingAll` — a course after one outcome, and after a list of them.
* `Course.Grown`, `Course.Recorded` — what a course keeps, and what it knows of an outcome.
* `marks` — the files to be looked at again, engine by engine.

## Main statements

* `Course.on_record`, `Runner.on_recordBatches`, `Course.on_markRechecks`, `Course.enter_ok`.
* `Course.recorded_takingAll` — every outcome is taken note of.
* `Course.mem_results_takingAll` — a result that counts is kept.
-/

namespace FixFirst

variable {τ σ : Type}

/-- Whether an entry of the journal is only words: a remark or a warning. -/
def Event.Spoken : Event τ → Prop
  | .debug _ | .warned _ => True
  | _ => False

theorem World.on_warn_spoken (output : OutputConfig) (message : String) (world : World τ σ) :
    ∃ events, Act.on (output.warn message) world = (.ok (), world.noted events) ∧ ∀ event ∈ events, event.Spoken := by
  obtain ⟨events, hon, hall⟩ := World.on_warn output message world
  refine ⟨events, hon, fun event hevent => ?_⟩
  rw [hall event hevent]
  trivial

theorem World.on_warnIf (output : OutputConfig) (reason : Bool) (message : String) (world : World τ σ) :
    ∃ events, Act.on (output.warnIf reason message) world = (.ok (), world.noted events) ∧
      ∀ event ∈ events, event.Spoken := by
  cases reason with
  | true => exact World.on_warn_spoken output message world
  | false => exact ⟨[], by rw [World.noted_nil]; rfl, by simp⟩

namespace Course

/-! ### Outcomes -/

/-- A course after an outcome. -/
def taking (course : Course τ) (outcome : Outcome τ) : Course τ :=
  match outcome.verdict with
  | .missing message =>
    if course.unavailable.holds outcome.engine then course
    else { course with
      unavailable := course.unavailable.put outcome.engine message
      tracker := course.tracker.degrade }
  | .failure message => { course with failed := course.failed.put outcome.engine message }
  | .abandoned => course
  | .result result =>
    if result.success || result.cancelled then { course with results := course.results ++ [result] }
    else { course with
      failed := course.failed.put outcome.engine s!"{outcome.engine} reported an unsuccessful {result.pass.name} run" }

/-- A course after outcomes. -/
def takingAll (course : Course τ) (outcomes : List (Outcome τ)) : Course τ := outcomes.foldl taking course

theorem on_recordOne (output : OutputConfig) (course : Course τ) (outcome : Outcome τ) (world : World τ σ) :
    ∃ events, Act.on (course.recordOne output outcome) world = (.ok (course.taking outcome), world.noted events) ∧
      ∀ event ∈ events, event.Spoken := by
  unfold recordOne taking
  cases outcome.verdict with
  | missing message =>
      by_cases hknown : course.unavailable.holds outcome.engine = true
      · refine ⟨[], ?_, by simp⟩
        simp only [hknown, if_true, World.noted_nil, Act.on_pure]
      · obtain ⟨events, hon, hall⟩ := World.on_warn_spoken output
          s!"{outcome.engine} unavailable, continuing without it: {message}" world
        refine ⟨events, ?_, hall⟩
        simp only [hknown, Bool.false_eq_true, if_false]
        rw [Act.on_bind_of_ok hon, Act.on_pure]
  | failure message =>
      obtain ⟨events, hon, hall⟩ := World.on_warn_spoken output s!"{outcome.engine} failed: {message}" world
      refine ⟨events, ?_, hall⟩
      rw [Act.on_bind_of_ok hon, Act.on_pure]
  | abandoned =>
      refine ⟨[.debug s!"{outcome.engine} abandoned after cancellation"], ?_, by simp [Event.Spoken]⟩
      rw [Act.on_bind_of_ok (World.on_remark _ world), Act.on_pure]
  | result result =>
      by_cases hgood : (result.success || result.cancelled) = true
      · refine ⟨[], ?_, by simp⟩
        simp only [hgood, if_true, World.noted_nil, Act.on_pure]
      · obtain ⟨events, hon, hall⟩ := World.on_warn_spoken output
          s!"{outcome.engine} reported an unsuccessful {result.pass.name} run" world
        refine ⟨events, ?_, hall⟩
        simp only [hgood, Bool.false_eq_true, if_false]
        rw [Act.on_bind_of_ok hon, Act.on_pure]

/-- Taking note of outcomes says something in the journal and changes nothing else. -/
theorem on_record (output : OutputConfig) (course : Course τ) (outcomes : List (Outcome τ)) (world : World τ σ) :
    ∃ events, Act.on (course.record output outcomes) world = (.ok (course.takingAll outcomes), world.noted events) ∧
      ∀ event ∈ events, event.Spoken := by
  induction outcomes generalizing course world with
  | nil =>
      refine ⟨[], ?_, by simp⟩
      rw [World.noted_nil]
      rfl
  | cons outcome rest ih =>
      obtain ⟨events, hon, hall⟩ := on_recordOne output course outcome world
      obtain ⟨more, hmore, hrest⟩ := ih (course.taking outcome) (world.noted events)
      refine ⟨events ++ more, ?_, ?_⟩
      · unfold record
        rw [Act.on_bind_of_ok hon, hmore, World.noted_noted]
        rfl
      · intro event hevent
        rcases List.mem_append.mp hevent with h | h
        · exact hall event h
        · exact hrest event h

theorem takingAll_append (course : Course τ) (first second : List (Outcome τ)) :
    course.takingAll (first ++ second) = (course.takingAll first).takingAll second :=
  List.foldl_append

/-! ### What a course has taken note of -/

theorem holds_put {α : Type} (entries : Keyed α) (key other : String) (value : α) :
    (entries.put key value).holds other = (decide (key = other) || entries.holds other) := by
  unfold Keyed.holds
  rw [Keyed.get?_put]
  by_cases h : key = other <;> simp [h]

/-- Whether a course knows all that another one does of engines and results. -/
structure Grown (before after : Course τ) : Prop where
  unavailable : ∀ name, before.unavailable.holds name = true → after.unavailable.holds name = true
  failed : ∀ name, before.failed.holds name = true → after.failed.holds name = true
  results : ∀ result ∈ before.results, result ∈ after.results

theorem Grown.trans {first second third : Course τ} (h : first.Grown second) (h' : second.Grown third) :
    first.Grown third :=
  ⟨fun name hname => h'.unavailable name (h.unavailable name hname),
    fun name hname => h'.failed name (h.failed name hname),
    fun result hresult => h'.results result (h.results result hresult)⟩

theorem grown_taking (course : Course τ) (outcome : Outcome τ) : course.Grown (course.taking outcome) := by
  have hsame : course.Grown course := ⟨fun _ h => h, fun _ h => h, fun _ h => h⟩
  unfold taking
  split
  · split
    · exact hsame
    · exact { hsame with unavailable := fun name hname => by simp [holds_put, hname] }
  · exact { hsame with failed := fun name hname => by simp [holds_put, hname] }
  · exact hsame
  · split
    · exact { hsame with results := fun result hresult => List.mem_append_left _ hresult }
    · exact { hsame with failed := fun name hname => by simp [holds_put, hname] }

theorem grown_takingAll (course : Course τ) (outcomes : List (Outcome τ)) : course.Grown (course.takingAll outcomes) := by
  induction outcomes generalizing course with
  | nil => exact ⟨fun _ h => h, fun _ h => h, fun _ h => h⟩
  | cons outcome rest ih => exact (grown_taking course outcome).trans (ih _)

/-- Whether a course has taken note of an outcome. -/
def Recorded (course : Course τ) (outcome : Outcome τ) : Prop :=
  match outcome.verdict with
  | .missing _ => course.unavailable.holds outcome.engine = true
  | .failure _ => course.failed.holds outcome.engine = true
  | .abandoned => True
  | .result result =>
    if result.success || result.cancelled then result ∈ course.results
    else course.failed.holds outcome.engine = true

theorem Recorded.of_grown {before after : Course τ} {outcome : Outcome τ} (h : before.Recorded outcome)
    (hgrown : before.Grown after) : after.Recorded outcome := by
  unfold Recorded at h ⊢
  split at h
  · exact hgrown.unavailable _ h
  · exact hgrown.failed _ h
  · trivial
  · split at h
    · rename_i hgood
      rw [if_pos hgood]
      exact hgrown.results _ h
    · rename_i hbad
      rw [if_neg hbad]
      exact hgrown.failed _ h

theorem recorded_taking (course : Course τ) (outcome : Outcome τ) : (course.taking outcome).Recorded outcome := by
  unfold Recorded taking
  cases outcome.verdict with
  | missing message =>
      by_cases hknown : course.unavailable.holds outcome.engine = true
      · simp only [hknown, if_true]
      · simp [hknown, holds_put]
  | failure message => simp [holds_put]
  | abandoned => trivial
  | result result =>
      by_cases hgood : (result.success || result.cancelled) = true
      · simp [hgood]
      · simp [hgood, holds_put]

/-- A course has taken note of every outcome that it was given. -/
theorem recorded_takingAll (course : Course τ) {outcomes : List (Outcome τ)} {outcome : Outcome τ}
    (hin : outcome ∈ outcomes) : (course.takingAll outcomes).Recorded outcome := by
  obtain ⟨before, after, rfl⟩ := List.append_of_mem hin
  rw [takingAll_append]
  exact (recorded_taking _ outcome).of_grown (grown_takingAll _ after)

/-- The result of an engine that did not fail is kept. -/
theorem mem_results_takingAll {course : Course τ} {outcomes : List (Outcome τ)} {outcome : Outcome τ}
    {result : EngineResult τ} (hin : outcome ∈ outcomes) (hresult : outcome.verdict = .result result)
    (hfine : (course.takingAll outcomes).failed.holds outcome.engine = false) :
    result ∈ (course.takingAll outcomes).results := by
  have hrecorded := course.recorded_takingAll hin
  unfold Recorded at hrecorded
  rw [hresult] at hrecorded
  simp only [hfine, Bool.false_eq_true] at hrecorded
  split at hrecorded
  · exact hrecorded
  · cases hrecorded

/-- Taking note of outcomes leaves the rest of a course alone. -/
theorem takingAll_rest (course : Course τ) (outcomes : List (Outcome τ)) :
    (course.takingAll outcomes).omitted = course.omitted ∧ (course.takingAll outcomes).deferred = course.deferred ∧
      (course.takingAll outcomes).recheck = course.recheck ∧ (course.takingAll outcomes).timedOut = course.timedOut := by
  induction outcomes generalizing course with
  | nil => exact ⟨rfl, rfl, rfl, rfl⟩
  | cons outcome rest ih =>
      have hsame : course.takingAll (outcome :: rest) = (course.taking outcome).takingAll rest := rfl
      have hone : (course.taking outcome).omitted = course.omitted ∧ (course.taking outcome).deferred = course.deferred ∧
          (course.taking outcome).recheck = course.recheck ∧ (course.taking outcome).timedOut = course.timedOut := by
        unfold taking
        split
        · split <;> exact ⟨rfl, rfl, rfl, rfl⟩
        · exact ⟨rfl, rfl, rfl, rfl⟩
        · exact ⟨rfl, rfl, rfl, rfl⟩
        · split <;> exact ⟨rfl, rfl, rfl, rfl⟩
      rw [hsame]
      obtain ⟨ho, hd, hr, ht⟩ := ih (course.taking outcome)
      exact ⟨ho.trans hone.1, hd.trans hone.2.1, hr.trans hone.2.2.1, ht.trans hone.2.2.2⟩

/-! ### Files to be looked at again -/

/-- What is to be looked at again after one more outcome. -/
def mark (recheck : Keyed (List String)) (precise : Bool) (outcome : Outcome τ) (files : List String) :
    Keyed (List String) :=
  if precise && outcome.result?.isSome && !files.isEmpty then recheck.put outcome.engine files else recheck

/-- What is to be looked at again, engine by engine: after an engine that reports precisely, the files
that the others changed. -/
def marks (serial : Bool) : Keyed (List String) → List (Outcome τ) → List (Bool × Outcome τ) → Keyed (List String)
  | recheck, _, [] => recheck
  | recheck, earlier, (precise, outcome) :: later =>
    marks serial
      (mark recheck precise outcome (changedFiles ((if serial then [] else earlier) ++ later.map (·.2))))
      (earlier ++ [outcome]) later

theorem get?_mark_of_ne (recheck : Keyed (List String)) (precise : Bool) {outcome : Outcome τ} (files : List String)
    {name : String} (h : outcome.engine ≠ name) :
    (mark recheck precise outcome files).get? name = recheck.get? name := by
  unfold mark
  split
  · rw [Keyed.get?_put, if_neg h]
  · rfl

theorem get?_marks_of_not_mem {serial : Bool} {recheck : Keyed (List String)} {earlier : List (Outcome τ)}
    {later : List (Bool × Outcome τ)} {name : String} (h : ∀ pair ∈ later, pair.2.engine ≠ name) :
    (marks serial recheck earlier later).get? name = recheck.get? name := by
  induction later generalizing recheck earlier with
  | nil => rfl
  | cons pair later ih =>
      obtain ⟨precise, outcome⟩ := pair
      unfold marks
      rw [ih fun other hother => h other (List.mem_cons_of_mem _ hother)]
      exact get?_mark_of_ne recheck precise _ (h _ List.mem_cons_self)

/-- What others changed after an engine that reports precisely is to be looked at again by that engine. -/
theorem mem_marks {serial : Bool} {recheck : Keyed (List String)} {earlier : List (Outcome τ)}
    {before after : List (Bool × Outcome τ)} {outcome : Outcome τ} {file : String}
    (hother : ∀ pair ∈ after, pair.2.engine ≠ outcome.engine) (hresult : outcome.result?.isSome = true)
    (hfile : file ∈ changedFiles ((if serial then [] else earlier ++ before.map (·.2)) ++ after.map (·.2))) :
    file ∈ ((marks serial recheck earlier (before ++ (true, outcome) :: after)).get? outcome.engine).getD [] := by
  induction before generalizing recheck earlier with
  | nil =>
      rw [List.map_nil, List.append_nil] at hfile
      have hsome : (changedFiles ((if serial then [] else earlier) ++ after.map (·.2))).isEmpty = false := by
        rw [List.isEmpty_eq_false_iff]
        exact List.ne_nil_of_mem hfile
      rw [List.nil_append, marks, get?_marks_of_not_mem hother]
      unfold mark
      rw [hresult, hsome, Bool.true_and, Bool.not_false, Bool.true_and, if_pos rfl, Keyed.get?_put, if_pos rfl]
      exact hfile
  | cons pair before ih =>
      obtain ⟨precise, first⟩ := pair
      rw [List.cons_append, marks]
      refine ih ?_
      rwa [List.append_assoc, List.singleton_append]

theorem of_mem_mark {recheck : Keyed (List String)} {precise : Bool} {outcome : Outcome τ} {files : List String}
    {name file : String} (h : file ∈ ((mark recheck precise outcome files).get? name).getD []) :
    file ∈ (recheck.get? name).getD [] ∨ (outcome.engine = name ∧ file ∈ files) := by
  unfold mark at h
  split at h
  · rw [Keyed.get?_put] at h
    split at h
    · rename_i hname
      exact Or.inr ⟨hname, h⟩
    · exact Or.inl h
  · exact Or.inl h

/-- Only what others changed is to be looked at again. -/
theorem of_mem_marks {serial : Bool} {recheck : Keyed (List String)} {earlier : List (Outcome τ)}
    {later : List (Bool × Outcome τ)} {name file : String}
    (h : file ∈ ((marks serial recheck earlier later).get? name).getD []) :
    file ∈ (recheck.get? name).getD [] ∨ ∃ before own after, later.map (·.2) = before ++ own :: after ∧
      own.engine = name ∧ file ∈ changedFiles ((if serial then [] else earlier ++ before) ++ after) := by
  induction later generalizing recheck earlier with
  | nil => exact Or.inl h
  | cons pair later ih =>
      obtain ⟨precise, outcome⟩ := pair
      unfold marks at h
      rcases ih h with hmarked | ⟨before, own, after, hsplit, hname, hfile⟩
      · rcases of_mem_mark hmarked with hknown | ⟨hname, hfile⟩
        · exact Or.inl hknown
        · refine Or.inr ⟨[], outcome, later.map (·.2), rfl, hname, ?_⟩
          rwa [List.append_nil]
      · refine Or.inr ⟨outcome :: before, own, after, ?_, hname, ?_⟩
        · rw [List.map_cons, hsplit, List.cons_append]
        · rwa [List.append_assoc, List.singleton_append] at hfile

theorem on_markOne (course : Course τ) (precise : Bool) (outcome : Outcome τ) (files : List String)
    (world : World τ σ) :
    ∃ events, Act.on (course.markOne precise outcome files) world =
        (.ok { course with recheck := mark course.recheck precise outcome files }, world.noted events) ∧
      ∀ event ∈ events, event.Spoken := by
  unfold markOne mark
  by_cases hmark : (precise && outcome.result?.isSome && !files.isEmpty) = true
  · refine ⟨[.debug s!"{outcome.engine}: {files.length} file(s) rewritten by a later fixer"], ?_, by simp [Event.Spoken]⟩
    rw [if_pos hmark, if_pos hmark, Act.on_bind_of_ok (World.on_remark _ world), Act.on_pure]
  · refine ⟨[], ?_, by simp⟩
    rw [if_neg hmark, if_neg hmark, Act.on_pure, World.noted_nil]

theorem on_markRechecks (serial : Bool) (course : Course τ) (earlier : List (Outcome τ))
    (later : List (Bool × Outcome τ)) (world : World τ σ) :
    ∃ events, Act.on (course.markRechecks serial earlier later) world =
        (.ok { course with recheck := marks serial course.recheck earlier later }, world.noted events) ∧
      ∀ event ∈ events, event.Spoken := by
  induction later generalizing course earlier world with
  | nil =>
      refine ⟨[], ?_, by simp⟩
      rw [World.noted_nil]
      rfl
  | cons head later ih =>
      obtain ⟨precise, outcome⟩ := head
      obtain ⟨events, hon, hall⟩ := on_markOne course precise outcome
        (changedFiles ((if serial then [] else earlier) ++ later.map (·.2))) world
      obtain ⟨more, hmore, hrest⟩ := ih _ (earlier ++ [outcome]) (world.noted events)
      refine ⟨events ++ more, ?_, ?_⟩
      · unfold markRechecks
        rw [Act.on_bind_of_ok hon, hmore, World.noted_noted]
        rfl
      · intro event hevent
        rcases List.mem_append.mp hevent with h | h
        · exact hall event h
        · exact hrest event h

/-- Entering a phase moves the tracker and says so. -/
theorem enter_ok {course next : Course τ} {phase : Phase} {world after : World τ σ}
    (h : (course.enter phase).on world = (.ok next, after)) :
    ∃ tracker events, next = { course with tracker := tracker } ∧ after = world.noted events ∧
      ∀ event ∈ events, event.Spoken ∨ event = .entered phase := by
  unfold enter at h
  by_cases hend : course.tracker.terminal = true
  · rw [if_pos hend] at h
    cases h
    exact ⟨course.tracker, [], rfl, (World.noted_nil world).symm, by simp⟩
  · rw [if_neg hend] at h
    cases hnext : course.tracker.advance? phase with
    | none =>
        rw [hnext] at h
        cases h
    | some tracker =>
        simp only [hnext] at h
        rw [Act.on_bind_of_ok (World.on_remark _ world), Act.on_bind_of_ok (Act.on_log _ _)] at h
        cases h
        refine ⟨tracker, [.debug _, .entered phase], rfl, World.noted_noted world [_] [_], ?_⟩
        intro event hevent
        simp only [List.mem_cons, List.not_mem_nil, or_false] at hevent
        rcases hevent with rfl | rfl
        · exact Or.inl trivial
        · exact Or.inr rfl

/-- The course after the phases differs from the one before aggregation in its tracker only. -/
theorem wrapUp_ok {course next : Course τ} {id : String} {cancelled : Bool} {reason : Option String}
    {world after : World τ σ} (h : (course.wrapUp id cancelled reason).on world = (.ok next, after)) :
    ∃ tracker events, next = { course with tracker := tracker } ∧ after = world.noted events ∧
      ∀ event ∈ events, event.Spoken ∨ event = .entered .aggregate := by
  unfold wrapUp at h
  cases cancelled with
  | true =>
      simp only [if_true] at h
      rw [Act.on_bind_of_ok (World.on_remark _ world)] at h
      cases h
      refine ⟨_, _, rfl, rfl, fun event hevent => Or.inl ?_⟩
      rw [List.mem_singleton.mp hevent]
      trivial
  | false => exact enter_ok h

end Course

/-- Taking note of the outcomes of batches is taking note of all of them. -/
theorem Runner.on_recordBatches [Quantity τ] (runner : Runner τ σ) (course : Course τ) (batches : List (List (Outcome τ)))
    (world : World τ σ) :
    ∃ events, (runner.recordBatches course batches).on world =
        (.ok (course.takingAll batches.flatten), world.noted events) ∧
      ∀ event ∈ events, event.Spoken := by
  induction batches generalizing course world with
  | nil =>
      refine ⟨[], ?_, by simp⟩
      rw [World.noted_nil]
      rfl
  | cons outcomes rest ih =>
      obtain ⟨events, hon, hall⟩ := Course.on_record runner.config.output course outcomes world
      obtain ⟨more, hmore, hrest⟩ := ih (course.takingAll outcomes) (world.noted events)
      refine ⟨events ++ more, ?_, ?_⟩
      · unfold recordBatches
        rw [Act.on_bind_of_ok hon, hmore, World.noted_noted, List.flatten_cons, Course.takingAll_append]
      · intro event hevent
        rcases List.mem_append.mp hevent with h | h
        · exact hall event h
        · exact hrest event h

end FixFirst
