import FixFirst.Proofs.Run.Calls
import FixFirst.Proofs.Run.Fixing
import FixFirst.Proofs.Run.Passage

/-!
# The outcomes that a run keeps

A run takes note of the outcomes of its fix calls, and of those of the check batches that were in time.
What it knows of engines and results afterwards is a function of these outcomes, in their order.

## Main definitions

* `Outcome.Fails`, `Outcome.Missing`, `Outcome.taken?` — what an outcome means to a course.
* `Course.Took` — a course that took note of outcomes, and of nothing else.
* `FixRound`, `Runner.fixRound` — the fix calls of a run, before anything is made of their outcomes.
* `Runner.watchedChecks` — the check batches of a run, with notes on each.

## Main statements

* `Runner.fixFirst_round` — the fix phase is its round, and what is made of it.
* `Passage.exists_calls` — the results of the check batches that count are those of the batches in time.
* `Passage.took` — a run took note of the outcomes of its fix round and its check batches, in this order.
* `Passage.yields` — each of them is one of a job.
-/

namespace FixFirst

variable {τ σ : Type}

/-! ### What outcomes mean -/

namespace Outcome

/-- Whether an outcome makes its engine a failed one. -/
def Fails (outcome : Outcome τ) : Prop :=
  (∃ message, outcome.verdict = .failure message) ∨
    ∃ result, outcome.verdict = .result result ∧ result.success = false ∧ result.cancelled = false

/-- Whether an outcome says that a tool is missing. -/
def Missing (outcome : Outcome τ) : Prop := ∃ message, outcome.verdict = .missing message

/-- The result that is kept of an outcome. -/
def taken? (outcome : Outcome τ) : Option (EngineResult τ) :=
  outcome.result?.filter fun result => result.success || result.cancelled

theorem result?_eq_some {outcome : Outcome τ} {result : EngineResult τ} :
    outcome.result? = some result ↔ outcome.verdict = .result result := by
  unfold result?
  cases outcome.verdict <;> simp

/-- An outcome that does not fail its engine is kept, if it is a result. -/
theorem taken?_of_not_fails {outcome : Outcome τ} (h : ¬ outcome.Fails) : outcome.taken? = outcome.result? := by
  unfold taken?
  cases hresult : outcome.result? with
  | none => rfl
  | some result =>
      have hverdict := result?_eq_some.mp hresult
      have hgood : (result.success || result.cancelled) = true := by
        refine Classical.byContradiction fun hbad => h (Or.inr ⟨result, hverdict, ?_⟩)
        simpa using hbad
      simp [hgood]

end Outcome

namespace Course

theorem results_taking (course : Course τ) (outcome : Outcome τ) :
    (course.taking outcome).results = course.results ++ outcome.taken?.toList := by
  unfold taking Outcome.taken? Outcome.result?
  cases outcome.verdict with
  | missing message => by_cases hknown : course.unavailable.holds outcome.engine = true <;> simp [hknown]
  | failure message => simp
  | abandoned => simp
  | result result =>
      by_cases hgood : (result.success || result.cancelled) = true
      · simp only [hgood, if_true, Option.filter_some]
        rfl
      · simp only [hgood, Bool.false_eq_true, if_false, Option.filter_some]
        exact (List.append_nil _).symm

theorem failed_taking (course : Course τ) (outcome : Outcome τ) (name : String) :
    (course.taking outcome).failed.holds name = true ↔
      course.failed.holds name = true ∨ (outcome.engine = name ∧ outcome.Fails) := by
  unfold taking Outcome.Fails
  cases outcome.verdict with
  | missing message => by_cases hknown : course.unavailable.holds outcome.engine = true <;> simp [hknown]
  | failure message => simp [holds_put, or_comm]
  | abandoned => simp
  | result result =>
      by_cases hgood : (result.success || result.cancelled) = true
      · have hnot : ¬ (result.success = false ∧ result.cancelled = false) := by
          rintro ⟨hsuccess, hcancelled⟩
          simp [hsuccess, hcancelled] at hgood
        simp [hgood, hnot]
      · have hbad : result.success = false ∧ result.cancelled = false := by simpa using hgood
        simp [hbad, holds_put, or_comm]

theorem unavailable_taking (course : Course τ) (outcome : Outcome τ) (name : String) :
    (course.taking outcome).unavailable.holds name = true ↔
      course.unavailable.holds name = true ∨ (outcome.engine = name ∧ outcome.Missing) := by
  unfold taking Outcome.Missing
  cases outcome.verdict with
  | missing message =>
      by_cases hknown : course.unavailable.holds outcome.engine = true
      · simp only [hknown, if_true]
        refine ⟨Or.inl, ?_⟩
        rintro (hheld | ⟨rfl, -⟩)
        · exact hheld
        · exact hknown
      · simp [hknown, holds_put, or_comm]
  | failure message => simp
  | abandoned => simp
  | result result => by_cases hgood : (result.success || result.cancelled) = true <;> simp [hgood]

/-- Whether what a course knows of engines and results is what outcomes say. -/
structure Took (course : Course τ) (outcomes : List (Outcome τ)) : Prop where
  results : course.results = outcomes.filterMap Outcome.taken?
  failed : ∀ name, course.failed.holds name = true ↔ ∃ outcome ∈ outcomes, outcome.engine = name ∧ outcome.Fails
  unavailable : ∀ name, course.unavailable.holds name = true ↔
    ∃ outcome ∈ outcomes, outcome.engine = name ∧ outcome.Missing

theorem Took.initial : (Course.initial : Course τ).Took [] :=
  ⟨rfl, by simp [Course.initial, Keyed.holds], by simp [Course.initial, Keyed.holds]⟩

theorem Took.taking {course : Course τ} {outcomes : List (Outcome τ)} (h : course.Took outcomes) (outcome : Outcome τ) :
    (course.taking outcome).Took (outcomes ++ [outcome]) := by
  have hlast : ∀ P : Outcome τ → Prop, (∃ other ∈ outcomes ++ [outcome], P other) ↔
      (∃ other ∈ outcomes, P other) ∨ P outcome := by
    intro P
    simp only [List.mem_append, List.mem_singleton, or_and_right, exists_or, exists_eq_left]
  refine ⟨?_, fun name => ?_, fun name => ?_⟩
  · rw [results_taking, h.results, List.filterMap_append]
    cases houtcome : outcome.taken? <;> simp [houtcome]
  · rw [failed_taking, hlast, h.failed]
  · rw [unavailable_taking, hlast, h.unavailable]

theorem Took.takingAll {course : Course τ} {outcomes : List (Outcome τ)} (h : course.Took outcomes)
    (more : List (Outcome τ)) : (course.takingAll more).Took (outcomes ++ more) := by
  induction more generalizing course outcomes with
  | nil =>
      rw [List.append_nil]
      exact h
  | cons outcome rest ih =>
      have hnext := ih (h.taking outcome)
      rw [List.append_assoc, List.singleton_append] at hnext
      exact hnext

/-- The results of engines that did not fail, where results carry the names of their engines. -/
theorem Took.usable {course : Course τ} {outcomes : List (Outcome τ)} (h : course.Took outcomes)
    (hsigned : ∀ outcome ∈ outcomes, ∀ result, outcome.verdict = .result result → result.engine = outcome.engine) :
    course.usable =
      (outcomes.filter fun outcome => !course.failed.holds outcome.engine).filterMap Outcome.result? := by
  unfold Course.usable
  rw [h.results, List.filter_filterMap, List.filterMap_filter]
  refine List.filterMap_congr fun outcome hin => ?_
  by_cases hfails : outcome.Fails
  · have hheld : course.failed.holds outcome.engine = true := (h.failed _).mpr ⟨outcome, hin, rfl, hfails⟩
    unfold Outcome.taken?
    cases hresult : outcome.result? with
    | none => simp
    | some result =>
        have hname := hsigned outcome hin result (Outcome.result?_eq_some.mp hresult)
        simp [hname, hheld]
  · rw [Outcome.taken?_of_not_fails hfails]
    cases hresult : outcome.result? with
    | none => simp
    | some result =>
        have hname := hsigned outcome hin result (Outcome.result?_eq_some.mp hresult)
        simp only [Option.filter_some, hname]

end Course

/-! ### The fix round -/

/-- The fix calls of a run: the files that were admitted and held back, what became of the calls, and
whether they took too long. -/
structure FixRound (τ : Type) where
  admitted : List String
  deferred : List String
  outcomes : List (Outcome τ)
  overran : Bool

/-- A run without fix calls. -/
def FixRound.none : FixRound τ := ⟨[], [], [], false⟩

variable [Quantity τ]

namespace Runner

/-- The calls of a fix phase, before anything is made of their outcomes. -/
def fixCalls (runner : Runner τ σ) (files : List String) (critical : Option (List String)) (token : Nat)
    (course : Course τ) : Act τ σ (FixRound τ) := do
  if (runner.fixers course).isEmpty || files.isEmpty || (← World.isCancelled token) then return .none
  let admission ← runner.config.batching.admission files critical token
  if admission.batch.files.isEmpty then return ⟨[], admission.deferred, [], false⟩
  let (outcomes, overran) ← World.budgeted token admission.batch.timeout (runner.fixWork course admission.batch.files)
  return ⟨admission.batch.files, admission.deferred, outcomes, overran⟩

/-- The fix calls of a run, if fixing is wanted. -/
def fixRound (runner : Runner τ σ) (files : List String) (critical : Option (List String)) (token : Nat) :
    Act τ σ (FixRound τ) := do
  if runner.config.execution.fix then
    let course ← Course.initial.enter .fix
    runner.fixCalls files critical token course
  else return .none

/-- What a course knows after a fix round: the outcomes, the files held back, and the files to be looked at
again. -/
structure Fixed (runner : Runner τ σ) (round : FixRound τ) (fixed : Course τ) : Prop where
  took : fixed.Took round.outcomes
  deferred : fixed.deferred = round.deferred
  recheck : fixed.recheck = Course.marks runner.config.execution.serialFix [] []
    (((runner.fixers .initial).map (·.precise)).zip round.outcomes)

omit [Quantity τ] in
theorem fixed_initial (runner : Runner τ σ) : runner.Fixed .none .initial :=
  ⟨Course.Took.initial, rfl, by simp [Course.initial, FixRound.none, Course.marks]⟩

/-- A fix phase is its calls; what is made of the outcomes only adds words to the journal. -/
theorem fixPhase_round {runner : Runner τ σ} {files : List String} {critical : Option (List String)} {token : Nat}
    {tracker : Tracker} {next : Course τ} {world after : World τ σ}
    (h : (runner.fixPhase files critical token { Course.initial with tracker := tracker }).on world = (.ok next, after)) :
    ∃ round done events,
      (runner.fixCalls files critical token { Course.initial with tracker := tracker }).on world = (.ok round, done) ∧
      after = done.noted events ∧ (∀ event ∈ events, event.Spoken) ∧ runner.Fixed round next := by
  have hnone := runner.fixed_initial
  unfold fixPhase at h
  unfold fixCalls fixers
  simp only at h
  rw [Act.on_bind_of_ok (Act.on_isCancelled token world)] at h ⊢
  split at h
  · rename_i hskip
    cases h
    rw [if_pos hskip]
    exact ⟨.none, world, [], rfl, (World.noted_nil world).symm, by simp,
      ⟨hnone.took.results, hnone.took.failed, hnone.took.unavailable⟩, hnone.deferred, hnone.recheck⟩
  · rename_i hgo
    rw [if_neg hgo]
    obtain ⟨admission, seen, hadmits, h⟩ := Act.on_bind_ok.mp h
    rw [Act.on_bind_of_ok hadmits]
    split at h
    · rename_i hheld
      cases h
      rw [if_pos hheld]
      exact ⟨_, after, [], rfl, (World.noted_nil after).symm, by simp,
        ⟨hnone.took.results, hnone.took.failed, hnone.took.unavailable⟩, rfl, hnone.recheck⟩
    · rename_i hsome
      rw [if_neg hsome]
      obtain ⟨⟨outcomes, overran⟩, done, hworks, h⟩ := Act.on_bind_ok.mp h
      obtain ⟨warned, hwarned, hspoken⟩ := World.on_warnIf runner.config.output overran
        s!"fix phase exceeded its {Quantity.twoPlaces admission.batch.timeout}s budget" done
      rw [Act.on_bind_of_ok hwarned] at h
      obtain ⟨recorded, middle, hrecord, h⟩ := Act.on_bind_ok.mp h
      obtain ⟨words, hrecorded, hspoken'⟩ := Course.on_record runner.config.output
        { Course.initial with tracker := tracker, deferred := admission.deferred, timedOut := overran } outcomes
        (done.noted warned)
      obtain ⟨hcourse, hmiddle⟩ := Prod.mk.inj (hrecord.symm.trans hrecorded)
      obtain rfl := Except.ok.inj hcourse
      subst hmiddle
      obtain ⟨more, hmarked, hspoken''⟩ := Course.on_markRechecks runner.config.execution.serialFix
        ({ Course.initial with tracker := tracker, deferred := admission.deferred, timedOut := overran }.takingAll
          outcomes) [] (((runner.fixers .initial).map (·.precise)).zip outcomes) ((done.noted warned).noted words)
      obtain ⟨hnext, hafter⟩ := Prod.mk.inj (h.symm.trans hmarked)
      obtain rfl := Except.ok.inj hnext
      subst hafter
      have hstart : Course.Took { Course.initial with
          tracker := tracker, deferred := admission.deferred, timedOut := overran } ([] : List (Outcome τ)) :=
        ⟨hnone.took.results, hnone.took.failed, hnone.took.unavailable⟩
      obtain ⟨-, hdeferred, hrecheck, -⟩ := Course.takingAll_rest
        { Course.initial with tracker := tracker, deferred := admission.deferred, timedOut := overran } outcomes
      obtain ⟨hresults, hfailed, hunavailable⟩ := hstart.takingAll outcomes
      refine ⟨⟨admission.batch.files, admission.deferred, outcomes, overran⟩, done, warned ++ (words ++ more),
        Act.on_bind_ok.mpr ⟨_, _, hworks, rfl⟩, ?_, ?_, ⟨hresults, hfailed, hunavailable⟩, hdeferred, ?_⟩
      · simp only [World.noted_noted, List.append_assoc]
      · intro event hevent
        rcases List.mem_append.mp hevent with hfirst | hrest
        · exact hspoken event hfirst
        · rcases List.mem_append.mp hrest with hsecond | hthird
          · exact hspoken' event hsecond
          · exact hspoken'' event hthird
      · exact congrArg (fun known => Course.marks _ known [] _) hrecheck

/-- The fix phase of a run is its round. -/
theorem fixFirst_round {runner : Runner τ σ} {files : List String} {critical : Option (List String)} {token : Nat}
    {fixed : Course τ} {world after : World τ σ}
    (h : (runner.fixFirst files critical token).on world = (.ok fixed, after)) :
    ∃ round done events, (runner.fixRound files critical token).on world = (.ok round, done) ∧
      after = done.noted events ∧ (∀ event ∈ events, event.Spoken) ∧ runner.Fixed round fixed := by
  unfold fixFirst at h
  unfold fixRound
  cases hwanted : runner.config.execution.fix with
  | false =>
      simp only [hwanted, Bool.false_eq_true, if_false] at h
      cases h
      exact ⟨.none, world, [], rfl, (World.noted_nil world).symm, by simp, runner.fixed_initial⟩
  | true =>
      simp only [hwanted, if_true] at h ⊢
      obtain ⟨entered, begun, henter, h⟩ := Act.on_bind_ok.mp h
      obtain ⟨tracker, -, rfl, -, -⟩ := Course.enter_ok henter
      rw [Act.on_bind_of_ok henter]
      exact fixPhase_round h

/-- What a fix round can be: without calls, with all files held back, or with a call of each fixer on the
admitted files. -/
inductive RoundCase (runner : Runner τ σ) (files : List String) (critical : Option (List String)) (token : Nat)
    (world : World τ σ) : FixRound τ → World τ σ → Prop
  | none {events : List (Event τ)} (said : ∀ event ∈ events, event.Spoken ∨ event = .entered .fix) :
      RoundCase runner files critical token world .none (world.noted events)
  | held {events : List (Event τ)} {admission : Admission τ} {seen : World τ σ}
      (wanted : runner.config.execution.fix = true) (said : ∀ event ∈ events, event.Spoken ∨ event = .entered .fix)
      (admits : (runner.config.batching.admission files critical token).on (world.noted events) = (.ok admission, seen)) :
      RoundCase runner files critical token world ⟨[], admission.deferred, [], false⟩ seen
  | called {events : List (Event τ)} {admission : Admission τ} {seen done : World τ σ} {outcomes : List (Outcome τ)}
      {overran : Bool} (wanted : runner.config.execution.fix = true)
      (said : ∀ event ∈ events, event.Spoken ∨ event = .entered .fix)
      (admits : (runner.config.batching.admission files critical token).on (world.noted events) = (.ok admission, seen))
      (works : (World.budgeted token admission.batch.timeout (runner.fixWork .initial admission.batch.files)).on seen =
        (.ok (outcomes, overran), done)) :
      RoundCase runner files critical token world
        ⟨admission.batch.files, admission.deferred, outcomes, overran⟩ done

theorem fixRound_cases {runner : Runner τ σ} {files : List String} {critical : Option (List String)} {token : Nat}
    {round : FixRound τ} {world done : World τ σ}
    (h : (runner.fixRound files critical token).on world = (.ok round, done)) :
    runner.RoundCase files critical token world round done := by
  have hnothing : runner.RoundCase files critical token world .none world := by
    have hcase : runner.RoundCase files critical token world .none (world.noted []) := .none (by simp)
    rwa [World.noted_nil] at hcase
  unfold fixRound at h
  cases hwanted : runner.config.execution.fix with
  | false =>
      simp only [hwanted, Bool.false_eq_true, if_false] at h
      cases h
      exact hnothing
  | true =>
      simp only [hwanted, if_true] at h
      obtain ⟨entered, begun, henter, h⟩ := Act.on_bind_ok.mp h
      obtain ⟨tracker, events, rfl, rfl, hsaid⟩ := Course.enter_ok henter
      unfold fixCalls at h
      rw [Act.on_bind_of_ok (Act.on_isCancelled token _)] at h
      split at h
      · cases h
        exact .none hsaid
      · obtain ⟨admission, seen, hadmits, h⟩ := Act.on_bind_ok.mp h
        split at h
        · cases h
          exact .held hwanted hsaid hadmits
        · obtain ⟨⟨outcomes, overran⟩, last, hworks, h⟩ := Act.on_bind_ok.mp h
          cases h
          exact .called hwanted hsaid hadmits hworks

/-! ### Jobs of the fix round -/

/-- A fix round has one outcome for each job, or none at all. -/
theorem fixRound_yields {runner : Runner τ σ} {files : List String} {critical : Option (List String)} {token : Nat}
    {round : FixRound τ} {world done : World τ σ}
    (h : (runner.fixRound files critical token).on world = (.ok round, done)) :
    round.outcomes = [] ∨ List.Forall₂ Job.Yields (runner.fixJobs .initial round.admitted) round.outcomes := by
  cases fixRound_cases h with
  | none said => exact Or.inl rfl
  | held wanted said admits => exact Or.inl rfl
  | @called events admission seen done outcomes overran wanted said admits works =>
      obtain ⟨own, opened, finished, -, hwork, -, -⟩ := World.budgeted_ok works
      obtain ⟨workers, ready, -, hjobs⟩ := fixWork_ok hwork
      have hyields := tendJobs_yields runner.granted own workers runner.config.execution.serialFix
        (runner.fixJobs .initial admission.batch.files) ready
      rw [hjobs] at hyields
      exact Or.inr hyields

end Runner

/-! ### Check batches -/

/-- What holds of whatever a handler returns holds of all results of batched work. -/
theorem BatchConfig.forall_results {ρ : Type} {config : BatchConfig τ} {handler : Batch τ → Nat → Act τ σ ρ} {token : Nat}
    {budget : Option (Amount τ)} {files : List String} {critical : Option (List String)} {world after : World τ σ}
    {report : BatchReport ρ} {P : ρ → Prop}
    (hhandler : ∀ batch own opened result done, (handler batch own).on opened = (.ok result, done) → P result)
    (h : (config.process files handler token critical budget).on world = (.ok report, after)) :
    ∀ result ∈ report.results, P result := by
  obtain ⟨ordered, last, -, hrounds, hend, -⟩ := BatchConfig.process_ok h
  have hall : ∀ result ∈ last.report.results, P result := by
    clear hend
    induction hrounds with
    | refl => simp [BatchReport.empty]
    | tail _ step ih =>
        cases step with
        | idle waiting going look nothing => exact ih
        | @handed queue index known before seen after view result overran waiting going look something work =>
            obtain ⟨own, opened, done, -, hwork, -, -⟩ := World.budgeted_ok work
            intro other hin
            cases overran with
            | true => exact ih other hin
            | false =>
                rcases List.mem_append.mp hin with hold | hnew
                · exact ih other hold
                · rw [List.mem_singleton.mp hnew]
                  exact hhandler _ own _ _ _ hwork
  rcases hend with ⟨-, rfl⟩ | ⟨-, -, rfl⟩
  · exact hall
  · exact hall

/-- The check batches of a run, with a note on each that was handed over. -/
def Runner.watchedChecks (runner : Runner τ σ) (request : Request τ) (setup : Setup τ) (entered : Course τ) :
    Act τ (List (Batch τ × List (Outcome τ)) × σ) (BatchReport (List (Outcome τ))) :=
  if setup.files.isEmpty then pure .empty
  else runner.config.batching.process setup.files (noting (runner.checkBatch entered)) setup.phaseToken request.critical
    (some (.measured setup.budget))

namespace Passage

variable {runner : Runner τ σ} {request : Request τ} {world after : World τ σ} {report : Report τ}

/-- The check batches come to the same when they are watched; the results that count are those of the batches
that were in time. -/
theorem exists_calls (passage : Passage runner request world report) :
    ∃ calls, (runner.watchedChecks request passage.setup passage.entered).on (passage.checking.watched []) =
        (.ok passage.batches, passage.checked.watched calls) ∧
      passage.batches.results = (kept passage.batches calls).map (·.2) := by
  have hchecks := passage.checks
  unfold Runner.checkAll at hchecks
  unfold Runner.watchedChecks
  split at hchecks
  · rename_i hnone
    obtain ⟨hbatches, hchecked⟩ := Prod.mk.inj hchecks
    rw [if_pos hnone, ← Except.ok.inj hbatches, ← hchecked]
    exact ⟨[], rfl, rfl⟩
  · rename_i hsome
    obtain ⟨input, calls, index, -, hwatched, haccounted⟩ := process_watched hchecks
    rw [if_neg hsome]
    exact ⟨calls, hwatched, haccounted.results⟩

/-- A run took note of the outcomes of its fix round and of its check batches, in this order. -/
theorem took (passage : Passage runner request world report) {round : FixRound τ}
    (hfixed : runner.Fixed round passage.fixed) :
    passage.course.Took (round.outcomes ++ passage.batches.results.flatten) := by
  obtain ⟨tracker, -, hentered, -, -⟩ := Course.enter_ok passage.enters
  obtain ⟨omitted, -, hcourse⟩ := passage.recorded
  have hstart : passage.entered.Took round.outcomes := by
    rw [hentered]
    exact ⟨hfixed.took.results, hfixed.took.failed, hfixed.took.unavailable⟩
  obtain ⟨hresults, hfailed, hunavailable⟩ := hstart.takingAll passage.batches.results.flatten
  rw [hcourse]
  exact ⟨hresults, hfailed, hunavailable⟩

/-- Every outcome that a run takes note of is one of a job of its engines. -/
theorem yields (passage : Passage runner request world report) {round : FixRound τ} {rested : World τ σ}
    (hround : (runner.fixRound passage.setup.files request.critical passage.setup.phaseToken).on passage.watching =
      (.ok round, rested)) {outcome : Outcome τ} (hin : outcome ∈ round.outcomes ++ passage.batches.results.flatten) :
    ∃ job : Job τ σ, job.engine ∈ runner.engines ∧ job.Yields outcome := by
  rcases List.mem_append.mp hin with hfix | hcheck
  · rcases Runner.fixRound_yields hround with hnone | hyields
    · rw [hnone] at hfix
      cases hfix
    · obtain ⟨job, hjob, hyield⟩ := exists_yields hyields hfix
      obtain ⟨engine, hengine, rfl⟩ := List.mem_map.mp hjob
      exact ⟨_, (List.mem_filter.mp (List.mem_filter.mp hengine).1).1, hyield⟩
  · obtain ⟨outcomes, houtcomes, hmem⟩ := List.mem_flatten.mp hcheck
    have hchecks := passage.checks
    unfold Runner.checkAll at hchecks
    split at hchecks
    · rw [← Except.ok.inj (Prod.mk.inj hchecks).1] at houtcomes
      cases houtcomes
    · obtain ⟨files, hyields⟩ := BatchConfig.forall_results
        (P := fun outcomes => ∃ files, List.Forall₂ Job.Yields (runner.checkJobs passage.entered files) outcomes)
        (fun batch own opened outcomes done hbatch => by
          obtain ⟨message, workers, seen, -, hjobs⟩ := Runner.checkBatch_ok hbatch
          have hyields := tendJobs_yields runner.granted own workers false
            (runner.checkJobs passage.entered batch.files) seen
          rw [hjobs] at hyields
          exact ⟨batch.files, hyields⟩) hchecks outcomes houtcomes
      obtain ⟨job, hjob, hyield⟩ := exists_yields hyields hmem
      obtain ⟨engine, hengine, rfl⟩ := List.mem_map.mp (List.mem_filter.mp hjob).1
      exact ⟨_, (List.mem_filter.mp (List.mem_filter.mp hengine).1).1, hyield⟩

end Passage

end FixFirst
