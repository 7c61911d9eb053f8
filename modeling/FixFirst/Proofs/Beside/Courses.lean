import FixFirst.Proofs.Beside.Jobs

/-!
# Courses side by side

What a run knows differs from what it knows with a broken engine more in two things: that engine is among
those that failed, and files are held back from fixing also where none of the other engines fixes.  So the
other engines have the same jobs.

## Main definitions

* `Course.Beside` — the course of a run, beside that of the run with the broken engine.

## Main statements

* `Course.Beside.takingAll`, `Course.marks_filter` — taking note of outcomes.
* `Runner.Joined.checkJobs`, `Runner.Joined.fixJobs` — the jobs of the other engines.
-/

namespace FixFirst

variable {τ σ : Type}

namespace Keyed

variable {α : Type}

/-- What is removed may as well not have been put. -/
theorem erase_put_self (entries : Keyed α) (key : String) (value : α) :
    (entries.put key value).erase key = entries.erase key := by
  induction entries with
  | nil => simp [put, erase]
  | cons entry rest ih =>
      unfold put
      split
      · rename_i hkey
        rw [erase_cons, if_pos rfl, erase_cons, if_pos hkey]
      · rename_i hkey
        rw [erase_cons, if_neg hkey, erase_cons, if_neg hkey, ih]

theorem erase_put_of_ne (entries : Keyed α) {key other : String} (h : key ≠ other) (value : α) :
    (entries.put key value).erase other = (entries.erase other).put key value := by
  induction entries with
  | nil => simp [put, erase, h]
  | cons entry rest ih =>
      rw [erase_cons]
      by_cases hkey : entry.1 = key
      · have haway : entry.1 ≠ other := fun heq => h (hkey.symm.trans heq)
        have hput : Keyed.put (entry :: rest) key value = (key, value) :: rest := if_pos hkey
        have hput' : Keyed.put (entry :: Keyed.erase rest other) key value = (key, value) :: Keyed.erase rest other :=
          if_pos hkey
        rw [hput, if_neg haway, hput', erase_cons, if_neg h]
      · have hput : Keyed.put (entry :: rest) key value = entry :: Keyed.put rest key value := if_neg hkey
        rw [hput, erase_cons, ih]
        split
        · rfl
        · exact (if_neg hkey).symm

theorem holds_erase (entries : Keyed α) {key other : String} (h : key ≠ other) :
    (entries.erase key).holds other = entries.holds other := by
  unfold holds
  rw [get?_erase, if_neg h]

end Keyed

/-! ### Taking note of outcomes -/

/-- Whether the course of a run is like that of the run with one engine more, which failed if it was `asked`.
`fixing` says whether there are other engines that fix. -/
structure Course.Beside (name : String) (fixing : Prop) (asked : Bool) (course other : Course τ) : Prop where
  rest : course = { other with failed := other.failed.erase name, deferred := course.deferred }
  deferred : fixing → course.deferred = other.deferred
  asked : other.failed.holds name = asked
  signed : ∀ result ∈ course.results, result.engine ≠ name

namespace Course

variable {name : String} {fixing : Prop} {asked : Bool} {course other : Course τ}

namespace Beside

theorem tracker (h : course.Beside name fixing asked other) : course.tracker = other.tracker := by rw [h.rest]

theorem results (h : course.Beside name fixing asked other) : course.results = other.results := by rw [h.rest]

theorem unavailable (h : course.Beside name fixing asked other) : course.unavailable = other.unavailable := by rw [h.rest]

theorem failed (h : course.Beside name fixing asked other) : course.failed = other.failed.erase name := by rw [h.rest]

theorem omitted (h : course.Beside name fixing asked other) : course.omitted = other.omitted := by rw [h.rest]

theorem recheck (h : course.Beside name fixing asked other) : course.recheck = other.recheck := by rw [h.rest]

theorem timedOut (h : course.Beside name fixing asked other) : course.timedOut = other.timedOut := by rw [h.rest]

/-- The other engines failed in both runs, or in none. -/
theorem holds (h : course.Beside name fixing asked other) {engine : String} (hengine : engine ≠ name) :
    course.failed.holds engine = other.failed.holds engine := by
  rw [h.failed, Keyed.holds_erase _ hengine.symm]

/-- The results that count are the same. -/
theorem usable (h : course.Beside name fixing asked other) : course.usable = other.usable := by
  unfold Course.usable
  rw [h.results]
  refine List.filter_congr fun result hin => ?_
  rw [h.holds (h.signed result (h.results ▸ hin))]

/-- An outcome of another engine. -/
theorem taking (h : course.Beside name fixing asked other) {outcome : Outcome τ} (hengine : outcome.engine ≠ name)
    (hsigned : ∀ result, outcome.verdict = .result result → result.engine ≠ name) :
    (course.taking outcome).Beside name fixing asked (other.taking outcome) := by
  have hfailing : ∀ message : String,
      Course.Beside name fixing asked { course with failed := course.failed.put outcome.engine message }
        { other with failed := other.failed.put outcome.engine message } := by
    intro message
    refine ⟨?_, h.deferred, ?_, h.signed⟩
    · rw [Keyed.erase_put_of_ne _ hengine, ← h.failed]
      exact congrArg (fun known => { known with failed := course.failed.put outcome.engine message }) h.rest
    · rw [holds_put, decide_eq_false hengine, Bool.false_or]
      exact h.asked
  unfold Course.taking
  cases hverdict : outcome.verdict with
  | missing message =>
      simp only
      rw [h.unavailable]
      split
      · exact h
      · refine ⟨?_, h.deferred, h.asked, h.signed⟩
        rw [h.tracker]
        exact congrArg (fun known => { known with
          unavailable := other.unavailable.put outcome.engine message
          tracker := other.tracker.degrade }) h.rest
  | failure message => exact hfailing message
  | abandoned => exact h
  | result result =>
      simp only
      split
      · refine ⟨?_, h.deferred, h.asked, fun known hin => ?_⟩
        · rw [h.results]
          exact congrArg (fun known => { known with results := other.results ++ [result] }) h.rest
        · rcases List.mem_append.mp hin with hold | hnew
          · exact h.signed known hold
          · rw [List.mem_singleton.mp hnew]
            exact hsigned result hverdict
      · exact hfailing _

/-- A failure of the engine that only one run has. -/
theorem failing (h : course.Beside name fixing asked other) {outcome : Outcome τ} (hengine : outcome.engine = name)
    {message : String} (hverdict : outcome.verdict = .failure message) :
    course.Beside name fixing true (other.taking outcome) := by
  unfold Course.taking
  rw [hverdict, hengine]
  refine ⟨?_, h.deferred, ?_, h.signed⟩
  · simp only [Keyed.erase_put_self]
    exact h.rest
  · simp [holds_put]

/-- Outcomes with and without those of the broken engine. -/
theorem takingAll (h : course.Beside name fixing asked other) {outcomes others : List (Outcome τ)}
    (hall : BesideOutcomes name outcomes others) :
    (course.takingAll outcomes).Beside name fixing (asked || others.any (·.engine == name)) (other.takingAll others) := by
  induction others generalizing course other asked outcomes with
  | nil =>
      obtain rfl := hall.rest
      rw [List.any_nil, Bool.or_false]
      exact h
  | cons outcome rest ih =>
      obtain rfl := hall.rest
      have hfailed := fun next hin => hall.failed next (List.mem_cons_of_mem _ hin)
      by_cases hengine : outcome.engine = name
      · obtain ⟨message, hverdict⟩ := hall.failed outcome List.mem_cons_self hengine
        have hdropped : (outcome :: rest).filter (·.engine != name) = rest.filter (·.engine != name) :=
          List.filter_cons_of_neg (by simp [hengine])
        have hsigned := hall.signed
        rw [hdropped] at hsigned ⊢
        have hrest := ih (h.failing hengine hverdict) ⟨rfl, hfailed, hsigned⟩
        have hodd : (outcome.engine == name) = true := by simpa using hengine
        rw [Bool.true_or] at hrest
        rw [List.any_cons, hodd, Bool.true_or, Bool.or_true]
        exact hrest
      · have hkept : (outcome :: rest).filter (·.engine != name) = outcome :: rest.filter (·.engine != name) :=
          List.filter_cons_of_pos (by simpa using hengine)
        have hsigned := hall.signed
        rw [hkept] at hsigned ⊢
        have hrest := ih (h.taking hengine (hsigned outcome List.mem_cons_self))
          ⟨rfl, hfailed, fun next hin => hsigned next (List.mem_cons_of_mem _ hin)⟩
        have heven : (outcome.engine == name) = false := by simpa using hengine
        rw [List.any_cons, heven, Bool.false_or]
        exact hrest

end Beside

/-! ### Files to be looked at again -/

/-- An engine without results changes no files. -/
theorem changedFiles_filter {outcomes : List (Outcome τ)}
    (h : ∀ outcome ∈ outcomes, outcome.engine = name → outcome.result? = none) :
    changedFiles (outcomes.filter (·.engine != name)) = changedFiles outcomes := by
  unfold changedFiles
  refine congrArg firsts ?_
  induction outcomes with
  | nil => rfl
  | cons outcome rest ih =>
      have hrest := ih fun next hin => h next (List.mem_cons_of_mem _ hin)
      rw [List.filter_cons, List.flatMap_cons]
      split
      · rw [List.flatMap_cons, hrest]
      · rename_i hodd
        rw [h outcome List.mem_cons_self (by simpa using hodd), hrest]
        rfl

/-- Without an engine that has no results, the same files are to be looked at again. -/
theorem marks_filter (serial : Bool) (recheck : Keyed (List String)) {earlier : List (Outcome τ)}
    {later : List (Bool × Outcome τ)} (hearlier : ∀ outcome ∈ earlier, outcome.engine = name → outcome.result? = none)
    (hlater : ∀ pair ∈ later, pair.2.engine = name → pair.2.result? = none) :
    marks serial recheck (earlier.filter (·.engine != name)) (later.filter (·.2.engine != name)) =
      marks serial recheck earlier later := by
  induction later generalizing recheck earlier with
  | nil => rfl
  | cons pair later ih =>
      obtain ⟨precise, outcome⟩ := pair
      have hrest := fun other hin => hlater other (List.mem_cons_of_mem _ hin)
      have hgrown : ∀ known ∈ earlier ++ [outcome], known.engine = name → known.result? = none := by
        intro known hin
        rcases List.mem_append.mp hin with hold | hnew
        · exact hearlier known hold
        · rw [List.mem_singleton.mp hnew]
          exact hlater (precise, outcome) List.mem_cons_self
      have hmore := ih (mark recheck precise outcome (changedFiles ((if serial then [] else earlier) ++ later.map (·.2)))) hgrown hrest
      rw [List.filter_append] at hmore
      rw [List.filter_cons]
      split
      · rename_i heven
        have hsingle : [outcome].filter (·.engine != name) = [outcome] := List.filter_cons_of_pos heven
        rw [hsingle] at hmore
        unfold marks
        rw [← hmore]
        have hfiles : changedFiles ((if serial then [] else earlier.filter (·.engine != name)) ++
            (later.filter (·.2.engine != name)).map (·.2)) =
            changedFiles ((if serial then [] else earlier) ++ later.map (·.2)) := by
          have hmapped : (later.filter (·.2.engine != name)).map (·.2) = (later.map (·.2)).filter (·.engine != name) := by
            rw [List.filter_map]
            rfl
          have hfirst : (if serial then [] else earlier.filter (·.engine != name)) =
              (if serial then [] else earlier).filter (·.engine != name) := by
            split <;> rfl
          rw [hmapped, hfirst, ← List.filter_append]
          refine changedFiles_filter fun known hin => ?_
          rcases List.mem_append.mp hin with hold | hnew
          · split at hold
            · cases hold
            · exact hearlier known hold
          · obtain ⟨pair, hpair, rfl⟩ := List.mem_map.mp hnew
            exact hrest pair hpair
        rw [hfiles]
      · rename_i hodd
        have hengine : outcome.engine = name := by simpa using hodd
        have hnone := hlater (precise, outcome) List.mem_cons_self hengine
        have hsingle : [outcome].filter (·.engine != name) = [] := List.filter_cons_of_neg (by simp [hengine])
        have hsame : mark recheck precise outcome (changedFiles ((if serial then [] else earlier) ++ later.map (·.2))) =
            recheck := by
          unfold mark
          simp only at hnone
          rw [hnone]
          simp
        rw [hsingle, List.append_nil, hsame] at hmore
        rw [hmore]
        exact (congrArg (fun known => marks serial known (earlier ++ [outcome]) later) hsame).symm

/-- Outcomes come with their engines, with and without one of them. -/
theorem zip_filter (flag : Engine τ σ → Bool) {engines : List (Engine τ σ)} {outcomes : List (Outcome τ)}
    (h : outcomes.map (·.engine) = engines.map (·.name)) :
    ((engines.map flag).zip outcomes).filter (·.2.engine != name) =
      ((engines.filter (·.name != name)).map flag).zip (outcomes.filter (·.engine != name)) := by
  induction engines generalizing outcomes with
  | nil =>
      obtain rfl := List.map_eq_nil_iff.mp h
      rfl
  | cons engine rest ih =>
      cases outcomes with
      | nil => cases h
      | cons outcome outcomes =>
          rw [List.map_cons, List.map_cons, List.cons.injEq] at h
          have hrest := ih h.2
          rw [List.map_cons, List.zip_cons_cons, List.filter_cons, List.filter_cons, List.filter_cons]
          simp only [h.1, hrest]
          split
          · rfl
          · rfl

end Course

/-! ### Jobs of the other engines -/

/-- Whether there is an engine that fixes. -/
def Runner.CanFix (runner : Runner τ σ) : Prop := ∃ engine ∈ runner.engines, engine.canFix = true

namespace Runner.Joined

variable {runner joined : Runner τ σ} {odd : Engine τ σ} {fixing : Prop} {asked : Bool} {course other : Course τ}

theorem available (h : runner.Joined joined odd) (hsame : course.unavailable = other.unavailable) :
    (joined.available other).filter (·.name != odd.name) = runner.available course := by
  unfold Runner.available
  rw [← h.filter, List.filter_filter, List.filter_filter, hsame]
  exact List.filter_congr fun engine _ => Bool.and_comm _ _

theorem fixers [Quantity τ] (h : runner.Joined joined odd) (hsame : course.unavailable = other.unavailable) :
    (joined.fixers other).filter (·.name != odd.name) = runner.fixers course := by
  unfold Runner.fixers
  rw [← h.available hsame, List.filter_filter, List.filter_filter]
  exact List.filter_congr fun engine _ => Bool.and_comm _ _

/-- The other engines fix the same files. -/
theorem fixJobs [Quantity τ] (h : runner.Joined joined odd) (hsame : course.unavailable = other.unavailable) (files : List String) :
    (joined.fixJobs other files).filter (·.engine.name != odd.name) = runner.fixJobs course files := by
  unfold Runner.fixJobs
  rw [List.filter_map, ← h.fixers hsame]
  rfl

/-- The other engines are asked about the same files. -/
theorem filesFor (h : runner.Joined joined odd)
    (hcourse : course.Beside odd.name runner.CanFix asked other)
    {engine : Engine τ σ} (hin : engine ∈ runner.engines) (files : List String) :
    joined.filesFor other engine files = runner.filesFor course engine files := by
  unfold Runner.filesFor
  rw [h.config, hcourse.recheck]
  cases hfixes : engine.canFix with
  | false => simp
  | true => rw [hcourse.deferred ⟨engine, hin, hfixes⟩]

/-- The other engines have the same jobs in a check batch. -/
theorem checkJobs (h : runner.Joined joined odd)
    (hcourse : course.Beside odd.name runner.CanFix asked other)
    (files : List String) :
    (joined.checkJobs other files).filter (·.engine.name != odd.name) = runner.checkJobs course files := by
  have hfiles : ∀ engine ∈ joined.engines, engine.name ≠ odd.name →
      joined.filesFor other engine files = runner.filesFor course engine files := fun engine hin hother =>
    h.filesFor hcourse (h.mem_of_ne hin hother) files
  unfold Runner.checkJobs Runner.available
  rw [← h.filter, hcourse.unavailable]
  simp only [List.filter_map, List.filter_filter]
  refine (List.map_congr_left fun engine hin => ?_).trans (congrArg _ (List.filter_congr fun engine hin => ?_))
  · obtain ⟨hengine, hkept⟩ := List.mem_filter.mp hin
    simp only [Function.comp_apply, Bool.and_eq_true, bne_iff_ne] at hkept
    rw [hfiles engine hengine hkept.1]
  · by_cases hname : engine.name = odd.name
    · simp [hname]
    · have hkept : (engine.name != odd.name) = true := by simpa using hname
      simp [hkept, hfiles engine hin hname, hcourse.holds hname]

end Runner.Joined

end FixFirst
