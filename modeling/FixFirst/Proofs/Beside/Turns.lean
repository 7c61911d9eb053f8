import FixFirst.Proofs.Beside.Acts

/-!
# Jobs in turn

As long as no token is cancelled, jobs come to what they come to when each is run once, one after the
other.  Side by side, they are run in the order in which they come back.

## Main definitions

* `answers` — what jobs answer, one after the other, whatever becomes of their token.
* `Schedule.inTurn`, `jobsInTurn` — the order in which jobs come back.
* `Job.settled` — the outcome of a job, among such answers.

## Main statements

* `on_runJobs` — the jobs of a phase, by their answers in turn.
-/

namespace FixFirst

variable {τ σ : Type}

/-! ### Answers -/

theorem Keyed.get?_append {α : Type} (first second : Keyed α) (key : String) :
    Keyed.get? (first ++ second) key = (first.get? key).or (second.get? key) := by
  unfold Keyed.get?
  rw [List.find?_append]
  cases first.find? fun entry => entry.1 == key <;> rfl

/-- What jobs answer that are run one after the other, whatever becomes of their token. -/
def answers [Quantity τ] (token : Nat) : List (Job τ σ) → Change τ σ (Keyed (Option (Outcome τ)))
  | [] => return []
  | job :: rest => do
    let answer ← job.run token
    return (job.engine.name, answer) :: (← answers token rest)

/-- The outcome of a job among answers; without one, it is abandoned. -/
def Job.settled (job : Job τ σ) (known : Keyed (Option (Outcome τ))) : Outcome τ :=
  (known.get? job.engine.name).join.getD (job.outcome .abandoned)

/-- Where a job is when there are such answers. -/
def Job.slot (known : Keyed (Option (Outcome τ))) (job : Job τ σ) : Slot τ σ :=
  match known.get? job.engine.name with
  | none => .waiting job
  | some none => .stuck job
  | some (some outcome) => .back outcome

/-- The jobs at some positions, each when it is first named, without those that have been seen before. -/
def turns (jobs : List (Job τ σ)) : List String → List Nat → List (Job τ σ)
  | _, [] => []
  | seen, position :: rest =>
    match jobs[position]? with
    | none => turns jobs seen rest
    | some job =>
      if seen.contains job.engine.name then turns jobs seen rest
      else job :: turns jobs (seen ++ [job.engine.name]) rest

/-- The jobs in the order in which they come back. -/
def Schedule.inTurn (schedule : Schedule) (jobs : List (Job τ σ)) : List (Job τ σ) :=
  turns jobs [] (schedule.polls.flatten ++ List.range jobs.length)

/-- The jobs of a phase in the order in which they are run. -/
def jobsInTurn (schedule : List (Job τ σ) → World τ σ → Schedule) (workers : Nat) (serial : Bool)
    (jobs : List (Job τ σ)) (world : World τ σ) : List (Job τ σ) :=
  if serial || workers ≤ 1 || jobs.length ≤ 1 then jobs else (schedule jobs world).inTurn jobs

/-! ### Turns -/

theorem turns_cons (jobs : List (Job τ σ)) (seen : List String) (position : Nat) (rest : List Nat) :
    turns jobs seen (position :: rest) =
      match jobs[position]? with
      | none => turns jobs seen rest
      | some job =>
        if seen.contains job.engine.name then turns jobs seen rest
        else job :: turns jobs (seen ++ [job.engine.name]) rest := rfl

theorem turns_append (jobs : List (Job τ σ)) (seen : List String) (first second : List Nat) :
    turns jobs seen (first ++ second) =
      turns jobs seen first ++ turns jobs (seen ++ (turns jobs seen first).map (·.engine.name)) second := by
  induction first generalizing seen with
  | nil => simp [turns]
  | cons position rest ih =>
      rw [List.cons_append, turns_cons jobs seen position (rest ++ second), turns_cons jobs seen position rest]
      cases jobs[position]? with
      | none => exact ih seen
      | some job =>
          simp only
          split
          · exact ih seen
          · rw [ih, List.cons_append, List.map_cons, List.append_assoc, List.singleton_append]

/-- Jobs that have all been seen have no turn. -/
theorem turns_eq_nil {jobs : List (Job τ σ)} {seen : List String} (h : ∀ job ∈ jobs, job.engine.name ∈ seen)
    (positions : List Nat) : turns jobs seen positions = [] := by
  induction positions with
  | nil => rfl
  | cons position rest ih =>
      rw [turns_cons]
      cases hjob : jobs[position]? with
      | none => exact ih
      | some job =>
          simp only [List.contains_iff_mem, h job (List.mem_of_getElem? hjob), if_true]
          exact ih

/-- Only jobs that have not been seen have a turn. -/
theorem of_mem_turns {jobs : List (Job τ σ)} {seen : List String} {positions : List Nat} {job : Job τ σ}
    (h : job ∈ turns jobs seen positions) : job ∈ jobs := by
  induction positions generalizing seen with
  | nil => cases h
  | cons position rest ih =>
      rw [turns_cons] at h
      cases hjob : jobs[position]? with
      | none =>
          simp only [hjob] at h
          exact ih h
      | some first =>
          simp only [hjob] at h
          split at h
          · exact ih h
          · rcases List.mem_cons.mp h with rfl | hrest
            · exact List.mem_of_getElem? hjob
            · exact ih hrest

/-- Every job that is named has a turn, unless it has been seen. -/
theorem mem_turns {jobs : List (Job τ σ)} (hnames : (jobs.map (·.engine.name)).Nodup) {seen : List String}
    {positions : List Nat} {position : Nat} {job : Job τ σ} (hjob : jobs[position]? = some job)
    (hin : position ∈ positions) (hnew : job.engine.name ∉ seen) : job ∈ turns jobs seen positions := by
  induction positions generalizing seen with
  | nil => cases hin
  | cons first rest ih =>
      rw [turns_cons]
      cases hfirst : jobs[first]? with
      | none =>
          simp only
          rcases List.mem_cons.mp hin with rfl | hrest
          · rw [hjob] at hfirst
            cases hfirst
          · exact ih hrest hnew
      | some other =>
          simp only
          by_cases hsame : other.engine.name = job.engine.name
          · have heq : other = job := List.inj_on_of_nodup_map hnames (List.mem_of_getElem? hfirst)
              (List.mem_of_getElem? hjob) hsame
            subst heq
            rw [if_neg (by simpa using hnew)]
            exact List.mem_cons_self
          · rcases List.mem_cons.mp hin with rfl | hrest
            · cases hfirst.symm.trans hjob
              exact absurd rfl hsame
            · split
              · exact ih hrest hnew
              · refine List.mem_cons_of_mem _ (ih hrest ?_)
                simpa [hnew] using Ne.symm hsame

/-- Every job has its turn. -/
theorem Schedule.mem_inTurn {jobs : List (Job τ σ)} (hnames : (jobs.map (·.engine.name)).Nodup) (schedule : Schedule)
    {job : Job τ σ} : job ∈ schedule.inTurn jobs ↔ job ∈ jobs := by
  constructor
  · exact of_mem_turns
  · intro hin
    obtain ⟨position, hjob⟩ := List.mem_iff_getElem?.mp hin
    refine mem_turns hnames hjob (List.mem_append_right _ (List.mem_range.mpr ?_)) List.not_mem_nil
    exact (List.getElem?_eq_some_iff.mp hjob).1

/-- Positions in their order give the jobs their turns in that order. -/
theorem turns_range' {jobs : List (Job τ σ)} (hnames : (jobs.map (·.engine.name)).Nodup) (before rest : List (Job τ σ))
    (hjobs : jobs = before ++ rest) :
    turns jobs (before.map (·.engine.name)) (List.range' before.length rest.length) = rest := by
  induction rest generalizing before with
  | nil => rfl
  | cons job rest ih =>
      have hnew : job.engine.name ∉ before.map (·.engine.name) := by
        rw [hjobs, List.map_append] at hnames
        exact fun hin => (List.nodup_append.mp hnames).2.2 _ hin _ (List.mem_map_of_mem List.mem_cons_self) rfl
      have hfirst : jobs[before.length]? = some job := by simp [hjobs]
      have hrest := ih (before ++ [job]) (by rw [hjobs, List.append_assoc, List.singleton_append])
      rw [List.map_append, List.length_append] at hrest
      rw [List.length_cons, List.range'_succ, turns_cons, hfirst]
      simp only [List.contains_iff_mem, hnew, if_false]
      exact congrArg (job :: ·) hrest

/-- Jobs that come back in their order have their turns in that order. -/
theorem Schedule.inTurn_inOrder {jobs : List (Job τ σ)} (hnames : (jobs.map (·.engine.name)).Nodup) :
    (Schedule.inOrder jobs.length).inTurn jobs = jobs := by
  have hall : turns jobs [] (List.range jobs.length) = jobs := by
    rw [List.range_eq_range']
    exact turns_range' hnames [] jobs rfl
  have hpolls : (Schedule.inOrder jobs.length).polls.flatten = List.range jobs.length := List.append_nil _
  have hseen : ∀ job ∈ jobs, job.engine.name ∈ [] ++ jobs.map (·.engine.name) :=
    fun job hin => List.mem_map_of_mem hin
  unfold Schedule.inTurn
  rw [hpolls, turns_append, hall, turns_eq_nil hseen, List.append_nil]

theorem mem_jobsInTurn {schedule : List (Job τ σ) → World τ σ → Schedule} {workers : Nat} {serial : Bool}
    {jobs : List (Job τ σ)} (hnames : (jobs.map (·.engine.name)).Nodup) (world : World τ σ) {job : Job τ σ} :
    job ∈ jobsInTurn schedule workers serial jobs world ↔ job ∈ jobs := by
  unfold jobsInTurn
  split
  · exact Iff.rfl
  · exact Schedule.mem_inTurn hnames _

/-! ### Slots -/

section

variable {jobs : List (Job τ σ)} {known : Keyed (Option (Outcome τ))}

theorem Keyed.get?_of_not_mem {α : Type} {entries : Keyed α} {key : String} (h : key ∉ entries.keys) :
    entries.get? key = none := by
  cases hget : entries.get? key with
  | none => rfl
  | some value =>
      refine absurd ((Keyed.holds_iff entries key).mp ?_) h
      unfold Keyed.holds
      rw [hget]
      rfl

theorem slot_of_not_mem {job : Job τ σ} (h : job.engine.name ∉ known.keys) : job.slot known = .waiting job := by
  unfold Job.slot
  rw [Keyed.get?_of_not_mem h]

/-- An answer changes the slot of its own job only. -/
theorem set_slot (hnames : (jobs.map (·.engine.name)).Nodup) {position : Nat} {job : Job τ σ}
    (hjob : jobs[position]? = some job) (answer : Option (Outcome τ)) :
    (jobs.map (·.slot known)).set position (job.slot (known ++ [(job.engine.name, answer)])) =
      jobs.map (·.slot (known ++ [(job.engine.name, answer)])) := by
  refine List.ext_getElem? fun index => ?_
  rw [List.getElem?_set, List.getElem?_map, List.getElem?_map, List.length_map]
  by_cases hindex : position = index
  · subst hindex
    rw [if_pos rfl, if_pos (List.getElem?_eq_some_iff.mp hjob).1, hjob]
    rfl
  · rw [if_neg hindex]
    cases hother : jobs[index]? with
    | none => rfl
    | some other =>
        have haway : job.engine.name ≠ other.engine.name := by
          intro hsame
          obtain ⟨hfirst, rfl⟩ := List.getElem?_eq_some_iff.mp hjob
          obtain ⟨hsecond, rfl⟩ := List.getElem?_eq_some_iff.mp hother
          have hnamed : position < (jobs.map (·.engine.name)).length := by simpa using hfirst
          have hnamed' : index < (jobs.map (·.engine.name)).length := by simpa using hsecond
          have heq : (jobs.map (·.engine.name))[position] = (jobs.map (·.engine.name))[index] := by
            simpa using hsame
          exact hindex ((List.Nodup.getElem_inj_iff hnames).mp heq)
        have hsame : Keyed.get? (known ++ [(job.engine.name, answer)]) other.engine.name = known.get? other.engine.name := by
          rw [Keyed.get?_append, Keyed.get?_cons, if_neg haway, Keyed.get?_nil, Option.or_none]
        simp only [Option.map_some, Option.some.injEq]
        unfold Job.slot
        rw [hsame]

/-- Only jobs that have not answered are waited for. -/
theorem waitedFor_slots {job : Job τ σ} (h : job ∈ waitedFor (jobs.map (·.slot known))) : job ∈ jobs := by
  obtain ⟨slot, hslot, hwaits⟩ := List.mem_filterMap.mp h
  obtain ⟨own, hown, rfl⟩ := List.mem_map.mp hslot
  unfold Job.slot at hwaits
  split at hwaits
  · cases hwaits
    exact hown
  · cases hwaits
  · cases hwaits

/-- In the end every job has an outcome. -/
theorem on_settleAll (jobs : List (Job τ σ)) (known : Keyed (Option (Outcome τ))) (world : World τ σ) :
    ∃ lost, (∀ event ∈ lost, event.Plain) ∧
      Change.on (settleAll (jobs.map (·.slot known))) world = (jobs.map (·.settled known), world.noted lost) := by
  induction jobs generalizing world with
  | nil => exact ⟨[], by simp, by rw [World.noted_nil]; rfl⟩
  | cons job rest ih =>
      have hone : ∃ lost, (∀ event ∈ lost, event.Plain) ∧
          Change.on (job.slot known).settle world = (job.settled known, world.noted lost) := by
        have habandoned : ∀ event ∈ [Event.abandoned (τ := τ) job.engine.name], event.Plain := by
          intro event hin
          rw [List.mem_singleton.mp hin]
          trivial
        unfold Job.slot Job.settled
        cases known.get? job.engine.name with
        | none => exact ⟨[.abandoned job.engine.name], habandoned, rfl⟩
        | some answer =>
            cases answer with
            | none => exact ⟨[.abandoned job.engine.name], habandoned, rfl⟩
            | some outcome => exact ⟨[], by simp, by rw [World.noted_nil]; rfl⟩
      obtain ⟨lost, hlost, hsettle⟩ := hone
      obtain ⟨more, hmore, hrest⟩ := ih (world.noted lost)
      refine ⟨lost ++ more, fun event hin => ?_, ?_⟩
      · rcases List.mem_append.mp hin with hfirst | hsecond
        · exact hlost event hfirst
        · exact hmore event hsecond
      · rw [List.map_cons]
        unfold settleAll
        rw [Change.on_bind, Change.on_bind, Change.on_pure, hsettle]
        simp only [hrest, World.noted_noted, List.map_cons]

end

variable [Quantity τ] {token : Nat} {jobs : List (Job τ σ)} {known : Keyed (Option (Outcome τ))}

@[simp] theorem on_answers_nil (token : Nat) (world : World τ σ) :
    Change.on (answers token ([] : List (Job τ σ))) world = ([], world) := rfl

theorem on_answers_cons (token : Nat) (job : Job τ σ) (rest : List (Job τ σ)) (world : World τ σ) :
    Change.on (answers token (job :: rest)) world =
      ((job.engine.name, (Change.on (job.run token) world).1) ::
          (Change.on (answers token rest) (Change.on (job.run token) world).2).1,
        (Change.on (answers token rest) (Change.on (job.run token) world).2).2) := rfl

theorem on_answers_append (token : Nat) (first second : List (Job τ σ)) (world : World τ σ) :
    Change.on (answers token (first ++ second)) world =
      ((Change.on (answers token first) world).1 ++
          (Change.on (answers token second) (Change.on (answers token first) world).2).1,
        (Change.on (answers token second) (Change.on (answers token first) world).2).2) := by
  induction first generalizing world with
  | nil => rfl
  | cons job rest ih => simp only [List.cons_append, on_answers_cons, ih]

/-- There is one answer for each job. -/
theorem keys_answers (token : Nat) (jobs : List (Job τ σ)) (world : World τ σ) :
    (Change.on (answers token jobs) world).1.keys = jobs.map (·.engine.name) := by
  induction jobs generalizing world with
  | nil => rfl
  | cons job rest ih =>
      rw [on_answers_cons, List.map_cons, ← ih (Change.on (job.run token) world).2]
      rfl

/-- A job that has answered makes no second call. -/
theorem proceed_of_mem {job : Job τ σ} (h : job.engine.name ∈ known.keys) (token : Nat) (world : World τ σ) :
    Change.on ((job.slot known).proceed token) world = (job.slot known, world) := by
  have hheld := (Keyed.holds_iff known job.engine.name).mpr h
  unfold Keyed.holds at hheld
  unfold Job.slot
  cases hget : known.get? job.engine.name with
  | none =>
      rw [hget] at hheld
      cases hheld
  | some answer => cases answer <;> rfl

/-- A job that is waited for makes its call. -/
theorem proceed_of_not_mem {job : Job τ σ} (h : job.engine.name ∉ known.keys) (token : Nat) (world : World τ σ) :
    Change.on ((job.slot known).proceed token) world =
      (job.slot (known ++ [(job.engine.name, (Change.on (job.run token) world).1)]), (Change.on (job.run token) world).2) := by
  have hnew : Keyed.get? (known ++ [(job.engine.name, (Change.on (job.run token) world).1)]) job.engine.name =
      some (Change.on (job.run token) world).1 := by
    rw [Keyed.get?_append, Keyed.get?_of_not_mem h, Keyed.get?_cons, if_pos rfl]
    rfl
  rw [slot_of_not_mem h]
  unfold Job.slot
  rw [hnew]
  unfold Slot.proceed
  rw [Change.on_bind]
  cases (Change.on (job.run token) world).1 <;> rfl

/-- The jobs that come back at some positions are run in turn. -/
theorem on_comeBack (hnames : (jobs.map (·.engine.name)).Nodup) (token : Nat) (positions : List Nat) (world : World τ σ) :
    Change.on (comeBack token positions (jobs.map (·.slot known))) world =
      (jobs.map (·.slot (known ++ (Change.on (answers token (turns jobs known.keys positions)) world).1)),
        (Change.on (answers token (turns jobs known.keys positions)) world).2) := by
  induction positions generalizing known world with
  | nil =>
      show (jobs.map (·.slot known), world) = _
      simp [turns]
  | cons position rest ih =>
      unfold comeBack
      rw [turns_cons, List.getElem?_map]
      cases hjob : jobs[position]? with
      | none => exact ih world
      | some job =>
          simp only [Option.map_some, Change.on_bind]
          by_cases hseen : job.engine.name ∈ known.keys
          · have hslot : (jobs.map (·.slot known))[position]? = some (job.slot known) := by
              rw [List.getElem?_map, hjob]
              rfl
            rw [proceed_of_mem hseen, set_self hslot, if_pos (by simpa using hseen)]
            exact ih world
          · rw [proceed_of_not_mem hseen, if_neg (by simpa using hseen), set_slot hnames hjob, ih, on_answers_cons]
            have hkeys : Keyed.keys (known ++ [(job.engine.name, (Change.on (job.run token) world).1)]) =
                known.keys ++ [job.engine.name] := List.map_append
            rw [hkeys, List.append_assoc, List.singleton_append]

/-! ### Whole phases -/

section

variable {base : Nat} {runner : Runner τ σ}

/-- Looking at the workers, while no token is cancelled, is waiting for all jobs. -/
theorem on_await (h : (Limits.stopped base).Bind runner) (hjobs : ∀ job ∈ jobs, job.engine ∈ runner.engines)
    (hnames : (jobs.map (·.engine.name)).Nodup) (htoken : base ≤ token) {grace : List Nat} {polls : List (List Nat)}
    {world : World τ σ} (hclear : (Change.on (await token grace polls (jobs.map (·.slot known))) world).2.Clear base) :
    Change.on (await token grace polls (jobs.map (·.slot known))) world =
      (jobs.map (·.slot (known ++
          (Change.on (answers token (turns jobs known.keys (polls.flatten ++ List.range jobs.length))) world).1)),
        (Change.on (answers token (turns jobs known.keys (polls.flatten ++ List.range jobs.length))) world).2) := by
  induction polls generalizing known world with
  | nil =>
      unfold await
      rw [List.length_map]
      exact on_comeBack hnames token _ world
  | cons positions rest ih =>
      unfold await at hclear ⊢
      rw [Change.on_bind, on_comeBack hnames] at hclear ⊢
      simp only at hclear ⊢
      rw [List.flatten_cons, List.append_assoc, turns_append, on_answers_append]
      have hkeys : Keyed.keys (known ++ (Change.on (answers token (turns jobs known.keys positions)) world).1) =
          known.keys ++ (turns jobs known.keys positions).map (·.engine.name) := by
        rw [← keys_answers token _ world]
        exact List.map_append
      split
      · rename_i hall
        have hseen : ∀ job ∈ jobs,
            job.engine.name ∈ known.keys ++ (turns jobs known.keys positions).map (·.engine.name) := by
          intro job hin
          rw [← hkeys]
          by_contra hnew
          have hback := List.all_eq_true.mp hall _ (List.mem_map.mpr ⟨job, hin, rfl⟩)
          simp only [slot_of_not_mem hnew] at hback
          cases hback
        rw [turns_eq_nil hseen, on_answers_nil, List.append_nil]
        rfl
      · rename_i hsome
        rw [if_neg hsome, Change.on_bind, Change.on_isCancelled] at hclear
        rw [Change.on_bind, Change.on_isCancelled]
        split
        · -- A token that is cancelled stays cancelled.
          rename_i hcancelled
          simp only at hcancelled
          simp only [hcancelled, if_true] at hclear
          have hstopped : (Limits.stopped base).world
              (Change.on (answers token (turns jobs known.keys positions)) world).2 := by
            intro hmiddle
            rw [hmiddle token htoken] at hcancelled
            cases hcancelled
          exact absurd hclear (h.comeBack (fun job hin => hjobs job (waitedFor_slots hin)) token grace hstopped).1
        · rename_i hgoing
          simp only at hgoing
          simp only [hgoing, Bool.false_eq_true, if_false] at hclear
          rw [ih hclear, hkeys, List.append_assoc]

/-- While no token is cancelled, serial jobs are run in their order. -/
theorem on_runSerial (h : (Limits.stopped base).Bind runner) (hjobs : ∀ job ∈ jobs, job.engine ∈ runner.engines)
    (hnames : (jobs.map (·.engine.name)).Nodup) (htoken : base ≤ token) {world : World τ σ}
    (hclear : (Change.on (runSerial token jobs) world).2.Clear base) :
    Change.on (runSerial token jobs) world =
      (jobs.map (·.settled (Change.on (answers token jobs) world).1), (Change.on (answers token jobs) world).2) := by
  induction jobs generalizing world with
  | nil => rfl
  | cons job rest ih =>
      have hrest := fun other hin => hjobs other (List.mem_cons_of_mem _ hin)
      rw [List.map_cons, List.nodup_cons] at hnames
      have hstart : world.Clear base :=
        not_imp_not.mp (fun hworld => h.runSerial hjobs token hworld) hclear
      have hgoing := Clockwork.isCancelled_eq_false.mp (hstart token htoken)
      unfold runSerial at hclear ⊢
      rw [Change.on_bind, Change.on_askClock, hgoing] at hclear ⊢
      simp only [Change.on_bind, Change.on_pure] at hclear ⊢
      rw [ih hrest hnames.2 hclear, on_answers_cons, List.map_cons]
      have hhead : job.settled ((job.engine.name, (Change.on (job.run token) world).1) ::
          (Change.on (answers token rest) (Change.on (job.run token) world).2).1) =
          (Change.on (job.run token) world).1.getD (job.outcome .abandoned) := by
        unfold Job.settled
        rw [Keyed.get?_cons, if_pos rfl]
        rfl
      have htail : rest.map (·.settled (Change.on (answers token rest) (Change.on (job.run token) world).2).1) =
          rest.map (·.settled ((job.engine.name, (Change.on (job.run token) world).1) ::
            (Change.on (answers token rest) (Change.on (job.run token) world).2).1)) := by
        refine List.map_congr_left fun other hin => ?_
        have haway : job.engine.name ≠ other.engine.name := fun hsame =>
          hnames.1 (hsame ▸ List.mem_map.mpr ⟨other, hin, rfl⟩)
        unfold Job.settled
        rw [Keyed.get?_cons, if_neg haway]
      rw [hhead, htail]

/-- While no token is cancelled, jobs that are waited for are run in turn, each once. -/
theorem on_tendJobs (h : (Limits.stopped base).Bind runner) (hjobs : ∀ job ∈ jobs, job.engine ∈ runner.engines)
    (hnames : (jobs.map (·.engine.name)).Nodup) (htoken : base ≤ token)
    {schedule : List (Job τ σ) → World τ σ → Schedule} {workers : Nat} {serial : Bool} {world : World τ σ}
    (hclear : (Change.on (tendJobs schedule token workers serial jobs) world).2.Clear base) :
    ∃ asides lost, (∀ event ∈ asides, event.Plain) ∧ (∀ event ∈ lost, event.Plain) ∧
      ∃ known done, Change.on (answers token (jobsInTurn schedule workers serial jobs (world.noted asides)))
          (world.noted asides) = (known, done) ∧
        Change.on (tendJobs schedule token workers serial jobs) world = (jobs.map (·.settled known), done.noted lost) := by
  unfold tendJobs at hclear ⊢
  unfold jobsInTurn
  split
  · rename_i hserial
    rw [if_pos hserial] at hclear
    refine ⟨[], [], by simp, by simp, _, _, rfl, ?_⟩
    rw [World.noted_nil, World.noted_nil]
    exact on_runSerial h hjobs hnames htoken hclear
  · rename_i hparallel
    rw [if_neg hparallel] at hclear
    simp only [Change.on_bind, Change.on_log, Change.on_get] at hclear ⊢
    unfold tendParallel at hclear ⊢
    rw [Change.on_bind] at hclear ⊢
    have hpool : ∀ event ∈ [Event.pool (τ := τ) (min workers jobs.length)], event.Plain := by
      intro event hin
      rw [List.mem_singleton.mp hin]
      trivial
    have hwaiting : jobs.map Slot.waiting = jobs.map (·.slot []) := rfl
    rw [hwaiting] at hclear ⊢
    have hawait : (Change.on (await token (schedule jobs (world.noted [.pool (min workers jobs.length)])).grace
        (schedule jobs (world.noted [.pool (min workers jobs.length)])).polls (jobs.map (·.slot [])))
        (world.noted [.pool (min workers jobs.length)])).2.Clear base :=
      not_imp_not.mp (fun hworld => h.settleAll _ hworld) hclear
    have hon := on_await h hjobs hnames htoken hawait
    obtain ⟨lost, hlost, hsettle⟩ := on_settleAll jobs
      (Change.on (answers token ((schedule jobs (world.noted [.pool (min workers jobs.length)])).inTurn jobs))
        (world.noted [.pool (min workers jobs.length)])).1
      (Change.on (answers token ((schedule jobs (world.noted [.pool (min workers jobs.length)])).inTurn jobs))
        (world.noted [.pool (min workers jobs.length)])).2
    refine ⟨[.pool (min workers jobs.length)], lost, hpool, hlost, _, _, rfl, ?_⟩
    exact (congrArg (fun awaited => Change.on (settleAll awaited.1) awaited.2) hon).trans hsettle

omit [Quantity τ] in
/-- A schedule within the time that is granted gives jobs the same turns. -/
theorem jobsInTurn_within (schedule : List (Job τ σ) → World τ σ → Schedule) (granted : Bool) (workers : Nat) (serial : Bool)
    (jobs : List (Job τ σ)) (world : World τ σ) :
    jobsInTurn (fun jobs world => (schedule jobs world).within granted) workers serial jobs world =
      jobsInTurn schedule workers serial jobs world := by
  cases granted <;> rfl

/-- While no token is cancelled, the jobs of a phase come to outcomes: they are run in turn, each once. -/
theorem on_runJobs (h : (Limits.stopped base).Bind runner) (hjobs : ∀ job ∈ jobs, job.engine ∈ runner.engines)
    (hnames : (jobs.map (·.engine.name)).Nodup) (htoken : base ≤ token) {granted : Bool}
    {schedule : List (Job τ σ) → World τ σ → Schedule} {workers : Nat} {serial : Bool} {world : World τ σ}
    (hclear : ((runJobs granted schedule token workers serial jobs).on world).2.Clear base) :
    ∃ asides lost, (∀ event ∈ asides, event.Plain) ∧ (∀ event ∈ lost, event.Plain) ∧
      ∃ known done, Change.on (answers token (jobsInTurn schedule workers serial jobs (world.noted asides)))
          (world.noted asides) = (known, done) ∧
        (runJobs granted schedule token workers serial jobs).on world =
          (.ok (jobs.map (·.settled known)), done.noted lost) := by
  rcases runJobs_cases granted schedule token workers serial jobs world with
    ⟨outcomes, after, hon, htended⟩ | ⟨-, -, order, slots, after, hon, -, hcancelled⟩
  · rw [hon] at hclear
    obtain ⟨asides, lost, hasides, hlost, known, done, hanswers, hrun⟩ := on_tendJobs h hjobs hnames htoken
      (show World.Clear base (Change.on (tendJobs (fun jobs world => (schedule jobs world).within granted) token workers
        serial jobs) world).2 by rwa [htended])
    rw [jobsInTurn_within] at hanswers
    obtain ⟨rfl, rfl⟩ := Prod.mk.inj (htended.symm.trans hrun)
    exact ⟨asides, lost, hasides, hlost, known, done, hanswers, hon⟩
  · -- Only once a token is cancelled there is something to wait for.
    rw [hon] at hclear
    exact absurd (hcancelled.symm.trans (hclear token htoken)) (by decide)

end

end FixFirst
