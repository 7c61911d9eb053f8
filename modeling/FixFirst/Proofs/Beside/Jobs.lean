import FixFirst.Proofs.Beside.Turns

/-!
# Jobs side by side

Most engines are unaware of the rest of a run: what they do depends on what they see of the world, and
not on which tokens there are, which readings were taken, or what the journal says.  A broken engine does
nothing but fail.  The jobs of a phase come to the same with a broken engine and without it, but for the
outcome of that engine.

## Main definitions

* `World.Spared` — what an engine leaves to the run.
* `Engine.Unaware`, `Engine.Broken` — engines that see the world only, and one that only fails.
* `Runner.Joined` — a runner, and the same one with a broken engine more.
* `BesideOutcomes` — the outcomes of jobs, with and without those of the broken engine.

## Main statements

* `Runner.Joined.runJobs` — the jobs of a phase beside those with the broken engine.
-/

namespace FixFirst

variable {τ σ : Type}

/-! ### Engines -/

/-- Whether what happens to a world leaves alone what belongs to the run. -/
structure World.Spared (before after : World τ σ) : Prop where
  clock : before.clock.Lasts after.clock
  memory : after.memory = before.memory
  readings : after.readings = before.readings
  monitor : after.monitor = before.monitor
  calls : ∃ events, after.journal = before.journal ++ events ∧ callsIn events = []

theorem World.Spared.refl (world : World τ σ) : world.Spared world :=
  ⟨Clockwork.Lasts.refl _, rfl, rfl, rfl, [], (List.append_nil _).symm, rfl⟩

theorem World.Spared.quiet [Quantity τ] {before after : World τ σ} (h : before.Spared after) (level : Level) :
    before.Quiet level after where
  clock := h.clock
  pressed hpressed := by
    obtain ⟨monitor, hmonitor, hreadings, hlatest⟩ := hpressed
    refine ⟨monitor, h.monitor.trans hmonitor, ?_, hlatest⟩
    rw [h.memory, h.readings]
    exact hreadings
  watched := by rw [h.monitor]
  calls := h.calls

/-- Whether what an engine does depends only on what it sees of the world, and on the time that its token has:
where it does the same work, it comes to the same, unless its token is cancelled. -/
structure Engine.Unaware (engine : Engine τ σ) : Prop where
  prepares : ∀ fingerprint (world : World τ σ), world.Spared (Change.on (engine.prepare fingerprint) world).2
  prepared : ∀ fingerprint (world other : World τ σ), world.Same other →
    (Change.on (engine.prepare fingerprint) world).2.Same (Change.on (engine.prepare fingerprint) other).2
  calls : ∀ pass files token (world : World τ σ), world.Spared (Change.on (engine.call pass files token) world).2
  called : ∀ pass files token like (world other : World τ σ), world.Same other → world.clock.Paired other.clock token like →
    (Change.on (engine.call pass files token) world).2.clock.forest.isCancelled token = false →
    (Change.on (engine.call pass files like) other).2.clock.forest.isCancelled like = false →
    (Change.on (engine.call pass files like) other).1 = (Change.on (engine.call pass files token) world).1 ∧
      (Change.on (engine.call pass files token) world).2.Same (Change.on (engine.call pass files like) other).2

/-- Whether an engine changes nothing, and always fails, for another reason than that its tool is missing or that it
was cancelled. -/
structure Engine.Broken (engine : Engine τ σ) : Prop where
  prepares : ∀ fingerprint (world : World τ σ), (Change.on (engine.prepare fingerprint) world).2 = world
  calls : ∀ pass files token (world : World τ σ), ∃ fault,
    Change.on (engine.call pass files token) world = (.fault fault, world) ∧
      (∀ tool detail, fault ≠ .toolMissing tool detail) ∧ ∀ reason, fault ≠ .cancelled reason

theorem Engine.Unaware.lasting {engine : Engine τ σ} (h : engine.Unaware) : engine.Lasting :=
  fun world => ⟨fun fingerprint => (h.prepares fingerprint world).clock,
    fun pass files token => (h.calls pass files token world).clock⟩

theorem Engine.Broken.lasting {engine : Engine τ σ} (h : engine.Broken) : engine.Lasting := by
  intro world
  constructor
  · intro fingerprint
    rw [h.prepares]
    exact Clockwork.Lasts.refl _
  · intro pass files token
    obtain ⟨fault, hcall, -⟩ := h.calls pass files token world
    rw [hcall]
    exact Clockwork.Lasts.refl _

/-- Whether what the version control system does depends only on what it sees of the world. -/
structure Shell.Unaware (shell : Shell τ σ) : Prop where
  spares : ∀ command (world : World τ σ), world.Spared ((shell command none).on world).2
  answers : ∀ command (world other : World τ σ), world.Same other →
    ((shell command none).on other).1 = ((shell command none).on world).1 ∧
      ((shell command none).on world).2.Same ((shell command none).on other).2

/-- An engine that changes nothing, and answers the same whenever it is called. -/
theorem Engine.Unaware.of_idle {engine : Engine τ σ}
    (hprepare : ∀ fingerprint (world : World τ σ), (Change.on (engine.prepare fingerprint) world).2 = world)
    (hcall : ∀ pass files, ∃ reply, ∀ token (world : World τ σ),
      Change.on (engine.call pass files token) world = (reply, world)) : engine.Unaware := by
  refine ⟨fun fingerprint world => ?_, fun fingerprint world other hsame => ?_, fun pass files token world => ?_,
    fun pass files token like world other hsame _ _ _ => ?_⟩
  · rw [hprepare]
    exact .refl world
  · rw [hprepare, hprepare]
    exact hsame
  · obtain ⟨reply, hreply⟩ := hcall pass files
    rw [hreply]
    exact .refl world
  · obtain ⟨reply, hreply⟩ := hcall pass files
    rw [hreply, hreply]
    exact ⟨rfl, hsame⟩

/-- A version control system that changes nothing, and answers each command the same whenever it is given. -/
theorem Shell.Unaware.of_idle {shell : Shell τ σ}
    (h : ∀ command, ∃ outcome, ∀ world : World τ σ, (shell command none).on world = (outcome, world)) : shell.Unaware := by
  refine ⟨fun command world => ?_, fun command world other hsame => ?_⟩
  · obtain ⟨outcome, houtcome⟩ := h command
    rw [houtcome]
    exact .refl world
  · obtain ⟨outcome, houtcome⟩ := h command
    rw [houtcome, houtcome]
    exact ⟨rfl, hsame⟩

/-- A runner, and the same one with a broken engine more. -/
structure Runner.Joined (runner joined : Runner τ σ) (odd : Engine τ σ) : Prop where
  engines : ∃ before after, runner.engines = before ++ after ∧ joined.engines = before ++ odd :: after
  /-- There are other engines. -/
  others : runner.engines ≠ []
  names : (joined.engines.map (·.name)).Nodup
  config : joined.config = runner.config
  shell : joined.shell = runner.shell
  /-- Both run on one system. -/
  longest : joined.longestWait = runner.longestWait
  broken : odd.Broken
  unaware : ∀ engine ∈ runner.engines, engine.Unaware
  /-- The other engines do not put the name of the broken one on their results. -/
  signed : ∀ engine ∈ runner.engines, ∀ pass files token world result,
    (Change.on (engine.call pass files token) world).1 = .result result → result.engine ≠ odd.name
  shellUnaware : runner.shell.Unaware
  /-- The jobs of the other engines come back in the same order. -/
  schedule : ∀ jobs (world other : World τ σ), (jobs.map (·.engine.name)).Nodup → world.Same other →
    ((joined.schedule jobs other).inTurn jobs).filter (·.engine.name != odd.name) =
      (runner.schedule (jobs.filter (·.engine.name != odd.name)) world).inTurn (jobs.filter (·.engine.name != odd.name))

namespace Runner.Joined

variable {runner joined : Runner τ σ} {odd : Engine τ σ}

theorem mem (h : runner.Joined joined odd) : odd ∈ joined.engines := by
  obtain ⟨before, after, -, hjoined⟩ := h.engines
  rw [hjoined]
  exact List.mem_append_right _ List.mem_cons_self

/-- The broken engine is the one with its name. -/
theorem eq_odd (h : runner.Joined joined odd) {engine : Engine τ σ} (hin : engine ∈ joined.engines)
    (hname : engine.name = odd.name) : engine = odd :=
  List.inj_on_of_nodup_map h.names hin h.mem hname

theorem mem_of_ne (h : runner.Joined joined odd) {engine : Engine τ σ} (hin : engine ∈ joined.engines)
    (hname : engine.name ≠ odd.name) : engine ∈ runner.engines := by
  obtain ⟨before, after, hrunner, hjoined⟩ := h.engines
  rw [hjoined] at hin
  rw [hrunner]
  rcases List.mem_append.mp hin with hbefore | hrest
  · exact List.mem_append_left _ hbefore
  · rcases List.mem_cons.mp hrest with rfl | hafter
    · exact absurd rfl hname
    · exact List.mem_append_right _ hafter

theorem ne_odd (h : runner.Joined joined odd) {engine : Engine τ σ} (hin : engine ∈ runner.engines) :
    engine.name ≠ odd.name := by
  obtain ⟨before, after, hrunner, hjoined⟩ := h.engines
  have hnames := h.names
  rw [hjoined, List.map_append, List.map_cons, List.nodup_middle, List.nodup_cons, ← List.map_append, ← hrunner] at hnames
  exact fun hname => hnames.1 (hname ▸ List.mem_map.mpr ⟨engine, hin, rfl⟩)

/-- Without the broken engine, the engines are the other ones. -/
theorem filter (h : runner.Joined joined odd) : joined.engines.filter (·.name != odd.name) = runner.engines := by
  obtain ⟨before, after, hrunner, hjoined⟩ := h.engines
  have hall : ∀ engine ∈ runner.engines, (engine.name != odd.name) = true := fun engine hin => by
    simpa using h.ne_odd hin
  rw [hrunner] at hall ⊢
  rw [hjoined, List.filter_append, List.filter_cons_of_neg (by simp), ← List.filter_append]
  exact List.filter_eq_self.mpr hall

theorem lasting (h : runner.Joined joined odd) : ∀ engine ∈ runner.engines, engine.Lasting :=
  fun engine hin => (h.unaware engine hin).lasting

theorem lasting_joined (h : runner.Joined joined odd) : ∀ engine ∈ joined.engines, engine.Lasting := by
  intro engine hin
  by_cases hname : engine.name = odd.name
  · rw [h.eq_odd hin hname]
    exact h.broken.lasting
  · exact h.lasting engine (h.mem_of_ne hin hname)

end Runner.Joined

/-! ### One job -/

section

variable [Quantity τ] {aspect : Aspect} {asked : Bool} {own like : Nat} {world other : World τ σ}

theorem Job.lasts_run {job : Job τ σ} (h : job.engine.Lasting) (token : Nat) (world : World τ σ) :
    world.clock.Lasts (Change.on (job.run token) world).2.clock := by
  have hcall := (h (world.noted [.called job.engine.name job.pass job.files])).2 job.pass job.files token
  rw [job.on_run token world rfl]
  split <;> exact hcall

/-- A call that both runs make. -/
theorem World.Beside.called (h : world.Beside aspect asked other) {name : String} (hname : name ≠ aspect.name)
    (pass : Pass) (files : List String) :
    (world.noted [.called name pass files]).Beside aspect asked (other.noted [.called name pass files]) := by
  have hcalls := World.callsSince_append h.past (World.journal_noted world [.called name pass files])
  have hcalls' := World.callsSince_append h.otherPast (World.journal_noted other [.called name pass files])
  have hkeeps : ((⟨name, pass, files⟩ : Call).engine != aspect.name) = true := by simpa using hname
  refine { h with same := h.same.noted _ _, past := ?_, otherPast := ?_, calls := ?_, asked := ?_ }
  · rw [World.journal_noted, List.length_append]
    exact Nat.le_add_right_of_le h.past
  · rw [World.journal_noted, List.length_append]
    exact Nat.le_add_right_of_le h.otherPast
  · rw [hcalls, hcalls', List.filter_append, h.calls]
    exact congrArg _ (List.filter_cons_of_pos hkeeps)
  · rw [hcalls', List.any_append, h.asked]
    have hother : ([⟨name, pass, files⟩] : List Call).any (·.engine == aspect.name) = false := by simpa using hname
    exact (congrArg (asked || ·) hother).trans (Bool.or_false asked)

/-- A call of the engine that only one run has. -/
theorem World.Beside.asking (h : world.Beside aspect asked other) (pass : Pass) (files : List String) :
    world.Beside aspect true (other.noted [.called aspect.name pass files]) := by
  have hcalls' := World.callsSince_append h.otherPast (World.journal_noted other [.called aspect.name pass files])
  have hsame : world.Same (other.noted [.called aspect.name pass files]) :=
    ⟨h.same.now, h.same.disk, h.same.benches, h.same.moment, h.same.random, h.same.outside⟩
  refine { h with same := hsame, otherPast := ?_, calls := ?_, asked := ?_ }
  · rw [World.journal_noted, List.length_append]
    exact Nat.le_add_right_of_le h.otherPast
  · rw [hcalls', List.filter_append, h.calls]
    have hnone : ([⟨aspect.name, pass, files⟩] : List Call).filter (·.engine != aspect.name) = [] := by simp
    exact (congrArg (world.callsSince aspect.past ++ ·) hnone).trans (List.append_nil _)
  · rw [hcalls', List.any_append]
    have hsome : ([⟨aspect.name, pass, files⟩] : List Call).any (·.engine == aspect.name) = true := by simp
    exact (congrArg (List.any _ _ || ·) hsome).trans (Bool.or_true _)

/-- A job of an engine that both runs have comes to the same in both. -/
theorem Job.run_beside {job : Job τ σ} (hunaware : job.engine.Unaware) (hname : job.engine.name ≠ aspect.name)
    (hpair : (own, like) ∈ aspect.tokens) (h : world.Beside aspect asked other)
    (hactive : (Change.on (job.run own) world).2.clock.forest.isCancelled own = false)
    (hactive' : (Change.on (job.run like) other).2.clock.forest.isCancelled like = false) :
    (Change.on (job.run like) other).1 = (Change.on (job.run own) world).1 ∧
      (Change.on (job.run own) world).2.Beside aspect asked (Change.on (job.run like) other).2 := by
  have hcalled := h.called hname job.pass job.files
  have hspared := hunaware.calls job.pass job.files own (world.noted [.called job.engine.name job.pass job.files])
  have hspared' := hunaware.calls job.pass job.files like (other.noted [.called job.engine.name job.pass job.files])
  have hsame := hunaware.called job.pass job.files own like _ _ hcalled.same (hcalled.tokens _ hpair).2.2
  rcases hback : Change.on (job.engine.call job.pass job.files own)
    (world.noted [.called job.engine.name job.pass job.files]) with ⟨reply, back⟩
  rcases hback' : Change.on (job.engine.call job.pass job.files like)
    (other.noted [.called job.engine.name job.pass job.files]) with ⟨reply', back'⟩
  rw [hback] at hspared hsame
  rw [hback'] at hspared' hsame
  rw [job.on_run own world hback] at hactive ⊢
  rw [job.on_run like other hback'] at hactive' ⊢
  have hopen : back.clock.forest.isCancelled own = false := by
    split at hactive <;> exact hactive
  have hopen' : back'.clock.forest.isCancelled like = false := by
    split at hactive' <;> exact hactive'
  obtain ⟨hreply, hafter⟩ := hsame hopen hopen'
  simp only at hreply hafter
  subst hreply
  have hbeside := hcalled.quiet (hspared.quiet _) (hspared'.quiet _) hafter
  have htime : back'.clock.now - other.clock.now = back.clock.now - world.clock.now := by
    rw [hafter.now, h.same.now]
  have hplain : ∀ verdict, ∀ event ∈ [Event.completed (job.outcome verdict)], event.Plain := by
    intro verdict event hin
    rw [List.mem_singleton.mp hin]
    trivial
  rw [htime]
  cases job.verdict? (back.clock.now - world.clock.now) reply' with
  | none => exact ⟨rfl, hbeside⟩
  | some verdict => exact ⟨rfl, hbeside.drifted (.noted back (hplain verdict)) (.noted back' (hplain verdict))⟩

/-- A job of the broken engine fails, and the other run does not notice. -/
theorem Job.run_broken {job : Job τ σ} (hbroken : job.engine.Broken) (hname : job.engine.name = aspect.name)
    (h : world.Beside aspect asked other) (token : Nat) :
    ∃ message, (Change.on (job.run token) other).1 = some (job.outcome (.failure message)) ∧
      world.Beside aspect true (Change.on (job.run token) other).2 := by
  obtain ⟨fault, hcall, hmissing, hcancelled⟩ :=
    hbroken.calls job.pass job.files token (other.noted [.called job.engine.name job.pass job.files])
  have hverdict : ∀ duration, job.verdict? duration (.fault fault) = some (.failure fault.failureText) := by
    intro duration
    cases fault <;> first | rfl | exact absurd rfl (hmissing _ _) | exact absurd rfl (hcancelled _)
  rw [job.on_run token other hcall, hverdict]
  refine ⟨fault.failureText, rfl, ?_⟩
  have hasking := h.asking job.pass job.files
  rw [← hname] at hasking
  refine hasking.drifted (.refl world) (.noted _ fun event hin => ?_)
  rw [List.mem_singleton.mp hin]
  trivial

/-- The broken engine alone, under a token that is not cancelled. -/
theorem Job.runJobs_broken (job : Job τ σ) (hbroken : job.engine.Broken) (hname : job.engine.name = aspect.name)
    (h : world.Beside aspect asked other) {token : Nat} (hactive : other.clock.forest.isCancelled token = false)
    (granted : Bool) (schedule : List (Job τ σ) → World τ σ → Schedule) (workers : Nat) (serial : Bool) :
    ∃ message, ((runJobs granted schedule token workers serial [job]).on other).1 = .ok [job.outcome (.failure message)] ∧
      world.Beside aspect true ((runJobs granted schedule token workers serial [job]).on other).2 := by
  obtain ⟨message, hanswer, hbeside⟩ := Job.run_broken hbroken hname h token
  unfold runJobs runSerial
  rw [if_pos (by simp), Act.on_lift, Change.on_bind, Change.on_askClock, Clockwork.isCancelled_eq_false.mp hactive]
  refine ⟨message, ?_, hbeside⟩
  show Except.ok [(Change.on (job.run token) other).1.getD (job.outcome .abandoned)] = _
  rw [hanswer]
  rfl

/-! ### Jobs in turn -/

omit [Quantity τ] in
theorem Keyed.erase_cons {α : Type} (entry : String × α) (rest : Keyed α) (key : String) :
    Keyed.erase (entry :: rest) key = if entry.1 = key then Keyed.erase rest key else entry :: Keyed.erase rest key := by
  unfold Keyed.erase
  by_cases h : entry.1 = key <;> simp [h]

theorem lasts_answers {jobs : List (Job τ σ)} (h : ∀ job ∈ jobs, job.engine.Lasting) (token : Nat) (world : World τ σ) :
    world.clock.Lasts (Change.on (answers token jobs) world).2.clock := by
  induction jobs generalizing world with
  | nil => exact Clockwork.Lasts.refl _
  | cons job rest ih =>
      rw [on_answers_cons]
      exact (job.lasts_run (h job List.mem_cons_self) token world).trans
        (ih (fun other hin => h other (List.mem_cons_of_mem _ hin)) _)

/-- What holds of whatever a job comes to, holds of its answer. -/
theorem exists_of_answers {P : Job τ σ → Outcome τ → Prop} {jobs : List (Job τ σ)}
    (h : ∀ job ∈ jobs, ∀ token world outcome after, Change.on (job.run token) world = (some outcome, after) → P job outcome)
    (token : Nat) (world : World τ σ) {name : String} {outcome : Outcome τ}
    (hanswer : (Change.on (answers token jobs) world).1.get? name = some (some outcome)) :
    ∃ job ∈ jobs, job.engine.name = name ∧ P job outcome := by
  induction jobs generalizing world with
  | nil => cases hanswer
  | cons job rest ih =>
      rw [on_answers_cons, Keyed.get?_cons] at hanswer
      split at hanswer
      · rename_i hname
        exact ⟨job, List.mem_cons_self, hname,
          h job List.mem_cons_self token world outcome _ (Prod.ext (Option.some.inj hanswer) rfl)⟩
      · obtain ⟨other, hin, hname, hholds⟩ := ih (fun other hin => h other (List.mem_cons_of_mem _ hin)) _ hanswer
        exact ⟨other, List.mem_cons_of_mem _ hin, hname, hholds⟩

/-- A job whose engine does not use a name comes to no result with that name. -/
theorem Job.signed_run {job : Job τ σ} {name : String} (hname : job.engine.name ≠ name)
    (hsigned : ∀ pass files token world result,
      (Change.on (job.engine.call pass files token) world).1 = .result result → result.engine ≠ name)
    {token : Nat} {world after : World τ σ} {outcome : Outcome τ}
    (h : Change.on (job.run token) world = (some outcome, after)) (result : EngineResult τ)
    (hresult : outcome.verdict = .result result) : result.engine ≠ name := by
  rcases hcall : Change.on (job.engine.call job.pass job.files token)
    (world.noted [.called job.engine.name job.pass job.files]) with ⟨reply, back⟩
  rw [job.on_run token world hcall] at h
  split at h
  · cases h
  · rename_i verdict hverdict
    cases h
    have hsame : verdict = .result result := hresult
    subst hsame
    cases reply with
    | result known =>
        cases hverdict
        exact hsigned job.pass job.files token _ result (congrArg Prod.fst hcall)
    | fault fault =>
        have hfault := Option.some.inj hverdict
        split at hfault
        · cases hfault
        · cases hfault
          exact hname
        · cases hfault
    | silence => cases hverdict

/-- What jobs answer beside those of a broken engine: the same, but for the failures of that one. -/
theorem answers_beside {jobs : List (Job τ σ)} (hunaware : ∀ job ∈ jobs, job.engine.name ≠ aspect.name → job.engine.Unaware)
    (hbroken : ∀ job ∈ jobs, job.engine.name = aspect.name → job.engine.Broken) (hpair : (own, like) ∈ aspect.tokens)
    (h : world.Beside aspect asked other)
    (hclear : (Change.on (answers own (jobs.filter (·.engine.name != aspect.name))) world).2.Clear aspect.base)
    (hclear' : (Change.on (answers like jobs) other).2.Clear aspect.base) :
    (Change.on (answers own (jobs.filter (·.engine.name != aspect.name))) world).2.Beside aspect
        (asked || jobs.any (·.engine.name == aspect.name)) (Change.on (answers like jobs) other).2 ∧
      (Change.on (answers like jobs) other).1.erase aspect.name =
        (Change.on (answers own (jobs.filter (·.engine.name != aspect.name))) world).1 ∧
      ∀ answer, (Change.on (answers like jobs) other).1.get? aspect.name = some answer →
        ∃ outcome message, answer = some outcome ∧ outcome.verdict = .failure message := by
  induction jobs generalizing asked world other with
  | nil =>
      refine ⟨?_, rfl, fun answer hanswer => by cases hanswer⟩
      simpa using h
  | cons job rest ih =>
      have hunaware' := fun other hin => hunaware other (List.mem_cons_of_mem _ hin)
      have hbroken' := fun other hin => hbroken other (List.mem_cons_of_mem _ hin)
      by_cases hname : job.engine.name = aspect.name
      · have hodd : (job.engine.name == aspect.name) = true := by simpa using hname
        have hdropped : (job :: rest).filter (·.engine.name != aspect.name) = rest.filter (·.engine.name != aspect.name) :=
          List.filter_cons_of_neg (by simp [hname])
        rw [hdropped] at hclear ⊢
        rw [on_answers_cons] at hclear' ⊢
        obtain ⟨message, hanswer, hbeside⟩ := Job.run_broken (hbroken job List.mem_cons_self hname) hname h like
        obtain ⟨hafter, hrest, hfailed⟩ := ih hunaware' hbroken' hbeside hclear hclear'
        refine ⟨?_, ?_, fun answer hget => ?_⟩
        · rw [Bool.true_or] at hafter
          rw [List.any_cons, hodd, Bool.true_or, Bool.or_true]
          exact hafter
        · rw [Keyed.erase_cons, if_pos hname]
          exact hrest
        · rw [Keyed.get?_cons, if_pos hname] at hget
          exact ⟨_, message, (Option.some.inj hget).symm.trans hanswer, rfl⟩
      · have heven : (job.engine.name == aspect.name) = false := by simpa using hname
        have hkept : (job :: rest).filter (·.engine.name != aspect.name) = job :: rest.filter (·.engine.name != aspect.name) :=
          List.filter_cons_of_pos (by simpa using hname)
        rw [hkept, on_answers_cons] at hclear ⊢
        rw [on_answers_cons] at hclear' ⊢
        have hlasting : ∀ other ∈ rest, other.engine.Lasting := by
          intro other hother
          by_cases hsame : other.engine.name = aspect.name
          · exact (hbroken' other hother hsame).lasting
          · exact (hunaware' other hother hsame).lasting
        have hactive := (hclear.of_lasts (lasts_answers (fun other hother =>
          hlasting other (List.mem_filter.mp hother).1) own _)) own (h.tokens _ hpair).1
        have hactive' := (hclear'.of_lasts (lasts_answers hlasting like _)) like (h.tokens _ hpair).2.1
        obtain ⟨hanswer, hbeside⟩ := Job.run_beside (hunaware job List.mem_cons_self hname) hname hpair h hactive hactive'
        obtain ⟨hafter, hrest, hfailed⟩ := ih hunaware' hbroken' hbeside hclear hclear'
        refine ⟨?_, ?_, fun answer hget => ?_⟩
        · rw [List.any_cons, heven, Bool.false_or]
          exact hafter
        · rw [Keyed.erase_cons, if_neg hname, hanswer, hrest]
        · rw [Keyed.get?_cons, if_neg hname] at hget
          exact hfailed answer hget

/-! ### The jobs of a phase -/

omit [Quantity τ] in
/-- A single job has its turn at once. -/
theorem Schedule.inTurn_of_length_le_one {jobs : List (Job τ σ)} (h : jobs.length ≤ 1) (schedule : Schedule) :
    schedule.inTurn jobs = jobs := by
  have hsingle : ∀ (job : Job τ σ) positions, 0 ∈ positions → turns [job] [] positions = [job] := by
    intro job positions hin
    induction positions with
    | nil => cases hin
    | cons position rest ih =>
        rw [turns_cons]
        cases position with
        | zero =>
            have hseen : ∀ other ∈ [job], other.engine.name ∈ [] ++ [job.engine.name] := by simp
            simp only [List.getElem?_cons_zero, List.contains_nil, Bool.false_eq_true, if_false, turns_eq_nil hseen]
        | succ position =>
            have hrest : 0 ∈ rest := by simpa using hin
            exact ih hrest
  match jobs with
  | [] => exact turns_eq_nil (by simp) _
  | [job] => exact hsingle job _ (by simp)

omit [Quantity τ] in
/-- Without the broken engine, jobs have their turns in the same order. -/
theorem Runner.Joined.jobsInTurn {runner joined : Runner τ σ} {odd : Engine τ σ} (h : runner.Joined joined odd)
    {jobs : List (Job τ σ)} (hnames : (jobs.map (·.engine.name)).Nodup) (workers : Nat) (serial : Bool)
    (hsame : world.Same other) :
    (FixFirst.jobsInTurn joined.schedule workers serial jobs other).filter (·.engine.name != odd.name) =
      FixFirst.jobsInTurn runner.schedule workers serial (jobs.filter (·.engine.name != odd.name)) world := by
  have hschedule := h.schedule jobs world other hnames hsame
  have hfewer : (jobs.filter (·.engine.name != odd.name)).length ≤ jobs.length := List.length_filter_le ..
  unfold FixFirst.jobsInTurn
  by_cases hserial : (serial || decide (workers ≤ 1)) = true
  · rw [hserial, Bool.true_or, Bool.true_or, if_pos rfl, if_pos rfl]
  · rw [Bool.eq_false_of_not_eq_true hserial, Bool.false_or, Bool.false_or]
    simp only [decide_eq_true_eq]
    by_cases hall : jobs.length ≤ 1
    · rw [if_pos hall, if_pos (by omega)]
    · rw [if_neg hall, hschedule]
      split
      · rename_i hfew
        exact Schedule.inTurn_of_length_le_one hfew _
      · rfl

omit [Quantity τ] in
/-- The outcome of a job is among the answers, or the job is abandoned. -/
theorem Job.settled_cases (job : Job τ σ) (known : Keyed (Option (Outcome τ))) :
    (∃ outcome, known.get? job.engine.name = some (some outcome) ∧ job.settled known = outcome) ∨
      job.settled known = job.outcome .abandoned := by
  unfold Job.settled
  cases known.get? job.engine.name with
  | none => exact Or.inr rfl
  | some answer =>
      cases answer with
      | none => exact Or.inr rfl
      | some outcome => exact Or.inl ⟨outcome, rfl, rfl⟩

omit [Quantity τ] in
/-- The answer of another engine does not matter for a job. -/
theorem Job.settled_erase {job : Job τ σ} {name : String} (h : name ≠ job.engine.name)
    (known : Keyed (Option (Outcome τ))) : job.settled (known.erase name) = job.settled known := by
  unfold Job.settled
  rw [Keyed.get?_erase, if_neg h]

section

variable {jobs : List (Job τ σ)} {token : Nat} {known : Keyed (Option (Outcome τ))} {done : World τ σ}

/-- The outcome of a job is one of its engine. -/
theorem Job.engine_settled (hanswers : Change.on (answers token jobs) world = (known, done)) (job : Job τ σ) :
    (job.settled known).engine = job.engine.name := by
  rcases job.settled_cases known with ⟨outcome, hget, hsettled⟩ | hsettled
  · obtain ⟨called, -, hsame, hyields⟩ := exists_of_answers (P := Job.Yields)
      (fun job _ token world outcome after hrun => job.yields_run hrun) token world (by rw [hanswers]; exact hget)
    rw [hsettled, hyields.engine, hsame]
  · rw [hsettled]
    rfl

/-- A job that was called and whose engine answers by failing has failed. -/
theorem Job.failed_settled (hanswers : Change.on (answers token jobs) world = (known, done)) {job : Job τ σ}
    (hcalled : job ∈ jobs)
    (hfails : ∀ answer, known.get? job.engine.name = some answer →
      ∃ outcome message, answer = some outcome ∧ outcome.verdict = .failure message) :
    ∃ message, (job.settled known).verdict = .failure message := by
  have hkeys := keys_answers token jobs world
  rw [hanswers] at hkeys
  have hheld : known.holds job.engine.name = true := by
    rw [Keyed.holds_iff, hkeys]
    exact List.mem_map.mpr ⟨job, hcalled, rfl⟩
  unfold Keyed.holds at hheld
  obtain ⟨answer, hget⟩ := Option.isSome_iff_exists.mp hheld
  obtain ⟨outcome, message, rfl, hverdict⟩ := hfails answer hget
  refine ⟨message, ?_⟩
  unfold Job.settled
  rw [hget]
  exact hverdict

/-- A job comes to no result with a name that no call puts on its results. -/
theorem Job.signed_settled (hanswers : Change.on (answers token jobs) world = (known, done)) {name : String}
    (hsigned : ∀ job ∈ jobs, ∀ token world outcome after, Change.on (job.run token) world = (some outcome, after) →
      ∀ result, outcome.verdict = .result result → result.engine ≠ name)
    {job : Job τ σ} {result : EngineResult τ} (hresult : (job.settled known).verdict = .result result) :
    result.engine ≠ name := by
  rcases job.settled_cases known with ⟨outcome, hget, hsettled⟩ | hsettled
  · rw [hsettled] at hresult
    obtain ⟨called, -, -, hown⟩ := exists_of_answers hsigned token world (by rw [hanswers]; exact hget)
    exact hown result hresult
  · rw [hsettled] at hresult
    cases hresult

end

/-- Whether outcomes are the same as others, but for those of an engine, which are failures. -/
structure BesideOutcomes (name : String) (outcomes others : List (Outcome τ)) : Prop where
  rest : others.filter (·.engine != name) = outcomes
  failed : ∀ outcome ∈ others, outcome.engine = name → ∃ message, outcome.verdict = .failure message
  signed : ∀ outcome ∈ outcomes, ∀ result, outcome.verdict = .result result → result.engine ≠ name

omit [Quantity τ] in
/-- The outcomes of jobs, where the answers are the same but for those of an engine that fails. -/
theorem BesideOutcomes.settled {name : String} {jobs : List (Job τ σ)} {known : Keyed (Option (Outcome τ))}
    (hengines : ∀ job : Job τ σ, (job.settled known).engine = job.engine.name)
    (hfailed : ∀ job ∈ jobs, job.engine.name = name → ∃ message, (job.settled known).verdict = .failure message)
    (hsigned : ∀ (job : Job τ σ) result, (job.settled (known.erase name)).verdict = .result result →
      result.engine ≠ name) :
    BesideOutcomes name ((jobs.filter (·.engine.name != name)).map (·.settled (known.erase name)))
      (jobs.map (·.settled known)) where
  rest := by
    rw [List.filter_map]
    simp only [Function.comp_def, hengines]
    refine List.map_congr_left fun job hin => (Job.settled_erase ?_ known).symm
    have hother := (List.mem_filter.mp hin).2
    exact fun heq => by simp [heq] at hother
  failed outcome hin hsame := by
    obtain ⟨job, hjob, rfl⟩ := List.mem_map.mp hin
    rw [hengines] at hsame
    exact hfailed job hjob hsame
  signed outcome hin result hresult := by
    obtain ⟨job, -, rfl⟩ := List.mem_map.mp hin
    exact hsigned job result hresult

/-- The jobs of a phase, beside the same jobs and one of a broken engine. -/
theorem Runner.Joined.runJobs {runner joined : Runner τ σ} {odd : Engine τ σ} (h : runner.Joined joined odd)
    (hname : aspect.name = odd.name) {jobs : List (Job τ σ)} (hjobs : ∀ job ∈ jobs, job.engine ∈ joined.engines)
    (hnames : (jobs.map (·.engine.name)).Nodup) (hpair : (own, like) ∈ aspect.tokens) (workers : Nat) (serial : Bool) :
    Act.Twin aspect asked
      (FixFirst.runJobs runner.grantsGrace runner.schedule own workers serial (jobs.filter (·.engine.name != odd.name)))
      (FixFirst.runJobs joined.grantsGrace joined.schedule like workers serial jobs)
      fun later outcomes others => BesideOutcomes odd.name outcomes others ∧
        others.map (·.engine) = jobs.map (·.engine.name) ∧ later = (asked || others.any (·.engine == odd.name)) := by
  intro world other hbeside hclear hclear'
  have hfewer : ((jobs.filter (·.engine.name != odd.name)).map (·.engine.name)).Nodup :=
    hnames.sublist (List.filter_sublist.map _)
  have hjobs' : ∀ job ∈ jobs.filter (·.engine.name != odd.name), job.engine ∈ runner.engines := by
    intro job hin
    obtain ⟨hjob, hother⟩ := List.mem_filter.mp hin
    exact h.mem_of_ne (hjobs job hjob) (by simpa using hother)
  -- Both runs call jobs in their turns and note what else happens, and the turns are the same but for the broken engine.
  obtain ⟨asides, lost, hasides, hlost, known, done, hanswers, hon⟩ :=
    on_runJobs (Runner.bind_stopped h.lasting aspect.base) hjobs' hfewer (hbeside.tokens _ hpair).1 hclear
  obtain ⟨asides', lost', hasides', hlost', known', done', hanswers', hon'⟩ :=
    on_runJobs (Runner.bind_stopped h.lasting_joined aspect.base) hjobs hnames (hbeside.tokens _ hpair).2.1 hclear'
  rw [hon] at hclear
  rw [hon'] at hclear'
  have hstart := hbeside.drifted (.noted world hasides) (.noted other hasides')
  rw [← h.jobsInTurn hnames workers serial hstart.same, ← hname] at hanswers
  have hturn : ∀ job ∈ FixFirst.jobsInTurn joined.schedule workers serial jobs (other.noted asides'), job ∈ jobs :=
    fun job hin => (mem_jobsInTurn hnames _).mp hin
  have hshared : ∀ job ∈ jobs, job.engine.name ≠ odd.name → job.engine ∈ runner.engines :=
    fun job hin hother => h.mem_of_ne (hjobs job hin) hother
  obtain ⟨hafter, herased, hfails⟩ := answers_beside
    (fun job hin hother => h.unaware _ (hshared job (hturn job hin) (hname ▸ hother)))
    (fun job hin hsame => by
      rw [h.eq_odd (hjobs job (hturn job hin)) (hsame.trans hname)]
      exact h.broken)
    hpair hstart (by rw [hanswers]; exact hclear) (by rw [hanswers']; exact hclear')
  rw [hanswers, hanswers', hname] at hafter herased
  rw [hanswers', hname] at hfails
  have hknown : known'.erase odd.name = known := herased
  have hengines := Job.engine_settled hanswers'
  have hasked : (FixFirst.jobsInTurn joined.schedule workers serial jobs (other.noted asides')).any
      (·.engine.name == odd.name) = (jobs.map (·.settled known')).any (·.engine == odd.name) := by
    rw [Bool.eq_iff_iff, List.any_map]
    simp only [List.any_eq_true, mem_jobsInTurn hnames, Function.comp_apply, hengines]
  have houtcomes : BesideOutcomes odd.name ((jobs.filter (·.engine.name != odd.name)).map (·.settled known))
      (jobs.map (·.settled known')) := by
    rw [← hknown]
    refine .settled hengines (fun job hjob hsame => ?_) fun job result hresult => ?_
    · exact Job.failed_settled hanswers' ((mem_jobsInTurn hnames _).mpr hjob) (by rw [hsame]; exact hfails)
    · refine Job.signed_settled hanswers (fun job hin token world outcome after hrun => ?_) (hknown ▸ hresult)
      obtain ⟨hturned, hother⟩ := List.mem_filter.mp hin
      have hengine := hshared job (hturn job hturned) (by simpa [hname] using hother)
      exact Job.signed_run (h.ne_odd hengine) (h.signed _ hengine) hrun
  rw [hon, hon']
  refine ⟨_, hafter.drifted (.noted done hlost) (.noted done' hlost'), .ok ⟨houtcomes, ?_, ?_⟩⟩
  · rw [List.map_map]
    exact List.map_congr_left fun job _ => hengines job
  · rw [hasked]

end

end FixFirst
