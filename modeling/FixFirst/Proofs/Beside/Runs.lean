import FixFirst.Proofs.Beside.Memory
import FixFirst.Proofs.Beside.Reports

/-!
# Runs side by side

A failing engine does not disturb the others.  Two runs start in one world, the one with some engines, the
other one with a broken engine more.  Their preparations are the same but for a remark, their phases go on
side by side, and so does staging; so their reports differ in what they say about the broken engine only.

## Main definitions

* `Runner.starting` — what a run starts from.
* `Report.Beside` — a report beside that of the run with the broken engine.

## Main statements

* `Runner.Joined.setUp`, `Runner.Joined.conclude` — the parts of a run before and after its phases.
-/

namespace FixFirst

variable {τ σ : Type} [Quantity τ] {aspect : Aspect} {asked : Bool} {own like : Nat} {level : Level}
  {runner joined : Runner τ σ} {odd : Engine τ σ} {world there : World τ σ}

/-! ### Setting up -/

namespace Runner

/-- What a run starts from: its setup, the clock with its tokens, and its monitor. -/
def starting (config : Config τ) (request : Request τ) (world : World τ σ) : Except Fault (Setup τ × Clockwork τ × Monitor τ) := do
  let id := correlationId (← milliseconds world.moment) world.random
  let files ← world.disk.normalizeAll request.files
  let budget := request.timeout.getD config.execution.timeout
  let running := world.clock.runToken (some budget) request.token
  let phased := running.2.phaseToken running.1 (budget * config.execution.reserveRatio)
  let monitor ← Monitor.make config.resources
  return (⟨world.clock.now, id, files, budget, running.1, phased.1⟩, phased.2, monitor)

/-- A run is set up as its configuration says, with a remark that depends on its engines. -/
theorem on_setUp (runner : Runner τ σ) (request : Request τ) (world : World τ σ) (hsome : runner.engines ≠ []) :
    ∃ events, (∀ event ∈ events, event.Plain) ∧
      match starting runner.config request world with
      | .error fault => ∃ after, (runner.setUp request).on world = (.error fault, after) ∧
          after.journal = world.journal ++ events
      | .ok (setup, clock, monitor) => (runner.setUp request).on world = (.ok setup,
          (Change.on (runner.prepare request.fingerprints)
            { world.noted events with clock := clock, monitor := some monitor }).2) := by
  unfold setUp starting
  rw [if_neg (by simpa using hsome)]
  simp only
  rw [Act.on_bind_of_ok (Act.on_get world), Act.on_bind, Act.on_ofExcept]
  cases milliseconds world.moment with
  | error fault => exact ⟨[], by simp, world, rfl, (List.append_nil _).symm⟩
  | ok millis =>
      simp only
      rw [Act.on_bind, Act.on_ofExcept]
      cases world.disk.normalizeAll request.files with
      | error fault => exact ⟨[], by simp, world, rfl, (List.append_nil _).symm⟩
      | ok files =>
          simp only
          rw [Act.on_bind_of_ok (World.on_remark _ _), Act.on_bind_of_ok (Act.on_onClock _ _),
            Act.on_bind_of_ok (Act.on_onClock _ _), Act.on_bind, Act.on_ofExcept]
          refine ⟨[.debug s!"run {correlationId millis world.random}: files={files.length} engines={runner.engines.length} timeout={Quantity.twoPlaces (request.timeout.getD runner.config.execution.timeout)}s"],
            fun event hin => ?_, ?_⟩
          · rw [List.mem_singleton.mp hin]
            trivial
          · cases Monitor.make runner.config.resources with
            | error fault => exact ⟨_, rfl, rfl⟩
            | ok monitor => rfl

/-- The tokens of a run are new, and its monitor is as configured. -/
theorem starting_ok {config : Config τ} {request : Request τ} {world : World τ σ} {setup : Setup τ} {clock : Clockwork τ}
    {monitor : Monitor τ} (h : starting config request world = .ok (setup, clock, monitor)) :
    setup.runToken = world.clock.forest.tokens.length ∧ setup.phaseToken = world.clock.forest.tokens.length + 1 ∧
      clock.forest.tokens.length = world.clock.forest.tokens.length + 2 ∧ Monitor.make config.resources = .ok monitor := by
  unfold starting at h
  cases hmillis : milliseconds world.moment with
  | error fault =>
      rw [hmillis] at h
      cases h
  | ok millis =>
      cases hfiles : world.disk.normalizeAll request.files with
      | error fault =>
          rw [hmillis, hfiles] at h
          cases h
      | ok files =>
          cases hmonitor : Monitor.make config.resources with
          | error fault =>
              rw [hmillis, hfiles, hmonitor] at h
              cases h
          | ok known =>
              rw [hmillis, hfiles, hmonitor] at h
              obtain ⟨hsetup, hrest⟩ := Prod.mk.inj (Except.ok.inj h)
              obtain ⟨hclock, hsame⟩ := Prod.mk.inj hrest
              rw [← hsetup, ← hclock, ← hsame]
              have hrun : ∀ (clock : Clockwork τ) budget outer, (clock.runToken budget outer).1 = clock.forest.tokens.length ∧
                  (clock.runToken budget outer).2.forest.tokens.length = clock.forest.tokens.length + 1 :=
                fun clock budget outer => ⟨clock.fst_armed .., clock.length_armed ..⟩
              have hphase : ∀ (clock : Clockwork τ) token reserve, (clock.phaseToken token reserve).1 = clock.forest.tokens.length ∧
                  (clock.phaseToken token reserve).2.forest.tokens.length = clock.forest.tokens.length + 1 :=
                fun clock token reserve => ⟨clock.fst_armed .., clock.length_armed ..⟩
              refine ⟨(hrun ..).1, ?_, ?_, rfl⟩
              · rw [(hphase ..).1, (hrun ..).2]
              · rw [(hphase ..).2, (hrun ..).2]

omit [Quantity τ] in
/-- Engines are prepared one after the other. -/
theorem on_prepare_cons (runner : Runner τ σ) (fingerprints : Keyed String) (engine : Engine τ σ) (rest : List (Engine τ σ))
    (world : World τ σ) :
    Change.on (prepare { runner with engines := engine :: rest } fingerprints) world =
      Change.on (prepare { runner with engines := rest } fingerprints)
        (Change.on (engine.prepare ((fingerprints.get? engine.name).getD ""))
          (world.noted [.prepared engine.name ((fingerprints.get? engine.name).getD "")])).2 := by
  unfold prepare
  rw [List.forM_eq_forM, List.forM_cons]
  rfl

namespace Joined

/-- Engines are prepared alike; the broken one changes nothing. -/
theorem prepare (h : runner.Joined joined odd) (hbeside : world.Beside aspect asked there)
    (fingerprints : Keyed String) :
    (Change.on (runner.prepare fingerprints) world).2.Beside aspect asked (Change.on (joined.prepare fingerprints) there).2 := by
  have hall : ∀ engines : List (Engine τ σ), (∀ engine ∈ engines, engine ∈ joined.engines) → ∀ world there : World τ σ,
      world.Beside aspect asked there →
      (Change.on (Runner.prepare { runner with engines := engines.filter (·.name != odd.name) } fingerprints) world).2.Beside
        aspect asked (Change.on (Runner.prepare { joined with engines := engines } fingerprints) there).2 := by
    intro engines hengines
    induction engines with
    | nil => exact fun world there hbeside => hbeside
    | cons engine rest ih =>
        intro world there hbeside
        have hrest := ih fun other hin => hengines other (List.mem_cons_of_mem _ hin)
        have hplain : ∀ event ∈ [Event.prepared (τ := τ) engine.name ((fingerprints.get? engine.name).getD "")], event.Plain := by
          intro event hin
          rw [List.mem_singleton.mp hin]
          trivial
        rw [on_prepare_cons]
        by_cases hodd : engine.name = odd.name
        · rw [List.filter_cons_of_neg (by simp [hodd])]
          refine hrest _ _ ?_
          rw [h.eq_odd (hengines engine List.mem_cons_self) hodd] at hplain ⊢
          rw [h.broken.prepares]
          exact hbeside.drifted (.refl world) (.noted there hplain)
        · rw [List.filter_cons_of_pos (by simpa using hodd), on_prepare_cons]
          have hunaware := h.unaware engine (h.mem_of_ne (hengines engine List.mem_cons_self) hodd)
          have hnoted := hbeside.drifted (.noted world hplain) (.noted there hplain)
          exact hrest _ _ (hnoted.quiet ((hunaware.prepares _ _).quiet _) ((hunaware.prepares _ _).quiet _)
            (hunaware.prepared _ _ _ hnoted.same))
  have hjoined := hall joined.engines (fun engine hin => hin) world there hbeside
  rw [h.filter] at hjoined
  exact hjoined

/-- What two runs from one world are compared by. -/
def aspectOf (odd : Engine τ σ) (level : Level) (world : World τ σ) (setup : Setup τ) : Aspect where
  name := odd.name
  base := world.clock.forest.tokens.length
  past := world.journal.length
  level := level
  tokens := [(setup.runToken, setup.runToken), (setup.phaseToken, setup.phaseToken)]

omit [Quantity τ] in
/-- There are no calls before the engines are prepared. -/
theorem callsSince_start {after : World τ σ} {events : List (Event τ)} (h : ∀ event ∈ events, event.Plain)
    (hjournal : after.journal = world.journal ++ events) : after.callsSince world.journal.length = [] := by
  unfold World.callsSince
  rw [hjournal, List.drop_left]
  exact callsIn_plain h

/-- Two runs start in worlds that are beside each other. -/
theorem starting_beside (odd : Engine τ σ) {config : Config τ} {request : Request τ} {setup : Setup τ} {clock : Clockwork τ}
    {monitor : Monitor τ} (h : starting config request world = .ok (setup, clock, monitor))
    (hpressed : monitor.Pressed level world.memory world.readings) {events events' : List (Event τ)}
    (hevents : ∀ event ∈ events, event.Plain) (hevents' : ∀ event ∈ events', event.Plain) :
    World.Beside (aspectOf odd level world setup) false
      { world.noted events with clock := clock, monitor := some monitor }
      { world.noted events' with clock := clock, monitor := some monitor } := by
  obtain ⟨hrun, hphase, hlength, hmonitor⟩ := starting_ok h
  have hlatest : monitor.latest = none := by
    unfold Monitor.make at hmonitor
    split at hmonitor
    · cases hmonitor
    · cases hmonitor
      rfl
  have hbegin : ∀ events, World.Pressed level { world.noted events with clock := clock, monitor := some monitor } :=
    fun events => ⟨monitor, rfl, hpressed, by simp [hlatest]⟩
  have hpast : ∀ events, world.journal.length ≤ (world.noted events).journal.length := fun events => by simp
  have hnone : ∀ {events : List (Event τ)}, (∀ event ∈ events, event.Plain) → World.callsSince world.journal.length
      { world.noted events with clock := clock, monitor := some monitor } = [] :=
    fun hplain => callsSince_start hplain rfl
  refine ⟨⟨rfl, rfl, rfl, rfl, rfl, rfl⟩, hbegin events, hbegin events', rfl, fun pair hin => ?_, hpast events, hpast events', ?_,
    ?_⟩
  · have htoken : ∀ token, world.clock.forest.tokens.length ≤ token → token < clock.forest.tokens.length →
        world.clock.forest.tokens.length ≤ token ∧ world.clock.forest.tokens.length ≤ token ∧ clock.Paired clock token token :=
      fun token hbase hhere => ⟨hbase, hbase, hhere, hhere, rfl⟩
    simp only [aspectOf, List.mem_cons, List.not_mem_nil, or_false] at hin
    rcases hin with rfl | rfl
    · exact htoken setup.runToken (by omega) (by omega)
    · exact htoken setup.phaseToken (by omega) (by omega)
  · show (World.callsSince world.journal.length _).filter _ = World.callsSince world.journal.length _
    rw [hnone hevents, hnone hevents']
    rfl
  · show (World.callsSince world.journal.length _).any _ = false
    rw [hnone hevents']
    rfl

/-- Both runs are set up alike, or neither is, for the same reason and before any call. -/
theorem setUp (h : runner.Joined joined odd) (request : Request τ) (world : World τ σ)
    (hpressed : ∀ monitor, Monitor.make runner.config.resources = .ok monitor →
      monitor.Pressed level world.memory world.readings) :
    (∃ fault after after', (runner.setUp request).on world = (.error fault, after) ∧
        (joined.setUp request).on world = (.error fault, after') ∧ after.callsSince world.journal.length = [] ∧
        after'.callsSince world.journal.length = []) ∨
      ∃ setup ready ready', (runner.setUp request).on world = (.ok setup, ready) ∧
        (joined.setUp request).on world = (.ok setup, ready') ∧
        ready.Beside (aspectOf odd level world setup) false ready' := by
  obtain ⟨events, hevents, hon⟩ := runner.on_setUp request world h.others
  obtain ⟨events', hevents', hon'⟩ := joined.on_setUp request world (List.ne_nil_of_mem h.mem)
  rw [h.config] at hon'
  cases hstart : starting runner.config request world with
  | error fault =>
      rw [hstart] at hon hon'
      obtain ⟨after, hfault, hjournal⟩ := hon
      obtain ⟨after', hfault', hjournal'⟩ := hon'
      exact Or.inl ⟨fault, after, after', hfault, hfault', callsSince_start hevents hjournal,
        callsSince_start hevents' hjournal'⟩
  | ok started =>
      obtain ⟨setup, clock, monitor⟩ := started
      rw [hstart] at hon hon'
      have hstarted := starting_beside odd hstart (hpressed monitor (starting_ok hstart).2.2.2) hevents hevents'
      exact Or.inr ⟨setup, _, _, hon, hon', h.prepare hstarted request.fingerprints⟩

/-- The phases go on side by side, and readings and timers end in both runs. -/
theorem work (h : runner.Joined joined odd) (hname : aspect.name = odd.name) (setup : Setup τ)
    (hphase : (setup.phaseToken, setup.phaseToken) ∈ aspect.tokens) (request : Request τ) :
    (runner.work request setup).Twin aspect false (joined.work request setup)
      fun later course known => course.Beside odd.name runner.CanFix later known := by
  have hends : ∀ world : World τ σ, world.Pressed aspect.level → world.Drifted aspect.level
      (Change.on (World.moveClock Clockwork.close) world).2 := fun world _ => .managed world .close
  have hlasting : ∀ world : World τ σ, world.clock.Lasts (Change.on (World.moveClock Clockwork.close) world).2.clock :=
    fun world => .of_later (Forest.Later.refl _)
  unfold Runner.work
  rw [h.longest]
  refine ((h.phases hname hphase setup.files request.critical setup.budget).ensuring
    (fun later world there hbeside => hbeside.stopMonitor runner.longestWait) ?_ ?_).thenAlways hends hends hlasting hlasting
  · exact (bind_stopped h.lasting aspect.base).stops.lasting
  · exact (bind_stopped h.lasting aspect.base).stops.lasting

theorem lasting_conclude {base : Nat} (h : runner.shell.Unaware) (request : Request τ) (setup : Setup τ) (course : Course τ) :
    (runner.conclude request setup course).Lasting base := by
  rw [Runner.conclude_eq]
  refine Act.Lasting.bind (.of_lasts fun world => Clockwork.Lasts.refl _) fun reason =>
    Act.Lasting.bind (.of_lasts fun world => Clockwork.Lasts.refl _) fun cancelled => ?_
  exact (lasting_wrapUp course setup.id cancelled reason).bind fun wrapped => lasting_aggregates h setup cancelled wrapped

/-- What follows the setup of runs that are not cancelled. -/
theorem setOut (h : runner.Joined joined odd) (hname : aspect.name = odd.name) (setup : Setup τ)
    (hrun : (setup.runToken, setup.runToken) ∈ aspect.tokens) (hphase : (setup.phaseToken, setup.phaseToken) ∈ aspect.tokens)
    (request : Request τ) :
    (runner.work request setup >>= runner.conclude request setup).Twin aspect false
      (joined.work request setup >>= joined.conclude request setup)
      fun later report report' => report.Beside odd.name later report' := by
  have hshell : joined.shell.Unaware := h.shell ▸ h.shellUnaware
  refine (h.work hname setup hphase request).bind (fun later course other hcourse => ?_)
    (lasting_conclude h.shellUnaware request setup) (lasting_conclude hshell request setup)
  refine (h.conclude setup hrun hphase hcourse).mono fun last report report' htogether => ?_
  obtain ⟨rfl, hreport⟩ := htogether
  exact hreport

end Joined

end Runner

/-! ### A whole run -/

/-- A failing engine does not disturb the others: where no token of either run is cancelled and the pressure is
constant, both runs report, or both fail for the same reason; the reports differ in nothing but the metrics, the
success, and that the broken engine is among the failed ones if it was called; and the other engines are called
for the same, in the same order. -/
theorem failing_undisturbed (h : runner.Joined joined odd) (request : Request τ) (world : World τ σ)
    (hpressed : ∀ monitor, Monitor.make runner.config.resources = .ok monitor →
      monitor.Pressed level world.memory world.readings)
    (hclear : ((runner.run request).on world).2.Clear world.clock.forest.tokens.length)
    (hclear' : ((joined.run request).on world).2.Clear world.clock.forest.tokens.length) :
    ∃ asked, Act.Agree (Report.Beside odd.name asked) ((runner.run request).on world).1 ((joined.run request).on world).1 ∧
      (((joined.run request).on world).2.callsSince world.journal.length).filter (·.engine != odd.name) =
        ((runner.run request).on world).2.callsSince world.journal.length ∧
      (((joined.run request).on world).2.callsSince world.journal.length).any (·.engine == odd.name) = asked := by
  unfold Runner.run at hclear hclear' ⊢
  rcases h.setUp request world hpressed with
    ⟨fault, after, after', hon, hon', hnone, hnone'⟩ | ⟨setup, ready, ready', hon, hon', hready⟩
  · rw [Act.on_bind, hon, Act.on_bind, hon', hnone, hnone']
    exact ⟨false, .error fault, rfl, rfl⟩
  · rw [Act.on_bind_of_ok hon] at hclear ⊢
    rw [Act.on_bind_of_ok hon'] at hclear' ⊢
    obtain ⟨later, hafter, hagree⟩ := h.setOut rfl setup List.mem_cons_self
      (List.mem_cons_of_mem _ List.mem_cons_self) request ready ready' hready hclear hclear'
    exact ⟨later, hagree, hafter.calls, hafter.asked⟩

/-! ### A fixer that is broken -/

/-- A linter that finds a file untidy, and puts a name on its result. -/
def critic (sign : String) : Engine Rat Unit where
  name := "lint"
  kind := .lint
  canFix := false
  precise := false
  prepare _ := pure ()
  reset := pure ()
  check _ _ := pure (.result ⟨sign, .lint, .check, true, [untidy], 0, none, 0, [], [], false⟩)
  fix _ _ := pure (.fault (Tool.cannotFix "lint"))

/-- A fixer that fails whenever it is asked. -/
def breaking : Engine Rat Unit where
  name := "odd"
  kind := .format
  canFix := true
  precise := true
  prepare _ := pure ()
  reset := pure ()
  check _ _ := pure (.fault (.value "broken"))
  fix _ _ := pure (.fault (.value "broken"))

/-- The linter alone. -/
def criticOnly (sign : String) : Runner Rat Unit := { formatThenRewrite with engines := [critic sign] }

/-- The broken fixer, and the linter after it. -/
def breakThenRead (sign : String) : Runner Rat Unit := { formatThenRewrite with engines := [breaking, critic sign] }

theorem broken_breaking : breaking.Broken where
  prepares _ _ := rfl
  calls pass files token world := by
    refine ⟨.value "broken", ?_, nofun, nofun⟩
    cases pass <;> rfl

theorem unaware_critic (sign : String) : (critic sign).Unaware :=
  .of_idle (fun _ _ => rfl) fun pass _ => by
    cases pass
    · exact ⟨_, fun _ _ => rfl⟩
    · exact ⟨_, fun _ _ => rfl⟩

/-- A linter with its own name on its results is joined by the broken fixer. -/
theorem joined_critic : (criticOnly "lint").Joined (breakThenRead "lint") breaking where
  engines := ⟨[], [critic "lint"], rfl, rfl⟩
  others := List.cons_ne_nil _ _
  names := by decide
  config := rfl
  shell := rfl
  longest := rfl
  broken := broken_breaking
  unaware engine hin := by
    rw [List.mem_singleton.mp hin]
    exact unaware_critic "lint"
  signed engine hin pass files token world result h := by
    rw [List.mem_singleton.mp hin] at h
    cases pass
    · cases h
    · cases h
      exact (by decide : "lint" ≠ "odd")
  shellUnaware := .of_idle fun _ => ⟨_, fun _ => rfl⟩
  schedule jobs _ _ hnames _ := by
    have hfewer : ((jobs.filter (·.engine.name != breaking.name)).map (·.engine.name)).Nodup :=
      hnames.sublist (List.filter_sublist.map _)
    exact (congrArg (List.filter _) (Schedule.inTurn_inOrder hnames)).trans (Schedule.inTurn_inOrder hfewer).symm

/-- Memory that is not looked at is never scarce. -/
theorem pressed_unlimited {monitor : Monitor Rat} (h : Monitor.make Config.small.resources = .ok monitor) :
    monitor.Pressed .normal (fun _ => 0) 0 := by
  cases h
  exact .of_constant rfl (fun point hin => absurd hin List.not_mem_nil) fun _ => rfl

/-- What a run came to, and whether all of its tokens are active. -/
def summed (run : Except Fault (Report Rat) × World Rat Unit) : Option (List Issue × List String) × Bool :=
  (run.1.toOption.map fun report => (report.issues, report.failed.keys), run.2.clock.forest.tokens.all Token.active)

theorem of_summed {run : Except Fault (Report Rat) × World Rat Unit} {issues : List Issue} {failed : List String}
    (h : summed run = (some (issues, failed), true)) (base : Nat) :
    ∃ report, run.1 = .ok report ∧ report.issues = issues ∧ report.failed.keys = failed ∧ run.2.Clear base := by
  obtain ⟨outcome, after⟩ := run
  obtain ⟨hreport, hactive⟩ := Prod.mk.inj h
  cases outcome with
  | error fault => cases hreport
  | ok report =>
      obtain ⟨hissues, hfailed⟩ := Prod.mk.inj (Option.some.inj hreport)
      exact ⟨report, rfl, hissues, hfailed, .of_active hactive⟩

-- What names hold, and what a disk holds, is evaluated by equations: unfolding texts is slow.
attribute [local irreducible] Path.hasNul Disk.isDirectory Disk.present

/-- The linter finds the same, with and without a fixer that fails before it is asked. -/
theorem failing_undisturbed_critic :
    ∃ report report', (((criticOnly "lint").run oneFile).on (World.still (.empty [] []) ())).1 = .ok report ∧
      (((breakThenRead "lint").run oneFile).on (World.still (.empty [] []) ())).1 = .ok report' ∧
      report.issues = [untidy] ∧ report'.issues = [untidy] ∧ report.failed = report'.failed.erase "odd" ∧
      report'.failed.holds "odd" = true := by
  have hrun : summed (((criticOnly "lint").run oneFile).on (World.still (.empty [] []) ())) =
      (some ([untidy], []), true) := by
    cbv
  have hrun' : summed (((breakThenRead "lint").run oneFile).on (World.still (.empty [] []) ())) =
      (some ([untidy], ["odd"]), true) := by
    cbv
  obtain ⟨report, hok, hissues, -, hclear⟩ := of_summed hrun 1
  obtain ⟨report', hok', -, hfailed, hclear'⟩ := of_summed hrun' 1
  obtain ⟨asked, hagree, -, -⟩ := failing_undisturbed joined_critic oneFile (World.still (.empty [] []) ())
    (fun _ => pressed_unlimited) hclear hclear'
  rw [hok, hok'] at hagree
  cases hagree with
  | ok hbeside =>
      have hsame : report.issues = report'.issues := by rw [hbeside.rest]
      have herased : report.failed = report'.failed.erase "odd" := by rw [hbeside.rest]; rfl
      refine ⟨report, report', hok, hok', hissues, hsame ▸ hissues, herased, (Keyed.holds_iff _ _).mpr ?_⟩
      rw [hfailed]
      exact List.mem_singleton.mpr rfl

/-- An engine that puts the name of the broken one on its results loses them: they count as results of an engine
that failed.  The broken one changes nothing and only fails, no token is cancelled in either run, and the memory is
in constant use. -/
theorem misnamed_disturbed :
    ∃ report report', (((criticOnly "odd").run oneFile).on (World.still (.empty [] []) ())).1 = .ok report ∧
      (((breakThenRead "odd").run oneFile).on (World.still (.empty [] []) ())).1 = .ok report' ∧
      (breakThenRead "odd").engines = breaking :: (criticOnly "odd").engines ∧ breaking.Broken ∧
      (((criticOnly "odd").run oneFile).on (World.still (.empty [] []) ())).2.Clear 0 ∧
      (((breakThenRead "odd").run oneFile).on (World.still (.empty [] []) ())).2.Clear 0 ∧
      report.issues = [untidy] ∧ report'.issues = [] := by
  have hrun : summed (((criticOnly "odd").run oneFile).on (World.still (.empty [] []) ())) =
      (some ([untidy], []), true) := by
    cbv
  have hrun' : summed (((breakThenRead "odd").run oneFile).on (World.still (.empty [] []) ())) =
      (some ([], ["odd"]), true) := by
    cbv
  obtain ⟨report, hok, hissues, -, hclear⟩ := of_summed hrun 0
  obtain ⟨report', hok', hissues', -, hclear'⟩ := of_summed hrun' 0
  exact ⟨report, report', hok, hok', rfl, broken_breaking, hclear, hclear', hissues, hissues'⟩

end FixFirst
