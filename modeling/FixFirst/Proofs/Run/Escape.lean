import FixFirst.Proofs.Names
import FixFirst.Proofs.Run.History

/-!
# What a run can fail with

Whatever its engines do, a run comes to a report, unless a command of the version control system could
not be run at all for another reason than that its program is missing.  Then the fault of that
command is the fault of the run.  Besides that, a run needs settings that it can be made with: an
engine, a window of readings that can be kept, readings that can be classified, and waits that the
system grants.

## Main definitions

* `Shell.Breaks` — a command of the version control system that could not be run.
* `Shell.Answered` — commands one after the other that completed, or whose program was missing.
* `Runner.Unfit` — the faults of settings that runs fail with, and the worlds that they leave.
* `Runner.Settles` — what a report says of the files that were handed over to be staged.
* `Engine.Orderly` — an engine that leaves names legible, and the monitor alone.

## Main statements

* `Runner.conclude_breaks` — how the end of a run can fail.
* `Runner.Unfit.of_exact` — which of these faults there are where all numbers have exact values.
* `Staging.warned_of` — every command that did not complete is a warning about its files.
* `run_escapes` — what every run comes to.
-/

namespace FixFirst

open Act

variable {τ σ : Type}

/-! ### Commands that cannot be run -/

/-- The journal when a command of the version control system is given. -/
def World.givingGit (world : World τ σ) (root : Path) (arguments : List String) : World τ σ :=
  world.noted [.command ("git" :: arguments) (some root.text)]

/-- Whether the last thing that happened is that a command of the version control system could not be run, and that its
program is missing is not the reason. -/
def Shell.Breaks (shell : Shell τ σ) (fault : Fault) (after : World τ σ) : Prop :=
  ∃ arguments root before, (shell ⟨"git" :: arguments, some root⟩ none).on (World.givingGit before root arguments) =
    (.error fault, after) ∧ ∀ tool detail, fault ≠ .toolMissing tool detail

/-- Whether commands of the version control system, one after the other, completed with answers.  The answer of a
program that is missing is a status other than zero, and the message of the fault. -/
inductive Shell.Answered (shell : Shell τ σ) (root : Path) :
    World τ σ → List (List String) → List Completed → World τ σ → Prop
  | nil {world : World τ σ} : Answered shell root world [] [] world
  | completed {world middle after : World τ σ} {command : List String} {commands : List (List String)}
      {answer : Completed} {answers : List Completed}
      (runs : (shell ⟨"git" :: command, some root⟩ none).on (world.givingGit root command) = (.ok answer, middle))
      (rest : Answered shell root middle commands answers after) :
      Answered shell root world (command :: commands) (answer :: answers) after
  | missing {world middle after : World τ σ} {command : List String} {commands : List (List String)} {tool : String}
      {detail : Option String} {answers : List Completed}
      (runs : (shell ⟨"git" :: command, some root⟩ none).on (world.givingGit root command) =
        (.error (.toolMissing tool detail), middle))
      (rest : Answered shell root middle commands answers after) :
      Answered shell root world (command :: commands) (⟨127, "", (Fault.toolMissing tool detail).message⟩ :: answers) after

/-- What a command of the version control system comes to. -/
theorem git_cases (shell : Shell τ σ) (root : Path) (arguments : List String) (world : World τ σ) :
    (∃ answer after, (git shell root arguments).on world = (.ok answer, after) ∧
      ((shell ⟨"git" :: arguments, some root⟩ none).on (world.givingGit root arguments) = (.ok answer, after) ∨
        ∃ tool detail, answer = ⟨127, "", (Fault.toolMissing tool detail).message⟩ ∧
          (shell ⟨"git" :: arguments, some root⟩ none).on (world.givingGit root arguments) =
            (.error (.toolMissing tool detail), after))) ∨
      ∃ fault after, (git shell root arguments).on world = (.error fault, after) ∧ shell.Breaks fault after := by
  have hrun : (shell.run ⟨"git" :: arguments, some root⟩ none).on world =
      (shell ⟨"git" :: arguments, some root⟩ none).on (world.givingGit root arguments) := rfl
  rcases hgiven : (shell ⟨"git" :: arguments, some root⟩ none).on (world.givingGit root arguments) with ⟨outcome, after⟩
  have hattempt : (shell.run ⟨"git" :: arguments, some root⟩ none).attempt.on world = (.ok outcome, after) := by
    rw [on_attempt, hrun, hgiven]
  unfold git
  rw [on_bind_of_ok hattempt]
  cases outcome with
  | ok completed => exact Or.inl ⟨completed, after, rfl, Or.inl rfl⟩
  | error fault =>
      by_cases hmissing : ∃ tool detail, fault = .toolMissing tool detail
      · obtain ⟨tool, detail, rfl⟩ := hmissing
        exact Or.inl ⟨_, after, rfl, Or.inr ⟨tool, detail, rfl, rfl⟩⟩
      · refine Or.inr ⟨fault, after, ?_, arguments, root, world, hgiven, fun tool detail heq => hmissing ⟨tool, detail, heq⟩⟩
        cases fault <;> first | rfl | exact absurd ⟨_, _, rfl⟩ hmissing

theorem git_breaks {shell : Shell τ σ} {root : Path} {arguments : List String} {fault : Fault} {world after : World τ σ}
    (h : (git shell root arguments).on world = (.error fault, after)) : shell.Breaks fault after := by
  rcases git_cases shell root arguments world with ⟨answer, last, hok, -⟩ | ⟨cause, last, herror, hbreaks⟩
  · cases h.symm.trans hok
  · cases h.symm.trans herror
    exact hbreaks

theorem gitEach_answered {shell : Shell τ σ} {root : Path} {commands : List (List String)} {answers : List Completed}
    {world after : World τ σ} (h : (gitEach shell root commands).on world = (.ok answers, after)) :
    shell.Answered root world commands answers after := by
  induction commands generalizing world answers with
  | nil =>
      cases h
      exact .nil
  | cons command rest ih =>
      rw [gitEach_cons] at h
      obtain ⟨answer, middle, hfirst, h⟩ := on_bind_ok.mp h
      obtain ⟨others, last, hrest, h⟩ := on_bind_ok.mp h
      cases h
      rcases git_cases shell root command world with ⟨known, seen, hok, hgiven⟩ | ⟨cause, seen, herror, -⟩
      · cases hfirst.symm.trans hok
        rcases hgiven with hcompleted | ⟨tool, detail, rfl, hmissing⟩
        · exact .completed hcompleted (ih hrest)
        · exact .missing hmissing (ih hrest)
      · cases hfirst.symm.trans herror

theorem stageEach_breaks {shell : Shell τ σ} {root : Path} {files : List String} {fault : Fault} {world after : World τ σ}
    (h : (stageEach shell root files).on world = (.error fault, after)) : shell.Breaks fault after := by
  induction files generalizing world with
  | nil => cases h
  | cons file rest ih =>
      unfold stageEach at h
      rcases on_bind_error h with h | ⟨answer, middle, -, h⟩
      · exact git_breaks h
      · rcases on_bind_error h with h | ⟨others, last, -, h⟩
        · exact ih h
        · cases h

/-! ### Warnings -/

/-- A question that was not answered by success is a warning about every file, and so is each command about a file. -/
theorem Staging.warned_of (inside : Completed) (targets : List String) (answers : List Completed) :
    (inside.status ≠ 0 → ∀ file ∈ targets, ⟨file, inside.complaint⟩ ∈ (Staging.of inside targets answers).warnings) ∧
      (inside.inWorkTree = true → ∀ file answer, (file, answer) ∈ targets.zip answers → answer.status ≠ 0 →
        ⟨file, answer.complaint⟩ ∈ (Staging.of inside targets answers).warnings) := by
  unfold Staging.of
  constructor
  · intro hfailed file hfile
    have houtside : inside.inWorkTree = false := by
      unfold Completed.inWorkTree
      simp [hfailed]
    rw [houtside, if_neg Bool.false_ne_true, if_neg hfailed]
    exact List.mem_map.mpr ⟨file, hfile, rfl⟩
  · intro hinside file answer hpair hfailed
    rw [if_pos hinside]
    refine List.mem_map.mpr ⟨(file, answer), List.mem_filter.mpr ⟨hpair, ?_⟩, rfl⟩
    simpa using hfailed

/-! ### The end of a run -/

namespace Runner

variable [Quantity τ] {limits : Limits τ σ} {runner : Runner τ σ} {request : Request τ}

/-- Staging fails when a command breaks; within limits, names do not fail. -/
theorem stage_breaks (h : limits.Bind runner) {root : Path} {files : List String} (hfiles : ∀ file ∈ files, limits.path file)
    {fault : Fault} {world after : World τ σ} (hworld : limits.world world)
    (hstage : (stage runner.shell root files).on world = (.error fault, after)) :
    limits.fault fault after ∨ runner.shell.Breaks fault after := by
  unfold stage at hstage
  rw [on_bind_of_ok (on_get world)] at hstage
  rcases on_bind_error hstage with hstage | ⟨targets, middle, -, hstage⟩
  · exact Or.inl ((h.normalizeAll hworld hfiles).of_error hworld hstage)
  · split at hstage
    · cases hstage
    · rcases on_bind_error hstage with hstage | ⟨inside, seen, -, hstage⟩
      · exact Or.inr (git_breaks hstage)
      · split at hstage
        · exact Or.inr (stageEach_breaks hstage)
        · cases hstage

theorem stageFixed_breaks (h : limits.Bind runner) (hfiles : ∀ file ∈ request.files, limits.path file) {cancelled : Bool}
    {course : Course τ} (hcurrent : cancelled = false → course.tracker.current = .aggregate) {report : Report τ}
    {fault : Fault} {world after : World τ σ} (hworld : limits.world world)
    (hfixed : (runner.stageFixed request cancelled course report).on world = (.error fault, after)) :
    limits.fault fault after ∨ runner.shell.Breaks fault after := by
  unfold stageFixed at hfixed
  simp only at hfixed
  split at hfixed
  · cases hfixed
  · rw [on_bind_of_ok (on_get world)] at hfixed
    rcases on_bind_error hfixed with hfixed | ⟨scope, middle, hscope, hfixed⟩
    · exact Or.inl ((h.normalizeAll hworld hfiles).of_error hworld hfixed)
    · have hpaths := (h.normalizeAll hworld hfiles).value world scope hworld (by rw [hscope])
      rw [on_ofExcept] at hscope
      obtain ⟨-, rfl⟩ := Prod.mk.inj hscope
      split at hfixed
      · cases hfixed
      · split at hfixed
        · cases hfixed
        · rename_i hgoing
          have hnext : course.tracker.current.follows .stage = true := by
            rw [hcurrent (by simpa using hgoing)]
            rfl
          have hentering : (course.enter .stage : Act τ σ (Course τ)).Within limits _ := within_enter h hnext
          rcases on_bind_error hfixed with hfixed | ⟨entered, begun, henter, hfixed⟩
          · exact Or.inl (hentering.of_error hworld hfixed)
          · have hbegun := hentering.world world hworld
            rw [henter] at hbegun
            rcases on_bind_error hfixed with hfixed | ⟨staging, done, -, hfixed⟩
            · exact stage_breaks h (fun file hin => hpaths file (mem_of_mem_fixedFiles hin)) hbegun hfixed
            · obtain ⟨words, hwarn, -⟩ := runner.config.output.on_warnEach staging.warnings
                (fun warning => s!"could not stage {warning.file}: {warning.message}") done
              rw [on_bind_of_ok hwarn] at hfixed
              cases hfixed

/-- The end of a run fails when a command breaks. -/
theorem conclude_breaks (h : limits.Bind runner) (hfiles : ∀ file ∈ request.files, limits.path file) {setup : Setup τ}
    (hsetup : ∀ file ∈ setup.files, limits.path file) {course : Course τ} (hcheck : course.tracker.current = .check)
    {fault : Fault} {done after : World τ σ} (hdone : limits.world done)
    (hconclude : (runner.conclude request setup course).on done = (.error fault, after)) :
    limits.fault fault after ∨ runner.shell.Breaks fault after := by
  unfold conclude at hconclude
  rw [on_bind_of_ok (on_askClock _ done), on_bind_of_ok (on_askClock _ done)] at hconclude
  generalize (done.clock.isCancelled setup.runToken || done.clock.isCancelled setup.phaseToken) = cancelled at hconclude
  generalize (((done.clock.forest.reason? setup.runToken).filter fun reason => !reason.isEmpty).or
    (done.clock.forest.reason? setup.phaseToken)) = reason at hconclude
  have hwraps : (course.wrapUp setup.id cancelled reason : Act τ σ (Course τ)).Within limits _ :=
    within_wrapUp h hcheck setup.id cancelled reason
  rcases on_bind_error hconclude with hfailed | ⟨wrapped, wrapping, hwrap, hconclude⟩
  · exact Or.inl (hwraps.of_error hdone hfailed)
  have hwrapping := hwraps.world done hdone
  have hcurrent := hwraps.value done wrapped hdone (by rw [hwrap])
  rw [hwrap] at hwrapping
  rcases on_bind_error hconclude with hfailed | ⟨report, middle, hreport, hstages⟩
  · exact Or.inl ((within_report h hsetup).of_error hwrapping hfailed)
  obtain ⟨rfl, -⟩ := report_ok hreport
  rcases on_bind_error hstages with hfailed | ⟨staged, last, hstage, hends⟩
  · exact stageFixed_breaks h hfiles hcurrent hwrapping hfailed
  rcases on_bind_error hends with hfailed | ⟨tracker, ended, -, hends⟩
  · rw [on_ofExcept] at hfailed
    exact absurd (Prod.mk.inj hfailed).1 ((stageFixed_cases hstage).finishes hcurrent fault)
  · cases hends

end Runner

/-! ### A whole run -/

/-- Whether what happens to a world leaves the names on its disk without NULs, its users where they are, and the monitor
alone. -/
structure World.Orderly (before after : World τ σ) : Prop where
  legible : before.disk.Legible → after.disk.Legible
  users : ∀ user, before.disk.users.holds user = true → after.disk.users.holds user = true
  monitor : after.monitor = before.monitor

/-- Whether an engine puts no NUL into the names on the disk, removes no user, and leaves the monitor alone. -/
structure Engine.Orderly (engine : Engine τ σ) : Prop where
  prepares : ∀ fingerprint (world : World τ σ), world.Orderly (Change.on (engine.prepare fingerprint) world).2
  calls : ∀ pass files token (world : World τ σ), world.Orderly (Change.on (engine.call pass files token) world).2

/-- The faults of settings that a run cannot be made with, and the worlds that they leave. -/
inductive Runner.Unfit [Quantity τ] (runner : Runner τ σ) : Fault → World τ σ → Prop
  /-- There are no engines. -/
  | engines {after : World τ σ} (none : runner.engines = []) : Unfit runner (.config "no engines configured") after
  /-- The window of readings is too long to be kept. -/
  | window {after : World τ σ} (long : Monitor.longestWindow < runner.config.resources.window) :
      Unfit runner (.overflow "the window is too long") after
  /-- The time of day is not a number of milliseconds. -/
  | moment {fault : Fault} {after : World τ σ} (unreadable : milliseconds after.moment = .error fault) :
      Unfit runner fault after
  /-- The last reading, which the monitor of these settings has in its window, cannot be classified. -/
  | reading {fault : Fault} {after : World τ σ} {monitor : Monitor τ} (charge : after.monitor = some monitor)
      (settings : monitor.config = runner.config.resources)
      (fails : monitor.judge after.clock.now (after.memory (after.readings - 1)) = .error fault) : Unfit runner fault after
  /-- The system does not wait as long as the time of grace. -/
  | grace {after : World τ σ} (short : runner.grantsGrace = false) : Unfit runner World.refusedWait after
  /-- The system does not wait as long as the readings may take to end. -/
  | stop {after : World τ σ}
      (short : World.grants runner.longestWait (runner.config.resources.interval * Quantity.ofNat 2) = false) :
      Unfit runner World.refusedWait after

namespace Runner.Unfit

variable [Quantity τ] {runner : Runner τ σ} {fault : Fault}

/-- Only the time, the time of day and the readings matter; of the monitor, its window and its settings. -/
theorem congr {before after : World τ σ} (h : runner.Unfit fault before) (hmoment : after.moment = before.moment)
    (hnow : after.clock.now = before.clock.now) (hmemory : after.memory = before.memory)
    (hreadings : after.readings = before.readings)
    (hmonitor : ∀ monitor, before.monitor = some monitor → ∃ known, after.monitor = some known ∧
      known.config = monitor.config ∧ known.window = monitor.window) : runner.Unfit fault after := by
  cases h with
  | engines none => exact .engines none
  | window long => exact .window long
  | moment unreadable => exact .moment (hmoment ▸ unreadable)
  | @reading _ _ monitor charge settings fails =>
      obtain ⟨known, hknown, hconfig, hwindow⟩ := hmonitor monitor charge
      refine .reading hknown (hconfig.trans settings) ?_
      rw [hnow, hmemory, hreadings]
      unfold Monitor.judge at fails ⊢
      rw [hconfig, hwindow]
      exact fails
  | grace short => exact .grace short
  | stop short => exact .stop short

/-- Where all numbers have exact values, every reading can be classified, and there is a time of day. -/
theorem of_exact (hexact : ∀ x : τ, Quantity.isFinite x = true) {after : World τ σ} (h : runner.Unfit fault after) :
    runner.engines = [] ∨ Monitor.longestWindow < runner.config.resources.window ∨ runner.grantsGrace = false ∨
      World.grants runner.longestWait (runner.config.resources.interval * Quantity.ofNat 2) = false := by
  have hcovers : Confined.Covers τ fun _ => False := fun x hinfinite => by
    rw [hexact x] at hinfinite
    cases hinfinite
  cases h with
  | engines none => exact Or.inl none
  | window long => exact Or.inr (Or.inl long)
  | moment unreadable => exact (Confined.milliseconds hcovers _ _ unreadable).elim
  | reading charge settings fails => exact (Confined.judge hcovers _ _ _ _ fails).elim
  | grace short => exact Or.inr (Or.inr (Or.inl short))
  | stop short => exact Or.inr (Or.inr (Or.inr short))

end Runner.Unfit

/-- What a report says of the files that were handed over to be staged: what the answers to the commands about them come
to, and a warning for each command that did not complete with success. -/
def Runner.Settles (runner : Runner τ σ) (request : Request τ) (disk : Disk) (handed : List String) (report : Report τ) :
    Prop :=
  handed ≠ [] → ∃ targets inside answers begun finished, begun.disk.normalizeAll handed = .ok targets ∧
    runner.shell.Answered (request.root.getD (Path.rooted disk.cwd)) begun (stagingCommands inside targets)
      (inside :: answers) finished ∧
    Staging.mk report.staged report.stagingWarnings = .of inside targets answers ∧
    (inside.status ≠ 0 → ∀ file ∈ targets, ⟨file, inside.complaint⟩ ∈ report.stagingWarnings) ∧
    (inside.inWorkTree = true → answers.length = targets.length ∧
      ∀ file answer, (file, answer) ∈ targets.zip answers → answer.status ≠ 0 →
        ⟨file, answer.complaint⟩ ∈ report.stagingWarnings)

theorem Report.Tells.settles {runner : Runner τ σ} {request : Request τ} {disk : Disk} {handed : List String}
    {report : Report τ} (h : report.Tells runner.shell (request.root.getD (Path.rooted disk.cwd)) handed) :
    runner.Settles request disk handed report := by
  intro hsome
  obtain ⟨begun, finished, hstage⟩ := h hsome
  obtain ⟨targets, inside, answers, hnormal, -, hgiven, hlength, hstaging⟩ := stage_answered hstage hsome
  obtain ⟨hfirst, heach⟩ := Staging.warned_of inside targets answers
  rw [← hstaging] at hfirst heach
  exact ⟨targets, inside, answers, begun, finished, hnormal, gitEach_answered hgiven, hstaging, hfirst,
    fun hinside => ⟨hlength hinside, heach hinside⟩⟩

variable [Quantity τ]

/-- Limits within which no fault comes from engines or names, for the users that there were at first. -/
def Runner.confines (runner : Runner τ σ) (users : Keyed (List String)) : Limits τ σ where
  world world := world.disk.Legible ∧ (∀ user, users.holds user = true → world.disk.users.holds user = true) ∧
    ∀ monitor ∈ world.monitor, monitor.config = runner.config.resources
  path := Nameable users
  fault := runner.Unfit

omit [Quantity τ] in
/-- A path that can be named can be named where there are more users. -/
theorem Nameable.mono {users others : Keyed (List String)} {text : String} (h : Nameable users text)
    (hmore : ∀ user, users.holds user = true → others.holds user = true) : Nameable others text :=
  ⟨h.legible, fun hrelative name hname htilde => (h.known hrelative name hname htilde).imp_right (hmore _)⟩

namespace Runner

variable {runner : Runner τ σ} {users : Keyed (List String)}

/-- Readings leave a world within the limits. -/
theorem confines_sampled {before after : World τ σ} (h : before.Sampled after) (hworld : (runner.confines users).world before) :
    (runner.confines users).world after := by
  obtain ⟨hlegible, husers, hmonitor⟩ := hworld
  obtain ⟨monitor, readings, hconfig, rfl⟩ := h
  refine ⟨hlegible, husers, fun known hknown => ?_⟩
  rw [Option.mem_def] at hknown
  have hmapped : before.monitor.map Monitor.config = some known.config := by
    rw [← hconfig, show monitor = some known from hknown, Option.map_some]
  obtain ⟨first, hfirst, hsame⟩ := Option.map_eq_some_iff.mp hmapped
  rw [← hsame]
  exact hmonitor first hfirst

theorem confines_orderly {before after : World τ σ} (h : before.Orderly after)
    (hworld : (runner.confines users).world before) : (runner.confines users).world after := by
  obtain ⟨hlegible, husers, hmonitor⟩ := hworld
  refine ⟨h.legible hlegible, fun user hheld => h.users user (husers user hheld), ?_⟩
  rw [h.monitor]
  exact hmonitor

theorem bind_confines (h : ∀ engine ∈ runner.engines, engine.Orderly) (users : Keyed (List String)) :
    (runner.confines users).Bind runner where
  noted _ _ hworld := hworld
  sampled _ _ hsampled hworld := confines_sampled hsampled hworld
  clocked _ _ _ hworld := hworld
  prepares engine hin fingerprint world hworld := confines_orderly ((h engine hin).prepares fingerprint world) hworld
  calls engine hin pass files token world hworld := confines_orderly ((h engine hin).calls pass files token world) hworld
  paths world text hworld htext := by
    obtain ⟨hlegible, husers, -⟩ := hworld
    obtain ⟨file, hnormal, hfile⟩ := Disk.normalize_nameable hlegible (htext.mono husers)
    rw [hnormal]
    exact ⟨fun other heq => Except.ok.inj heq ▸ hfile, .ok file⟩
  samples := by
    refine ⟨fun world hworld => confines_sampled (World.sampled_sample world) hworld, fun _ _ _ _ => trivial,
      fun world fault hworld herror => ?_⟩
    obtain ⟨monitor, hmonitor, hfails, hafter⟩ := World.sample_error herror
    rw [hafter]
    exact .reading rfl (hworld.2.2 monitor hmonitor) hfails
  stops := by
    refine ⟨fun world hworld => confines_sampled (World.sampled_stopMonitor _ world) hworld, fun _ _ _ _ => trivial,
      fun world fault hworld herror => ?_⟩
    obtain ⟨rfl, monitor, hmonitor, hshort⟩ := World.stopMonitor_error herror
    rw [hworld.2.2 monitor hmonitor] at hshort
    exact .stop hshort
  grace hshort _ _ := .grace hshort
  faultClocked fault world clock hmanaged hfault :=
    hfault.congr rfl hmanaged.now rfl rfl fun monitor hmonitor => ⟨monitor, hmonitor, rfl, rfl⟩
  faultStopped fault world _ hfault := by
    rcases World.stopMonitor_world runner.longestWait world with hsame | hidle
    · rwa [hsame]
    · rw [hidle]
      refine hfault.congr rfl rfl rfl rfl fun monitor hmonitor => ⟨{ monitor with running := false }, ?_, rfl, rfl⟩
      change world.monitor.map _ = _
      rw [hmonitor, Option.map_some]

/-- A run that is set up is within the limits, with its files. -/
theorem confines_setUp (h : ∀ engine ∈ runner.engines, engine.Orderly) {request : Request τ} {world ready : World τ σ}
    (hworld : world.disk.Legible) (hfiles : ∀ file ∈ request.files, Nameable world.disk.users file) {setup : Setup τ}
    (hsetup : (runner.setUp request).on world = (.ok setup, ready)) :
    (runner.confines world.disk.users).world ready ∧ ∀ file ∈ setup.files, Nameable world.disk.users file := by
  obtain ⟨hnormal, -, start, message, monitor, rfl, hdisk, -, -, hcharge, hmade⟩ := setUp_steps hsetup
  have hsettings : monitor.config = runner.config.resources := by
    unfold Monitor.make at hmade
    split at hmade
    · cases hmade
    · exact (Except.ok.inj hmade) ▸ rfl
  have hstart : (runner.confines world.disk.users).world start := by
    refine ⟨hdisk ▸ hworld, fun user hheld => hdisk ▸ hheld, fun known hknown => ?_⟩
    rw [hcharge] at hknown
    rw [← Option.some.inj hknown]
    exact hsettings
  refine ⟨(within_prepare (bind_confines h world.disk.users) request.fingerprints).world start hstart, fun file hin => ?_⟩
  obtain ⟨text, htext, hfile⟩ := Disk.exists_of_mem_normalizeAll hnormal hin
  obtain ⟨known, hknown, hnameable⟩ := Disk.normalize_nameable hworld (hfiles text htext)
  rw [Except.ok.inj (hfile.symm.trans hknown)]
  exact hnameable

/-- A run that cannot be set up has settings that it cannot be made with. -/
theorem unfit_setUp {request : Request τ} {world after : World τ σ} (hworld : world.disk.Legible)
    (hfiles : ∀ file ∈ request.files, Nameable world.disk.users file) {fault : Fault}
    (hsetup : (runner.setUp request).on world = (.error fault, after)) : runner.Unfit fault after := by
  rcases setUp_error hsetup with ⟨hnone, rfl⟩ | htime | hnormal | hmade
  · exact .engines hnone
  · exact .moment htime
  · obtain ⟨files, hknown⟩ := Disk.exists_normalizeAll hworld hfiles
    cases hnormal.symm.trans hknown
  · unfold Monitor.make at hmade
    split at hmade
    · rename_i hlong
      cases hmade
      exact .window hlong
    · cases hmade

end Runner

/-- **What a run comes to.**  Whatever its engines do or fail with, and whatever the version control system answers, a run
about paths that can be named comes to a report, unless a command of the version control system cannot be run for
another reason than that its program is missing; then the fault of that command is the fault of the run.  (Or the
settings are ones that runs fail with.)  The report says of all files that were handed over whether
they were staged, with a warning for each one whose command did not complete. -/
theorem run_escapes {runner : Runner τ σ} (hengines : ∀ engine ∈ runner.engines, engine.Orderly) {request : Request τ}
    {world : World τ σ} (hworld : world.disk.Legible) (hfiles : ∀ file ∈ request.files, Nameable world.disk.users file)
    (hcritical : ∀ marked ∈ request.critical, ∀ file ∈ marked, Nameable world.disk.users file) :
    (∃ report after, (runner.run request).on world = (.ok report, after) ∧
      ∃ (passage : Passage runner request world report),
        runner.Settles request passage.finished.disk
          (runner.handed request report.cancelled passage.course passage.finished.disk) report) ∨
      ∃ fault after, (runner.run request).on world = (.error fault, after) ∧
        (runner.Unfit fault after ∨ runner.shell.Breaks fault after) := by
  have hbind := Runner.bind_confines hengines world.disk.users
  rcases hrun : (runner.run request).on world with ⟨outcome, after⟩
  cases outcome with
  | ok report =>
      obtain ⟨-, hreports⟩ := phases_in_line runner request world
      obtain ⟨passage, handed, rfl, htells, -⟩ := hreports report after hrun
      exact Or.inl ⟨report, after, rfl, passage, htells.settles⟩
  | error fault =>
      refine Or.inr ⟨fault, after, rfl, ?_⟩
      rcases on_bind_error hrun with hfailed | ⟨setup, ready, hsetup, hrun⟩
      · exact Or.inl (Runner.unfit_setUp hworld hfiles hfailed)
      obtain ⟨hready, hpaths⟩ := Runner.confines_setUp hengines hworld hfiles hsetup
      have hworks := Runner.within_work hbind hpaths hcritical
      rcases on_bind_error hrun with hfailed | ⟨course, done, hwork, hconclude⟩
      · exact Or.inl (hworks.of_error hready hfailed)
      · have hdone := hworks.world ready hready
        rw [hwork] at hdone
        exact Runner.conclude_breaks hbind hfiles hpaths (Runner.work_current hwork) hdone hconclude

/-! ### Runs whose commands fail -/

theorem nameable_twoFiles {users : Keyed (List String)} : ∀ file ∈ twoFiles.files, Nameable users file := by
  intro file hin
  rcases List.mem_cons.mp hin with rfl | hrest
  · exact nameable_absolute (by unfold Legible; decide) (by decide)
  · rw [List.mem_singleton.mp hrest]
    exact nameable_absolute (by unfold Legible; decide) (by decide)

omit [Quantity τ] in
theorem World.Orderly.refl (world : World τ σ) : world.Orderly world := ⟨id, fun _ => id, rfl⟩

theorem orderly_fixerOf (modified : List String) : (fixerOf modified).Orderly :=
  ⟨fun _ world => .refl world, fun pass _ _ world => by cases pass <;> exact .refl world⟩

-- What names hold, and what a disk holds, is evaluated by equations: unfolding texts is slow.
attribute [local irreducible] Path.hasNul Disk.isDirectory Disk.present

/-- A command that fails is a warning, and the run comes to a report. -/
theorem run_escapes_unwilling :
    ∃ report after, ((fixAndStage ["/a", "/b"]).run twoFiles).on (World.still (.empty [] []) ()) = (.ok report, after) ∧
      report.staged = ["/a"] ∧ report.stagingWarnings.map (·.file) = ["/b"] ∧
      ∃ disk handed, (fixAndStage ["/a", "/b"]).Settles twoFiles disk handed report := by
  have hevaluated : (((fixAndStage ["/a", "/b"]).run twoFiles).on (World.still (.empty [] []) ())).1.toOption.map
      (fun report => (report.staged, report.stagingWarnings.map (·.file))) = some (["/a"], ["/b"]) := by
    cbv
  have hengines : ∀ engine ∈ (fixAndStage ["/a", "/b"]).engines, engine.Orderly := by
    intro engine hin
    rw [List.mem_singleton.mp hin]
    exact orderly_fixerOf ["/a", "/b"]
  have hcritical : ∀ marked ∈ twoFiles.critical, ∀ file ∈ marked, Nameable [] file := by
    intro marked hin
    cases hin
  have hdisk : (World.still (.empty [] []) () : World Rat Unit).disk.Legible :=
    Disk.legible_empty (List.forall_mem_nil _) (List.forall_mem_nil _)
  rcases run_escapes hengines hdisk nameable_twoFiles hcritical with
    ⟨report, after, hrun, passage, hsettles⟩ | ⟨fault, after, hrun, -⟩
  · rw [hrun] at hevaluated
    obtain ⟨hstaged, hwarned⟩ := Prod.mk.inj (Option.some.inj hevaluated)
    exact ⟨report, after, hrun, hstaged, hwarned, _, _, hsettles⟩
  · rw [hrun] at hevaluated
    cases hevaluated

/-- A shell inside a work tree in which the program that adds files cannot be started. -/
def refusing : Shell Rat Unit := fun command _ =>
  match command.arguments with
  | [_, _, _, _] => throw (.system "permission denied")
  | _ => pure ⟨0, "true", ""⟩

/-- A fixer in that shell, with staging. -/
def fixAndRefuse : Runner Rat Unit := { fixAndStage ["/a"] with shell := refusing }

/-- The fault of a command that cannot be started escapes from the run: there is no report, and no warning. -/
theorem system_fault_escapes :
    fixAndRefuse.engines ≠ [] ∧
      ∃ after, (fixAndRefuse.run twoFiles).on (World.still (.empty [] []) ()) = (.error (.system "permission denied"), after) := by
  have hevaluated : (match ((fixAndRefuse.run twoFiles).on (World.still (.empty [] []) ())).1 with
      | .ok _ => none
      | .error fault => some fault) = some (.system "permission denied") := by
    cbv
  refine ⟨List.cons_ne_nil _ _, ?_⟩
  rcases hrun : (fixAndRefuse.run twoFiles).on (World.still (.empty [] []) ()) with ⟨outcome, after⟩
  rw [hrun] at hevaluated
  cases outcome with
  | ok report => cases hevaluated
  | error fault =>
      obtain rfl := Option.some.inj hevaluated
      exact ⟨after, rfl⟩

end FixFirst
