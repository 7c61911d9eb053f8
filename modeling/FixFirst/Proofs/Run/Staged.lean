import FixFirst.Proofs.Run.Sequence

/-!
# What a run stages

The commands of the version control system come after the last call of an engine.  They are given only
if fixing and staging are wanted, the run was not cancelled, and a fix changed a file of the request.
Each such file has a command of its own, whose answer decides whether the file is staged.

## Main definitions

* `commandsIn` — the commands in a stretch of the journal.
* `Shell.HasGit` — what is asked of the version control system: commands complete, or it is missing.
* `gitEach`, `Staging.ofAnswers` — commands one after the other, and what their answers come to.
* `Report.qualifying` — the files that are to be staged.
* `Runner.Stages` — what a run stages, and what it says about it.

## Main statements

* `stage_ok`, `Runner.stageFixed_cases` — what staging can be.
* `staged_exactly` — what every run stages.
-/

namespace FixFirst

open Act

variable {τ σ : Type}

/-! ### Commands in the journal -/

/-- The command that an entry of the journal tells of: its words, and the directory. -/
def Event.command? : Event τ → Option (List String × Option String)
  | .command arguments directory => some (arguments, directory)
  | _ => none

/-- The commands in a stretch of the journal. -/
def commandsIn (events : List (Event τ)) : List (List String × Option String) := events.filterMap Event.command?

theorem Event.Plain.command? {event : Event τ} (h : event.Plain) : event.command? = none := by
  cases event <;> first | rfl | cases h

theorem commandsIn_append (first second : List (Event τ)) :
    commandsIn (first ++ second) = commandsIn first ++ commandsIn second :=
  List.filterMap_append

theorem commandsIn_plain {events : List (Event τ)} (h : ∀ event ∈ events, event.Plain) : commandsIn events = [] :=
  List.filterMap_eq_nil_iff.mpr fun event hin => (h event hin).command?

/-! ### Answers of the version control system -/

/-- Whether commands of the version control system complete, with any status, or fail because it is missing; the
shell leaves the journal alone. -/
structure Shell.HasGit (shell : Shell τ σ) : Prop where
  quiet : shell.Quiet
  answers : ∀ arguments directory (world : World τ σ),
    (∃ completed, ((shell ⟨"git" :: arguments, directory⟩ none).on world).1 = .ok completed) ∨
      ∃ tool detail, ((shell ⟨"git" :: arguments, directory⟩ none).on world).1 = .error (.toolMissing tool detail)

/-- A command of the version control system is an entry in the journal, and has an answer. -/
theorem git_answers {shell : Shell τ σ} (h : shell.HasGit) (root : Path) (arguments : List String) (world : World τ σ) :
    ∃ completed after, (git shell root arguments).on world = (.ok completed, after) ∧
      after.journal = world.journal ++ [.command ("git" :: arguments) (some root.text)] := by
  have hrun : (shell.run ⟨"git" :: arguments, some root⟩ none).on world =
      (shell ⟨"git" :: arguments, some root⟩ none).on (world.noted [.command ("git" :: arguments) (some root.text)]) := rfl
  have hjournal := h.quiet ⟨"git" :: arguments, some root⟩ none
    (world.noted [.command ("git" :: arguments) (some root.text)])
  have hanswers := h.answers arguments (some root) (world.noted [.command ("git" :: arguments) (some root.text)])
  unfold git
  rw [Act.on_bind_of_ok (Act.on_attempt _ world), hrun]
  rcases hon : (shell ⟨"git" :: arguments, some root⟩ none).on
    (world.noted [.command ("git" :: arguments) (some root.text)]) with ⟨outcome, after⟩
  rw [hon] at hjournal hanswers
  rcases hanswers with ⟨completed, rfl⟩ | ⟨tool, detail, rfl⟩
  · exact ⟨completed, after, rfl, hjournal⟩
  · exact ⟨_, after, rfl, hjournal⟩

/-- Gives commands to the version control system, one after the other. -/
def gitEach (shell : Shell τ σ) (root : Path) (commands : List (List String)) : Act τ σ (List Completed) :=
  commands.mapM (git shell root)

theorem gitEach_cons (shell : Shell τ σ) (root : Path) (command : List String) (rest : List (List String)) :
    gitEach shell root (command :: rest) = do
      let completed ← git shell root command
      let answers ← gitEach shell root rest
      return completed :: answers :=
  List.mapM_cons

/-- The entries of the journal for commands of the version control system. -/
def gitEntries (root : Path) (commands : List (List String)) : List (Event τ) :=
  commands.map fun command => .command ("git" :: command) (some root.text)

theorem commandsIn_gitEntries (root : Path) (commands : List (List String)) :
    commandsIn (gitEntries root commands : List (Event τ)) = commands.map fun command => ("git" :: command, some root.text) := by
  unfold commandsIn gitEntries
  rw [List.filterMap_map]
  exact congrFun List.filterMap_eq_map commands

theorem callsIn_gitEntries (root : Path) (commands : List (List String)) :
    callsIn (gitEntries root commands : List (Event τ)) = [] := by
  refine callsIn_eq_nil fun event hin => ?_
  obtain ⟨command, -, rfl⟩ := List.mem_map.mp hin
  rfl

theorem gitEach_answers {shell : Shell τ σ} (h : shell.HasGit) (root : Path) (commands : List (List String))
    (world : World τ σ) :
    ∃ answers after, (gitEach shell root commands).on world = (.ok answers, after) ∧
      answers.length = commands.length ∧ after.journal = world.journal ++ gitEntries root commands := by
  induction commands generalizing world with
  | nil => exact ⟨[], world, rfl, rfl, (List.append_nil _).symm⟩
  | cons command rest ih =>
      obtain ⟨completed, middle, hfirst, hjournal⟩ := git_answers h root command world
      obtain ⟨answers, after, hrest, hlength, hjournal'⟩ := ih middle
      refine ⟨completed :: answers, after, ?_, congrArg (· + 1) hlength, ?_⟩
      · rw [gitEach_cons, Act.on_bind_of_ok hfirst, Act.on_bind_of_ok hrest]
        rfl
      · rw [hjournal', hjournal, List.append_assoc]
        rfl

/-! ### Staging -/

/-- Whether an answer says that the root is inside a work tree. -/
def Completed.inWorkTree (completed : Completed) : Bool :=
  completed.status = 0 && Text.trimmed completed.output == "true"

/-- What staging comes to by the answers about the files: each file is staged if its own command exited with zero. -/
def Staging.ofAnswers (answers : List (String × Completed)) : Staging where
  staged := (answers.filter fun answer => answer.2.status == 0).map (·.1)
  warnings := (answers.filter fun answer => !(answer.2.status == 0)).map fun answer => ⟨answer.1, answer.2.complaint⟩

/-- The command that adds a file. -/
def addCommand (file : String) : List String := ["add", "--", file]

theorem stageEach_eq (shell : Shell τ σ) (root : Path) (files : List String) :
    stageEach shell root files = do
      let answers ← gitEach shell root (files.map addCommand)
      return .ofAnswers (files.zip answers) := by
  induction files with
  | nil => rfl
  | cons file rest ih =>
      rw [List.map_cons, gitEach_cons, stageEach, ih]
      simp only [bind_assoc, pure_bind]
      refine bind_congr fun completed => bind_congr fun answers => ?_
      by_cases hdone : completed.status = 0 <;> simp [Staging.ofAnswers, hdone]

/-- Every file is staged or warned about. -/
theorem Staging.perm_ofAnswers (answers : List (String × Completed)) :
    ((Staging.ofAnswers answers).staged ++ (Staging.ofAnswers answers).warnings.map (·.file)).Perm (answers.map (·.1)) := by
  have hperm := (List.filter_append_perm (fun answer : String × Completed => answer.2.status == 0) answers).map (·.1)
  rw [List.map_append] at hperm
  simpa [ofAnswers, Function.comp_def] using hperm

theorem Staging.mem_ofAnswers {answers : List (String × Completed)} {file : String} :
    file ∈ (Staging.ofAnswers answers).staged ↔ ∃ completed, (file, completed) ∈ answers ∧ completed.status = 0 := by
  simp [ofAnswers]

/-- What staging comes to by all answers: whether the root is inside a work tree, and then those about the files. -/
def Staging.of (inside : Completed) (targets : List String) (answers : List Completed) : Staging :=
  if inside.inWorkTree then .ofAnswers (targets.zip answers)
  else ⟨[], targets.map fun file =>
    ⟨file, if inside.status = 0 then "not inside a git work tree" else inside.complaint⟩⟩

/-- The commands that staging gives, by the answer to the first one. -/
def stagingCommands (inside : Completed) (targets : List String) : List (List String) :=
  ["rev-parse", "--is-inside-work-tree"] :: if inside.inWorkTree then targets.map addCommand else []

/-- Staging is a question, commands for the files if they are inside a work tree, and what the answers come to. -/
theorem stage_ok {shell : Shell τ σ} (h : shell.HasGit) (root : Path) {files targets : List String} {world : World τ σ}
    (hnormal : world.disk.normalizeAll files = .ok targets) (hsome : targets ≠ []) :
    ∃ inside answers last,
      (gitEach shell root (stagingCommands inside targets)).on world = (.ok (inside :: answers), last) ∧
      (inside.inWorkTree = true → answers.length = targets.length) ∧
      last.journal = world.journal ++ gitEntries root (stagingCommands inside targets) ∧
      (stage shell root files).on world = (.ok (.of inside targets answers), last) := by
  obtain ⟨inside, seen, hinside, hseen⟩ := git_answers h root ["rev-parse", "--is-inside-work-tree"] world
  have hstage : (stage shell root files).on world =
      (if inside.inWorkTree then stageEach shell root targets
        else pure ⟨[], targets.map fun file =>
          ⟨file, if inside.status = 0 then "not inside a git work tree" else inside.complaint⟩⟩).on seen := by
    unfold stage
    rw [Act.on_bind_of_ok (Act.on_get world), Act.on_bind_of_ok ((Act.on_ofExcept _ world).trans (by rw [hnormal])),
      if_neg (by simpa using hsome), Act.on_bind_of_ok hinside]
    rfl
  unfold stagingCommands Staging.of
  cases hwithin : inside.inWorkTree with
  | true =>
      obtain ⟨answers, last, hadds, hlength, hlast⟩ := gitEach_answers h root (targets.map addCommand) seen
      rw [List.length_map] at hlength
      refine ⟨inside, answers, last, ?_, fun _ => hlength, ?_, ?_⟩
      · simp only [hwithin, if_true]
        rw [gitEach_cons, Act.on_bind_of_ok hinside, Act.on_bind_of_ok hadds]
        rfl
      · simp only [hwithin, if_true]
        rw [hlast, hseen, List.append_assoc]
        rfl
      · rw [hstage, hwithin, if_pos rfl, stageEach_eq, Act.on_bind_of_ok hadds, if_pos rfl]
        rfl
  | false =>
      refine ⟨inside, [], seen, ?_, ?_, ?_, ?_⟩
      · simp only [hwithin, Bool.false_eq_true, if_false]
        rw [gitEach_cons, Act.on_bind_of_ok hinside]
        rfl
      · rw [hwithin]
        intro hfalse
        cases hfalse
      · simp only [hwithin, Bool.false_eq_true, if_false]
        exact hseen
      · rw [hstage, hwithin, if_neg Bool.false_ne_true, if_neg Bool.false_ne_true]
        rfl

/-- All files are staged or warned about. -/
theorem Staging.perm_of {inside : Completed} {targets : List String} {answers : List Completed}
    (hlength : inside.inWorkTree = true → answers.length = targets.length) :
    ((Staging.of inside targets answers).staged ++ (Staging.of inside targets answers).warnings.map (·.file)).Perm targets := by
  unfold Staging.of
  cases hwithin : inside.inWorkTree with
  | true =>
      have hperm := Staging.perm_ofAnswers (targets.zip answers)
      rwa [List.map_fst_zip (Nat.le_of_eq (hlength hwithin).symm)] at hperm
  | false => simp [Function.comp_def]

/-- A file is staged exactly when its own command exited with zero, inside a work tree. -/
theorem Staging.mem_of {inside : Completed} {targets : List String} {answers : List Completed} {file : String} :
    file ∈ (Staging.of inside targets answers).staged ↔ inside.inWorkTree = true ∧
      ∃ completed, (file, completed) ∈ targets.zip answers ∧ completed.status = 0 := by
  unfold Staging.of
  cases hwithin : inside.inWorkTree with
  | true => simp [Staging.mem_ofAnswers]
  | false => simp

theorem gitEach_length {shell : Shell τ σ} {root : Path} {commands : List (List String)} {answers : List Completed}
    {world after : World τ σ} (h : (gitEach shell root commands).on world = (.ok answers, after)) :
    answers.length = commands.length := by
  induction commands generalizing answers world with
  | nil =>
      cases h
      rfl
  | cons command rest ih =>
      rw [gitEach_cons] at h
      obtain ⟨completed, middle, -, h⟩ := Act.on_bind_ok.mp h
      obtain ⟨others, last, hrest, h⟩ := Act.on_bind_ok.mp h
      cases h
      exact congrArg (· + 1) (ih hrest)

/-- In any shell, staging that comes to an end goes by answers. -/
theorem stage_answered {shell : Shell τ σ} {root : Path} {files : List String} {staging : Staging} {world last : World τ σ}
    (h : (stage shell root files).on world = (.ok staging, last)) (hfiles : files ≠ []) :
    ∃ targets inside answers, world.disk.normalizeAll files = .ok targets ∧ targets ≠ [] ∧
      (gitEach shell root (stagingCommands inside targets)).on world = (.ok (inside :: answers), last) ∧
      (inside.inWorkTree = true → answers.length = targets.length) ∧ staging = .of inside targets answers := by
  unfold stage at h
  rw [Act.on_bind_of_ok (Act.on_get world)] at h
  obtain ⟨targets, middle, htargets, h⟩ := Act.on_bind_ok.mp h
  rw [Act.on_ofExcept] at htargets
  obtain ⟨hnormal, rfl⟩ := Prod.mk.inj htargets
  have hsome : targets ≠ [] := by
    obtain ⟨file, rest, rfl⟩ := List.exists_cons_of_ne_nil hfiles
    obtain ⟨target, htarget, -⟩ := Disk.exists_normalize hnormal List.mem_cons_self
    exact List.ne_nil_of_mem htarget
  rw [if_neg (by simpa using hsome)] at h
  obtain ⟨inside, seen, hinside, h⟩ := Act.on_bind_ok.mp h
  have hsame : (inside.status = 0 && Text.trimmed inside.output == "true") = inside.inWorkTree := rfl
  rw [hsame] at h
  unfold stagingCommands Staging.of
  cases hwithin : inside.inWorkTree with
  | true =>
      rw [hwithin, if_pos rfl, stageEach_eq] at h
      obtain ⟨answers, done, hadds, h⟩ := Act.on_bind_ok.mp h
      cases h
      refine ⟨targets, inside, answers, hnormal, hsome, ?_, fun _ => ?_, ?_⟩
      · simp only [hwithin, if_true]
        rw [gitEach_cons, Act.on_bind_of_ok hinside, Act.on_bind_of_ok hadds]
        rfl
      · rw [gitEach_length hadds, List.length_map]
      · simp only [hwithin, if_true]
  | false =>
      rw [hwithin, if_neg Bool.false_ne_true] at h
      cases h
      refine ⟨targets, inside, [], hnormal, hsome, ?_, fun hyes => ?_, ?_⟩
      · simp only [hwithin, Bool.false_eq_true, if_false]
        rw [gitEach_cons, Act.on_bind_of_ok hinside]
        rfl
      · cases hwithin.symm.trans hyes
      · simp only [hwithin, Bool.false_eq_true, if_false]

/-- Staging can fail only before it gives a command. -/
theorem stage_error {shell : Shell τ σ} (h : shell.HasGit) {root : Path} {files : List String} {fault : Fault}
    {world after : World τ σ} (hstage : (stage shell root files).on world = (.error fault, after)) : after = world := by
  cases hnormal : world.disk.normalizeAll files with
  | error cause =>
      unfold stage at hstage
      rw [Act.on_bind_of_ok (Act.on_get world), Act.on_bind, Act.on_ofExcept, hnormal] at hstage
      cases hstage
      rfl
  | ok targets =>
      by_cases hsome : targets = []
      · unfold stage at hstage
        rw [Act.on_bind_of_ok (Act.on_get world), Act.on_bind, Act.on_ofExcept, hnormal, hsome] at hstage
        cases hstage
      · obtain ⟨inside, answers, last, -, -, -, hok⟩ := stage_ok h root hnormal hsome
        cases hstage.symm.trans hok

namespace Runner

/-- What staging at the end of a run can be: unwanted, without files, left undone after cancellation, or done. -/
inductive StageCase (runner : Runner τ σ) (request : Request τ) (cancelled : Bool) (course : Course τ)
    (report : Report τ) (world : World τ σ) : Course τ → Report τ → World τ σ → Prop
  | unwanted (off : (runner.config.execution.fix && runner.config.execution.autoStage) = false) :
      StageCase runner request cancelled course report world course report world
  | nothing {scope : List String} (on : (runner.config.execution.fix && runner.config.execution.autoStage) = true)
      (inScope : world.disk.normalizeAll request.files = .ok scope) (none : course.fixedFiles scope = []) :
      StageCase runner request cancelled course report world course report world
  | left {scope : List String} (on : (runner.config.execution.fix && runner.config.execution.autoStage) = true)
      (inScope : world.disk.normalizeAll request.files = .ok scope) (some : course.fixedFiles scope ≠ [])
      (stopped : cancelled = true) :
      StageCase runner request cancelled course report world course
        { report with stagingWarnings := (course.fixedFiles scope).map fun file => ⟨file, leftUnstaged⟩ } world
  | staged {scope : List String} {entered : Course τ} {begun done : World τ σ} {staging : Staging}
      {words : List (Event τ)} (on : (runner.config.execution.fix && runner.config.execution.autoStage) = true)
      (inScope : world.disk.normalizeAll request.files = .ok scope) (some : course.fixedFiles scope ≠ [])
      (going : cancelled = false) (enters : (course.enter .stage).on world = (.ok entered, begun))
      (stages : (stage runner.shell (request.root.getD (Path.rooted world.disk.cwd)) (course.fixedFiles scope)).on begun =
        (.ok staging, done)) (spoken : ∀ event ∈ words, event.Spoken) :
      StageCase runner request cancelled course report world entered
        { report with staged := staging.staged, stagingWarnings := staging.warnings } (done.noted words)

variable {runner : Runner τ σ} {request : Request τ} {cancelled : Bool} {course : Course τ} {report : Report τ}

theorem stageFixed_cases {next : Course τ} {last : Report τ} {world after : World τ σ}
    (h : (runner.stageFixed request cancelled course report).on world = (.ok (next, last), after)) :
    runner.StageCase request cancelled course report world next last after := by
  unfold stageFixed at h
  simp only at h
  split at h
  · rename_i hoff
    cases h
    exact .unwanted (by simpa only [Bool.not_eq_true'] using hoff)
  · rename_i hon
    have hwanted : (runner.config.execution.fix && runner.config.execution.autoStage) = true := by simpa using hon
    rw [Act.on_bind_of_ok (Act.on_get world)] at h
    obtain ⟨scope, middle, hscope, h⟩ := Act.on_bind_ok.mp h
    rw [Act.on_ofExcept] at hscope
    obtain ⟨hnormal, rfl⟩ := Prod.mk.inj hscope
    split at h
    · rename_i hnone
      cases h
      exact .nothing hwanted hnormal (by simpa using hnone)
    · rename_i hsome
      have hfiles : course.fixedFiles scope ≠ [] := by simpa using hsome
      split at h
      · rename_i hcancelled
        cases h
        exact .left hwanted hnormal hfiles hcancelled
      · rename_i hgoing
        obtain ⟨entered, begun, henter, h⟩ := Act.on_bind_ok.mp h
        obtain ⟨staging, done, hstage, h⟩ := Act.on_bind_ok.mp h
        obtain ⟨words, hwarn, hspoken⟩ := runner.config.output.on_warnEach staging.warnings
          (fun warning => s!"could not stage {warning.file}: {warning.message}") done
        rw [Act.on_bind_of_ok hwarn] at h
        cases h
        exact .staged hwanted hnormal hfiles (by simpa using hgoing) henter hstage hspoken

/-- Staging at the end of a run can fail only before it gives a command. -/
theorem stageFixed_error (hgit : runner.shell.HasGit) {fault : Fault} {world after : World τ σ}
    (h : (runner.stageFixed request cancelled course report).on world = (.error fault, after)) : world.Plain after := by
  unfold stageFixed at h
  simp only at h
  split at h
  · cases h
  · rw [Act.on_bind_of_ok (Act.on_get world)] at h
    rcases on_bind_error h with h | ⟨scope, middle, hscope, h⟩
    · exact (plain_ofExcept _).of_on h
    · rw [Act.on_ofExcept] at hscope
      obtain ⟨-, rfl⟩ := Prod.mk.inj hscope
      split at h
      · cases h
      · split at h
        · cases h
        · rcases on_bind_error h with h | ⟨entered, begun, henter, h⟩
          · exact (Course.plain_enter course .stage).of_on h
          · have hbegun := (Course.plain_enter course .stage).of_on henter
            rcases on_bind_error h with h | ⟨staging, done, -, h⟩
            · rwa [stage_error hgit h]
            · obtain ⟨words, hwarn, -⟩ := runner.config.output.on_warnEach staging.warnings
                (fun warning => s!"could not stage {warning.file}: {warning.message}") done
              rw [Act.on_bind_of_ok hwarn] at h
              cases h

end Runner

/-! ### The phase of a course -/

namespace Course

/-- A course in a phase that does not end a run goes on. -/
theorem going_of_current {course : Course τ} {phase : Phase} (h : course.tracker.current = phase)
    (hphase : phase.isTerminal = false) : course.tracker.terminal = false := by
  unfold Tracker.terminal
  rw [h]
  exact hphase

/-- Entering a phase adds it to the history. -/
theorem enter_history {course next : Course τ} {phase : Phase} {world after : World τ σ}
    (hgoing : course.tracker.terminal = false) (h : (course.enter phase).on world = (.ok next, after)) :
    next = { course with tracker := ⟨phase, course.tracker.history ++ [phase]⟩ } := by
  unfold enter Tracker.advance? at h
  rw [hgoing, if_neg Bool.false_ne_true] at h
  by_cases hnext : course.tracker.current.follows phase = true
  · simp only [hnext, if_true] at h
    rw [Act.on_bind_of_ok (World.on_remark _ world), Act.on_bind_of_ok (Act.on_log _ _)] at h
    cases h
    rfl
  · simp only [hnext] at h
    cases h

theorem enter_current {course next : Course τ} {phase : Phase} {world after : World τ σ}
    (hgoing : course.tracker.terminal = false) (h : (course.enter phase).on world = (.ok next, after)) :
    next.tracker.current = phase := by
  rw [enter_history hgoing h]

/-- After checking, a run that was not cancelled goes on to aggregation. -/
theorem wrapUp_current {course next : Course τ} {id : String} {cancelled : Bool} {reason : Option String}
    {world after : World τ σ} (hcheck : course.tracker.current = .check)
    (h : (course.wrapUp id cancelled reason).on world = (.ok next, after)) (hrest : cancelled = false) :
    next.tracker.current = .aggregate := by
  subst hrest
  exact enter_current (going_of_current hcheck rfl) h

theorem takingAll_current (course : Course τ) (outcomes : List (Outcome τ)) :
    (course.takingAll outcomes).tracker.current = course.tracker.current := by
  induction outcomes generalizing course with
  | nil => rfl
  | cons outcome rest ih =>
      have hone : (course.taking outcome).tracker.current = course.tracker.current := by
        unfold taking
        split
        · split
          · rfl
          · unfold Tracker.degrade
            split <;> rfl
        · rfl
        · rfl
        · split <;> rfl
      exact (ih _).trans hone

end Course

/-- After staging, a run that was not cancelled may end. -/
theorem Runner.StageCase.finishes {runner : Runner τ σ} {request : Request τ} {cancelled : Bool} {course next : Course τ}
    {report last : Report τ} {world after : World τ σ}
    (h : runner.StageCase request cancelled course report world next last after)
    (hcurrent : cancelled = false → course.tracker.current = .aggregate) (fault : Fault) :
    next.finish cancelled ≠ .error fault := by
  have hfollows : cancelled = false → next.tracker.current.follows .done = true := by
    intro hgoing
    have haggregate := hcurrent hgoing
    cases h with
    | unwanted off => rw [haggregate]; rfl
    | nothing on normal none => rw [haggregate]; rfl
    | left on normal some stopped => rw [haggregate]; rfl
    | staged on normal some going enters stages spoken =>
        rw [Course.enter_current (Course.going_of_current haggregate rfl) enters]
        rfl
  intro herror
  unfold Course.finish Tracker.advance? at herror
  cases cancelled with
  | true => cases herror
  | false =>
      rw [hfollows rfl] at herror
      cases herror

variable [Quantity τ]

namespace Runner

variable {runner : Runner τ σ} {request : Request τ}

/-- A run that fixes has not ended. -/
theorem fixFirst_going {files : List String} {critical : Option (List String)} {token : Nat} {fixed : Course τ}
    {world after : World τ σ} (h : (runner.fixFirst files critical token).on world = (.ok fixed, after)) :
    fixed.tracker.terminal = false := by
  unfold fixFirst at h
  split at h
  · obtain ⟨entered, begun, henter, h⟩ := Act.on_bind_ok.mp h
    have hfix : entered.tracker.current = .fix := Course.enter_current rfl henter
    have hcurrent : fixed.tracker.current = .fix := by
      cases fixPhase_ok h with
      | skipped why => exact hfix
      | held going admits none => exact hfix
      | fixed going admits works spoken => exact (Course.takingAll_current _ _).trans hfix
    exact Course.going_of_current hcurrent rfl
  · cases h
    rfl

/-- A run whose phases are over is in its check phase. -/
theorem work_current {setup : Setup τ} {course : Course τ} {world done : World τ σ}
    (h : (runner.work request setup).on world = (.ok course, done)) : course.tracker.current = .check := by
  obtain ⟨finished, hphases, -⟩ := work_ok h
  obtain ⟨⟨⟩, watching, -, hphases⟩ := Act.on_bind_ok.mp hphases
  obtain ⟨fixed, rested, hfix, hphases⟩ := Act.on_bind_ok.mp hphases
  obtain ⟨entered, checking, henter, hphases⟩ := Act.on_bind_ok.mp hphases
  obtain ⟨batches, checked, -, ⟨omitted, -, rfl⟩, -⟩ := checkPhase_ok hphases
  exact (Course.takingAll_current _ _).trans (Course.enter_current (fixFirst_going hfix) henter)

theorem launch_current {setup : Setup τ} {course : Course τ} {world done : World τ σ}
    (h : (runner.launch request).on world = (.ok (setup, course), done)) : course.tracker.current = .check := by
  obtain ⟨setup', ready, -, h⟩ := Act.on_bind_ok.mp h
  obtain ⟨course', done', hwork, h⟩ := Act.on_bind_ok.mp h
  cases h
  exact work_current hwork

/-- A run that has been through its phases fails only before it gives a command. -/
theorem conclude_error (hgit : runner.shell.HasGit) {setup : Setup τ} {course : Course τ} {fault : Fault}
    {done after : World τ σ} (hcheck : course.tracker.current = .check)
    (h : (runner.conclude request setup course).on done = (.error fault, after)) : done.Plain after := by
  unfold conclude at h
  rw [Act.on_bind_of_ok (Act.on_askClock _ done), Act.on_bind_of_ok (Act.on_askClock _ done)] at h
  rcases on_bind_error h with h | ⟨wrapped, middle, hwrap, h⟩
  · exact (Course.plain_wrapUp course _ _ _).of_on h
  have hmiddle := (Course.plain_wrapUp course _ _ _).of_on hwrap
  rcases on_bind_error h with h | ⟨first, same, hreport, hstages⟩
  · obtain ⟨rfl, -⟩ := report_error h
    exact hmiddle
  obtain ⟨rfl, -⟩ := report_ok hreport
  rcases on_bind_error hstages with hfailed | ⟨⟨next, last⟩, staged, hstage, hends⟩
  · exact Trans.trans hmiddle (stageFixed_error hgit hfailed)
  have haggregate := Course.wrapUp_current hcheck hwrap
  rcases on_bind_error hends with hfailed | ⟨tracker, ended, -, hends⟩
  · rw [Act.on_ofExcept] at hfailed
    exact absurd (Prod.mk.inj hfailed).1 ((stageFixed_cases hstage).finishes haggregate fault)
  · cases hends

end Runner

/-! ### What is staged -/

/-- The files in scope that fix results of engines that did not fail report as modified, each one once, in the
order in which they are first reported. -/
def Report.qualifying (report : Report τ) (scope : List String) (outcomes : List (Outcome τ)) : List String :=
  firsts ((((outcomes.filterMap Outcome.taken?).filter fun result => !report.failed.holds result.engine).filter
    fun result => result.pass == .fix).flatMap fun result => result.modified.filter scope.contains)

/-- What becomes of files that are to be staged, by the answers of the version control system. -/
structure Staging.Adds (staging : Staging) (shell : Shell τ σ) (root : Path) (targets : List String) (inside : Completed)
    (answers : List Completed) (start last : World τ σ) (late : List (Event τ)) : Prop where
  answered : (gitEach shell root (stagingCommands inside targets)).on start = (.ok (inside :: answers), last)
  commands : commandsIn late = (stagingCommands inside targets).map fun command => ("git" :: command, some root.text)
  distinct : (staging.staged ++ staging.warnings.map (·.file)).Nodup
  complete : (staging.staged ++ staging.warnings.map (·.file)).Perm targets
  staged : ∀ file, file ∈ staging.staged ↔ inside.inWorkTree = true ∧
    ∃ completed, (file, completed) ∈ targets.zip answers ∧ completed.status = 0

/-- What a run does at its end, from `done` to `after`, and what its report says of staging, for the files that
qualify. -/
structure Runner.Stages (runner : Runner τ σ) (request : Request τ) (report : Report τ)
    (qualifying : List String → List String) (done after : World τ σ) (late : List (Event τ)) : Prop where
  off : (runner.config.execution.fix && runner.config.execution.autoStage) = false →
    report.staged = [] ∧ report.stagingWarnings = [] ∧ commandsIn late = []
  on : (runner.config.execution.fix && runner.config.execution.autoStage) = true →
    ∃ scope, done.disk.normalizeAll request.files = .ok scope ∧
      (report.cancelled = true ∨ qualifying scope = [] →
        report.staged = [] ∧ report.stagingWarnings = (qualifying scope).map (⟨·, leftUnstaged⟩) ∧
          commandsIn late = []) ∧
      (report.cancelled = false → qualifying scope ≠ [] →
        ∃ targets inside answers before last words,
          done.disk.normalizeAll (qualifying scope) = .ok targets ∧
          ((∀ file ∈ qualifying scope, done.disk.normalize file = .ok file) → targets = qualifying scope) ∧
          after = last.noted words ∧
          (Staging.mk report.staged report.stagingWarnings).Adds runner.shell
            (request.root.getD (Path.rooted done.disk.cwd)) targets inside answers (done.noted before) last late)

omit [Quantity τ] in
/-- Staging that comes to an end, with nothing but words before it and after it. -/
theorem Staging.adds_of_stage {shell : Shell τ σ} (hgit : shell.HasGit) {root : Path} {files : List String}
    (hfiles : files ≠ []) {start last : World τ σ} {staging : Staging}
    (h : (stage shell root files).on start = (.ok staging, last)) {before words : List (Event τ)}
    (hbefore : ∀ event ∈ before, event.Plain) (hwords : ∀ event ∈ words, event.Plain) :
    ∃ targets inside answers entries, start.disk.normalizeAll files = .ok targets ∧
      last.journal = start.journal ++ entries ∧ callsIn entries = [] ∧
      staging.Adds shell root targets inside answers start last (before ++ entries ++ words) := by
  cases hnormal : start.disk.normalizeAll files with
  | error fault =>
      unfold stage at h
      rw [Act.on_bind_of_ok (Act.on_get start), Act.on_bind, Act.on_ofExcept, hnormal] at h
      cases h
  | ok targets =>
      have hsome : targets ≠ [] := by
        obtain ⟨file, rest, rfl⟩ := List.exists_cons_of_ne_nil hfiles
        obtain ⟨target, htarget, -⟩ := Disk.exists_normalize hnormal List.mem_cons_self
        exact List.ne_nil_of_mem htarget
      obtain ⟨inside, answers, last', hanswered, hlength, hjournal, hok⟩ := stage_ok hgit root hnormal hsome
      obtain ⟨hstaging, rfl⟩ := Prod.mk.inj (h.symm.trans hok)
      obtain rfl := Except.ok.inj hstaging
      have hperm := Staging.perm_of hlength
      refine ⟨targets, inside, answers, _, rfl, hjournal, callsIn_gitEntries root _, hanswered, ?_,
        hperm.nodup_iff.mpr (nodup_normalizeAll hnormal), hperm, fun file => Staging.mem_of⟩
      rw [commandsIn_append, commandsIn_append, commandsIn_plain hbefore, commandsIn_plain hwords, commandsIn_gitEntries,
        List.nil_append, List.append_nil]

/-- The end of a run that comes to a report. -/
theorem Runner.conclude_stages {runner : Runner τ σ} {request : Request τ} (hgit : runner.shell.HasGit) {setup : Setup τ}
    {course : Course τ} {report : Report τ} {done after : World τ σ}
    (h : (runner.conclude request setup course).on done = (.ok report, after)) :
    ∃ late, after.journal = done.journal ++ late ∧ callsIn late = [] ∧
      runner.Stages request report course.fixedFiles done after late := by
  obtain ⟨tracker, -, events, first, next, last, final, duration, -, hsaid, hreport, hstage, -, rfl⟩ := conclude_steps rfl h
  obtain ⟨-, inScope, base, metrics, -, rfl, rfl⟩ := report_ok hreport
  have hevents : ∀ event ∈ events, event.Plain := by
    intro event hin
    rcases hsaid event hin with hspoken | rfl
    · exact hspoken.plain
    · trivial
  have hnone : commandsIn events = [] := commandsIn_plain hevents
  have hcalls : callsIn events = [] := callsIn_plain hevents
  cases stageFixed_cases hstage with
  | unwanted off =>
      refine ⟨events, rfl, hcalls, fun _ => ⟨rfl, rfl, hnone⟩, fun on => ?_⟩
      rw [off] at on
      cases on
  | @nothing scope on normal none =>
      refine ⟨events, rfl, hcalls, fun off => ?_, fun _ => ⟨scope, normal, fun _ => ⟨rfl, ?_, hnone⟩, fun _ some => ?_⟩⟩
      · rw [on] at off
        cases off
      · exact (congrArg (List.map _) none).symm
      · exact absurd none some
  | @left scope on normal some stopped =>
      refine ⟨events, rfl, hcalls, fun off => ?_, fun _ => ⟨scope, normal, fun _ => ⟨rfl, rfl, hnone⟩, fun going => ?_⟩⟩
      · rw [on] at off
        cases off
      · cases stopped.symm.trans going
  | @staged scope entered begun finished staging words on normal some going enters stages spoken =>
      obtain ⟨tracker', more, -, rfl, hmore⟩ := Course.enter_ok enters
      rw [World.noted_noted] at stages
      have hbefore : ∀ event ∈ events ++ more, event.Plain := by
        intro event hin
        rcases List.mem_append.mp hin with hfirst | hsecond
        · exact hevents event hfirst
        · rcases hmore event hsecond with hspoken | rfl
          · exact hspoken.plain
          · trivial
      have hwords : ∀ event ∈ words, event.Plain := fun event hin => (spoken event hin).plain
      obtain ⟨targets, inside, answers, entries, htargets, hjournal, hentries, hadds⟩ :=
        Staging.adds_of_stage hgit some stages hbefore hwords
      refine ⟨events ++ more ++ entries ++ words, ?_, ?_, fun off => ?_, fun _ => ⟨scope, normal, ?_, fun _ _ => ?_⟩⟩
      · rw [World.journal_noted, hjournal, World.journal_noted]
        simp only [List.append_assoc]
      · rw [callsIn_append, callsIn_append, callsIn_plain hbefore, hentries, callsIn_plain hwords, List.append_nil,
          List.append_nil]
      · rw [on] at off
        cases off
      · rintro (hcancelled | hnone)
        · cases going.symm.trans hcancelled
        · exact absurd hnone some
      · refine ⟨targets, inside, answers, events ++ more, finished, words, htargets, fun hfixed => ?_, rfl, hadds⟩
        exact Disk.normalizeAll_of_fixed htargets (nodup_firsts _) hfixed

/-- **A run stages the right files only, at the right time.**  The journal of a run ends with a part in which no
engine is called; before it, all commands are given by engines.  A run that fails gives no command in that
part.  For the other runs, `Runner.Stages` says which commands there are, and what the report says of the
files that qualify. -/
theorem staged_exactly {runner : Runner τ σ} (hnames : (runner.engines.map (·.name)).Nodup)
    (hdiscreet : ∀ engine ∈ runner.engines, engine.Discreet) (hgit : runner.shell.HasGit) (request : Request τ)
    (world : World τ σ) :
    ∃ early late, ((runner.run request).on world).2.journal = world.journal ++ early ++ late ∧
      Attended early ∧ callsIn late = [] ∧
      (∀ fault, ((runner.run request).on world).1 = .error fault → commandsIn late = []) ∧
      ∀ report, ((runner.run request).on world).1 = .ok report →
        ∃ (passage : Passage runner request world report) (round : FixRound τ) (rested done : World τ σ),
          (runner.fixRound passage.setup.files request.critical passage.setup.phaseToken).on passage.watching =
            (.ok round, rested) ∧
          (runner.launch request).on world = (.ok (passage.setup, passage.course), done) ∧
          done.journal = world.journal ++ early ∧
          runner.Stages request report
            (fun scope => report.qualifying scope (round.outcomes ++ passage.batches.results.flatten)) done
            ((runner.run request).on world).2 late := by
  have hlaunched : ∃ early, ((runner.launch request).on world).2.journal = world.journal ++ early ∧ Attended early := by
    rcases Runner.called_launch hnames hdiscreet request world with ⟨early, hearly, -, hattended⟩ |
      ⟨-, -, -, early, hearly, -, hattended⟩ | ⟨-, -, -, -, early, hearly, -, hattended⟩
    · exact ⟨early, hearly, hattended⟩
    · exact ⟨early, hearly, hattended⟩
    · exact ⟨early, hearly, hattended⟩
  obtain ⟨early, hearly, hattended⟩ := hlaunched
  rcases hrun : (runner.run request).on world with ⟨outcome, after⟩
  cases outcome with
  | ok report =>
      obtain ⟨passage, done, hlaunch, -, -, hconclude⟩ := Runner.exists_concluded hrun
      obtain ⟨round, rested, events, hround, -, -, hfixed⟩ := Runner.fixFirst_round passage.fixes
      obtain ⟨late, hlate, hcalls, hstages⟩ := Runner.conclude_stages hgit hconclude
      rw [hlaunch] at hearly
      have hqualifying : passage.course.fixedFiles =
          fun scope => report.qualifying scope (round.outcomes ++ passage.batches.results.flatten) := by
        funext scope
        unfold Course.fixedFiles Course.usable Report.qualifying
        rw [(passage.took hfixed).results, passage.failed]
      rw [hqualifying] at hstages
      refine ⟨early, late, ?_, hattended, hcalls, fun fault hfault => ?_, fun other hother => ?_⟩
      · rw [hlate, hearly]
      · cases hfault
      · cases hother
        exact ⟨passage, round, rested, done, hround, hlaunch, hearly, hstages⟩
  | error fault =>
      have hplain : ((runner.launch request).on world).2.Plain after := by
        rw [Runner.run_eq] at hrun
        rcases on_bind_error hrun with hfailed | ⟨⟨setup, course⟩, done, hlaunch, hconclude⟩
        · rw [hfailed]
          exact .of_journal rfl
        · rw [hlaunch]
          exact Runner.conclude_error hgit (Runner.launch_current hlaunch) hconclude
      obtain ⟨late, hlate, hall⟩ := hplain
      refine ⟨early, late, ?_, hattended, callsIn_plain hall,
        fun _ _ => commandsIn_plain hall, fun other hother => ?_⟩
      · rw [hlate, hearly]
      · cases hother

/-! ### Runs that stage -/

/-- A fixer that reports files as modified. -/
def fixerOf (modified : List String) : Engine Rat Unit where
  name := "fix"
  kind := .lint
  canFix := true
  precise := false
  prepare _ := pure ()
  reset := pure ()
  check _ _ := pure (.result ⟨"fix", .lint, .check, true, [], 0, none, 0, [], [], false⟩)
  fix _ _ := pure (.result ⟨"fix", .lint, .fix, true, [], 0, none, 0, modified, [], false⟩)

/-- A shell inside a work tree, in which one file cannot be added. -/
def unwilling : Shell Rat Unit := fun command _ =>
  match command.arguments with
  | [_, _, _, file] => pure ⟨if file = "/b" then 1 else 0, "", ""⟩
  | _ => pure ⟨0, "true", ""⟩

/-- That fixer in that shell, with staging. -/
def fixAndStage (modified : List String) : Runner Rat Unit where
  engines := [fixerOf modified]
  config := { Config.small with execution := { Config.small.execution with autoStage := true } }
  shell := unwilling
  schedule jobs _ := .inOrder jobs.length
  longestWait := none

theorem discreet_fixAndStage (modified : List String) : ∀ engine ∈ (fixAndStage modified).engines, engine.Discreet := by
  intro engine hin
  rw [List.mem_singleton.mp hin]
  exact Engine.discreet_of_idle (fun _ _ => rfl) fun pass _ _ _ => by cases pass <;> rfl

theorem unwilling_hasGit : unwilling.HasGit := by
  have hanswers : ∀ command token world, ∃ completed, (unwilling command token).on world = (.ok completed, world) := by
    intro command token world
    unfold unwilling
    split
    · exact ⟨_, rfl⟩
    · exact ⟨_, rfl⟩
  refine ⟨fun command token world => ?_, fun arguments directory world => Or.inl ?_⟩
  · obtain ⟨completed, hon⟩ := hanswers command token world
    rw [hon]
  · obtain ⟨completed, hon⟩ := hanswers ⟨"git" :: arguments, directory⟩ none world
    rw [hon]
    exact ⟨completed, rfl⟩

/-- A request about two files of a repository. -/
def twoFiles : Request Rat := { oneFile with files := ["/a", "/b"], root := some (Path.rooted []) }

-- What names hold, and what a disk holds, is evaluated by equations: unfolding texts is slow.
attribute [local irreducible] Path.hasNul Disk.isDirectory Disk.present

/-- A file that cannot be added does not keep the other one from being staged. -/
theorem staged_exactly_one :
    ∃ report after early late, ((fixAndStage ["/a", "/b"]).run twoFiles).on (World.still (.empty [] []) ()) =
        (.ok report, after) ∧ after.journal = early ++ late ∧ Attended early ∧ callsIn late = [] ∧
      report.staged = ["/a"] ∧ report.stagingWarnings.map (·.file) = ["/b"] ∧
      ∃ targets inside, ["/a", "/b"].Perm targets ∧ inside.inWorkTree = true ∧
        commandsIn late = (stagingCommands inside targets).map fun command => ("git" :: command, some "/") := by
  have hevaluated : (((fixAndStage ["/a", "/b"]).run twoFiles).on (World.still (.empty [] []) ())).1.toOption.map
      (fun report => (report.cancelled, report.staged, report.stagingWarnings.map (·.file))) =
        some (false, ["/a"], ["/b"]) := by
    cbv
  obtain ⟨early, late, hjournal, hattended, hcalls, -, hreports⟩ := staged_exactly (by decide)
    (discreet_fixAndStage ["/a", "/b"]) unwilling_hasGit twoFiles (World.still (.empty [] []) ())
  rcases hrun : ((fixAndStage ["/a", "/b"]).run twoFiles).on (World.still (.empty [] []) ()) with ⟨outcome, after⟩
  rw [hrun] at hevaluated hjournal hreports
  cases outcome with
  | error fault => cases hevaluated
  | ok report =>
      obtain ⟨hcancelled, hrest⟩ := Prod.mk.inj (Option.some.inj hevaluated)
      obtain ⟨hstaged, hwarned⟩ := Prod.mk.inj hrest
      obtain ⟨passage, round, rested, done, -, -, -, hstages⟩ := hreports report rfl
      obtain ⟨scope, -, hnothing, hsomething⟩ := hstages.on rfl
      have hsome : report.qualifying scope (round.outcomes ++ passage.batches.results.flatten) ≠ [] := by
        intro hnone
        cases hstaged.symm.trans (hnothing (Or.inr hnone)).1
      obtain ⟨targets, inside, answers, before, last, words, -, -, -, hadds⟩ := hsomething hcancelled hsome
      have hperm := hadds.complete
      rw [hstaged, hwarned] at hperm
      have hinside := ((hadds.staged "/a").mp (by rw [hstaged]; exact List.mem_singleton.mpr rfl)).1
      exact ⟨report, after, early, late, rfl, hjournal, hattended, hcalls, hstaged, hwarned, targets, inside, hperm, hinside,
        hadds.commands⟩

/-- A fixer that moves its file and names the new place, with staging. -/
def moveAndStage : Runner Rat Unit := { fixAndStage [] with engines := [mover "/c"] }

/-- The files of the request are normalised again before files are staged: here the file that the link leads to is added
and staged, though the request was about another one. -/
theorem moved_file_staged :
    ∃ report after, (moveAndStage.run oneFile).on (World.still .linkable ()) = (.ok report, after) ∧
      Disk.linkable.normalizeAll oneFile.files = .ok ["/a"] ∧ report.cancelled = false ∧
      givenIn after.journal = [moved "/c", foundInMoved] ∧
      commandsIn after.journal = [(["git", "rev-parse", "--is-inside-work-tree"], some "/"),
        (["git", "add", "--", "/c"], some "/")] ∧ report.staged = ["/c"] := by
  have hinput : Disk.linkable.normalizeAll oneFile.files = .ok ["/a"] := by
    cbv
  have hevaluated : (fun run => (run.1.toOption.map fun report => (report.cancelled, report.staged),
        givenIn run.2.journal, commandsIn run.2.journal)) ((moveAndStage.run oneFile).on (World.still .linkable ())) =
      (some (false, ["/c"]), [moved "/c", foundInMoved],
        [(["git", "rev-parse", "--is-inside-work-tree"], some "/"), (["git", "add", "--", "/c"], some "/")]) := by
    cbv
  rcases h : (moveAndStage.run oneFile).on (World.still .linkable ()) with ⟨outcome, after⟩
  rw [h] at hevaluated
  cases outcome with
  | error fault => cases hevaluated
  | ok report =>
      obtain ⟨hreport, hrest⟩ := Prod.mk.inj hevaluated
      obtain ⟨hgiven, hcommands⟩ := Prod.mk.inj hrest
      obtain ⟨hcancelled, hstaged⟩ := Prod.mk.inj (Option.some.inj hreport)
      exact ⟨report, after, rfl, hinput, hcancelled, hgiven, hcommands, hstaged⟩

end FixFirst
