import Mathlib
import FixFirst.Engine
import FixFirst.Proofs.Act
import FixFirst.Proofs.Batch.Conservation
import FixFirst.Proofs.Session.Sound

/-!
# Reuse changes no answer

An engine that remembers what it found answers like one that has never been asked before.  This
holds for a tool whose findings are the truth about the contents that it looks at, and whose fixes
report the truth about the contents that they leave.  Whatever is done with the engine, in whatever
order, and whether calls are cancelled or fail, its workbench stays sound, and a check answers what
the tool would find in the current contents of all files.

## Main definitions

* `Faithful` — what is assumed of a tool.
* `Used` — one thing that is done with an engine, or with the world around it.

## Main statements

* `sound_of_used` — whatever is done, the workbench stays sound.
* `check_eq_fresh` — a check answers what a new engine would answer.
-/

namespace FixFirst

open Relation

variable {τ σ : Type}

theorem World.bench_put (world : World τ σ) (name : String) (bench : Workbench) :
    World.bench { world with benches := world.benches.put name bench } name = bench := by
  unfold World.bench
  rw [Keyed.get?_put, if_pos rfl]
  rfl

/-- Whether commands do not reach into the memory of an engine. -/
def Shell.Spares (shell : Shell τ σ) (name : String) : Prop :=
  ∀ command token (world : World τ σ), ((shell command token).on world).2.bench name = world.bench name

/-- What is assumed of a tool.  A command does not reach into the memory of the engine; what a check
reports of the files that it was asked about is the truth about their contents, and what a fix
reports is the truth about the contents that it left. -/
structure Faithful (shell : Shell τ σ) (tool : Tool) (truth : Truth) : Prop where
  alone : tool.kind.isPerFile = true → truth.Alone
  apart : ∀ command token (world : World τ σ), ((shell command token).on world).2.bench tool.name = world.bench tool.name
  checks : ∀ {asked : List String} {caches : Path} {token : Option Nat} {world after : World τ σ} {completed : Completed}
    {found : List Issue},
    (shell ⟨tool.checkCommand asked caches, tool.directory⟩ token).on world = (.ok completed, after) →
    tool.accepts completed = true → tool.checkIssues after.disk completed = .ok found →
    ∀ file ∈ asked, found.filter (fun issue => issue.file == file) =
      truth (world.bench tool.name).fingerprint (world.disk.contentsOf asked) file
  fixes : ∀ {targets arguments : List String} {token : Option Nat} {world after : World τ σ} {completed : Completed}
    {found : List Issue}, tool.fixCommand targets = .ok arguments →
    (shell ⟨arguments, tool.directory⟩ token).on world = (.ok completed, after) →
    tool.accepts completed = true → tool.issues after.disk completed = .ok found →
    ∀ file ∈ targets, found.filter (fun issue => issue.file == file) =
      truth (world.bench tool.name).fingerprint (after.disk.contentsOf targets) file

/-! ### The steps of a call -/

/-- What can fix files looks at each of them by itself. -/
theorem Kind.isPerFile_of_canFix {kind : Kind} (h : kind.canFix = true) : kind.isPerFile = true := by
  cases kind with
  | lint => rfl
  | format => rfl
  | typeCheck => cases h

namespace Tool

variable {shell : Shell τ σ} {tool : Tool} {truth : Truth}

theorem on_unlessCancelled_ok {α : Type} {act : Act τ σ α} {world after : World τ σ} {value : α}
    (h : act.on world = (.ok value, after)) : (unlessCancelled act).on world = (.ok (some value), after) := by
  unfold unlessCancelled
  rw [Act.on_bind_of_ok (Act.on_attempt act world), h]
  rfl

theorem on_unlessCancelled_error {α : Type} {act : Act τ σ α} {world after : World τ σ} {fault : Fault}
    (h : act.on world = (.error fault, after)) :
    (unlessCancelled act).on world = (.ok none, after) ∨
      ∃ fault, (unlessCancelled act).on world = (.error fault, after) := by
  unfold unlessCancelled
  rw [Act.on_bind_of_ok (Act.on_attempt act world), h]
  cases fault with
  | cancelled reason => exact Or.inl rfl
  | _ => exact Or.inr ⟨_, rfl⟩

/-- How a command of a tool ends: it completes, it is cancelled, or it fails.  The memory of the
engine is left alone in any case. -/
theorem invoke_cases (hspares : shell.Spares tool.name) (arguments : List String) (token : Nat) (world : World τ σ) :
    ∃ after, after.bench tool.name = world.bench tool.name ∧
      ((∃ completed called, (unlessCancelled (tool.invoke shell arguments token)).on world = (.ok (some completed), after) ∧
          (shell ⟨arguments, tool.directory⟩ (some token)).on called = (.ok completed, after) ∧
          called.disk = world.disk ∧ called.benches = world.benches ∧ tool.accepts completed = true) ∨
        (unlessCancelled (tool.invoke shell arguments token)).on world = (.ok none, after) ∨
        ∃ fault, (unlessCancelled (tool.invoke shell arguments token)).on world = (.error fault, after)) := by
  have hcalled : ∀ event, World.bench { world with journal := world.journal ++ [event] } tool.name =
      world.bench tool.name := fun _ => rfl
  have hrun : (shell.run ⟨arguments, tool.directory⟩ (some token)).on world =
      (shell ⟨arguments, tool.directory⟩ (some token)).on
        { world with journal := world.journal ++ [.command arguments (tool.directory.map Path.text)] } := by
    unfold Shell.run
    rw [Act.on_bind_of_ok (Act.on_log _ world)]
  have hapart := hspares ⟨arguments, tool.directory⟩ (some token)
    { world with journal := world.journal ++ [.command arguments (tool.directory.map Path.text)] }
  rw [hcalled] at hapart
  rcases hshell : (shell ⟨arguments, tool.directory⟩ (some token)).on
    { world with journal := world.journal ++ [.command arguments (tool.directory.map Path.text)] } with ⟨outcome, after⟩
  rw [hshell] at hrun hapart
  refine ⟨after, hapart, ?_⟩
  cases outcome with
  | ok completed =>
      by_cases haccepts : tool.accepts completed = true
      · refine Or.inl ⟨completed, _, on_unlessCancelled_ok ?_, hshell, rfl, rfl, haccepts⟩
        unfold invoke
        rw [Act.on_bind_of_ok hrun, if_pos haccepts, Act.on_pure]
      · have hinvoke : (tool.invoke shell arguments token).on world = (.error (.engineFailure tool.name
            (completed.lastLine?.getD s!"exited with status {completed.status}") (some completed.status)), after) := by
          unfold invoke
          rw [Act.on_bind_of_ok hrun, if_neg haccepts, Act.on_throw]
        exact Or.inr (on_unlessCancelled_error hinvoke)
  | error fault =>
      have hinvoke : (tool.invoke shell arguments token).on world = (.error fault, after) := by
        unfold invoke
        rw [Act.on_bind, hrun]
      exact Or.inr (on_unlessCancelled_error hinvoke)

/-- A command that completes, in a way that the tool uses for success. -/
theorem on_invoke_of_completed {arguments : List String} {token : Nat} {world after : World τ σ} {completed : Completed}
    (hshell : (shell ⟨arguments, tool.directory⟩ (some token)).on
      (world.noted [.command arguments (tool.directory.map Path.text)]) = (.ok completed, after))
    (haccepts : tool.accepts completed = true) :
    (unlessCancelled (tool.invoke shell arguments token)).on world = (.ok (some completed), after) := by
  refine on_unlessCancelled_ok ?_
  unfold invoke Shell.run
  rw [Act.on_bind_of_ok ((Act.on_bind_of_ok (Act.on_log _ world)).trans hshell), if_pos haccepts, Act.on_pure]

/-- Focusing on files changes the workbench of the engine only. -/
theorem on_focusOn_of_focused {world : World τ σ} {files : List String} {session : Session}
    (hfocused : Workbench.Focused (world.bench tool.name) tool.kind.isPerFile files ((world.bench tool.name).focusOn
      tool.kind.isPerFile (tool.cacheDirectory (world.bench tool.name).fingerprint) files) session) :
    (tool.focusOn files : Act τ σ Session).on world =
      (.ok session, { world with benches := world.benches.put tool.name ((world.bench tool.name).focusOn
        tool.kind.isPerFile (tool.cacheDirectory (world.bench tool.name).fingerprint) files) }) := by
  unfold focusOn
  rw [Act.on_bind_of_ok (Act.on_onBench _ _ world), Act.on_bind_of_ok (Act.on_get _), Act.on_pure, World.bench_put,
    hfocused.current]
  rfl

/-- Focusing on files makes a session for them the current one. -/
theorem on_focusOn {world : World τ σ} (hfew : (world.bench tool.name).sessions.length ≤ Workbench.capacity)
    (files : List String) :
    ∃ session, (tool.focusOn files : Act τ σ Session).on world =
        (.ok session, { world with benches := world.benches.put tool.name ((world.bench tool.name).focusOn
          tool.kind.isPerFile (tool.cacheDirectory (world.bench tool.name).fingerprint) files) }) ∧
      Workbench.Focused (world.bench tool.name) tool.kind.isPerFile files ((world.bench tool.name).focusOn
        tool.kind.isPerFile (tool.cacheDirectory (world.bench tool.name).fingerprint) files) session := by
  obtain ⟨session, hfocused⟩ := Workbench.focused hfew tool.kind.isPerFile
    (tool.cacheDirectory (world.bench tool.name).fingerprint) files
  exact ⟨session, on_focusOn_of_focused hfocused, hfocused⟩

/-- Focusing on files keeps the workbench sound. -/
theorem on_focusOn_sound {world : World τ σ} (hs : (World.bench world tool.name).Sound truth) (files : List String) :
    ∃ bench session, (tool.focusOn files : Act τ σ Session).on world =
        (.ok session, { world with benches := world.benches.put tool.name bench }) ∧
      bench.Sound truth ∧
      Workbench.Focused (world.bench tool.name) tool.kind.isPerFile files bench session := by
  obtain ⟨session, hon, hfocused⟩ := on_focusOn hs.few files
  exact ⟨_, session, hon, (hs.focusOn _ _ files).1, hfocused⟩

theorem on_knownIssues {world : World τ σ} {session : Session}
    (h : (world.bench tool.name).current? = some session) (files : List String) :
    (tool.knownIssues files).on world = (.ok (session.cached files), world) := by
  unfold knownIssues
  rw [Act.on_bind_of_ok (Act.on_get world), Act.on_pure, h]
  rfl

/-- The current session after a change of it. -/
theorem current?_put {world : World τ σ} {session : Session} (hcurrent : (world.bench tool.name).current? = some session)
    (change : Session → Session) (hfiles : ∀ session, (change session).files = session.files) :
    (World.bench { world with benches := world.benches.put tool.name ((world.bench tool.name).update change) }
      tool.name).current? = some (change session) := by
  rw [World.bench_put, Workbench.current?_update hfiles, hcurrent]
  rfl

/-- The session after a check noted what the tool reported: sound, if it was about all files or each
is looked at alone. -/
theorem record_sound (hf : Faithful shell tool truth) {session : Session} (hs : session.Sound truth) (disk : Disk)
    {targets asked : List String} {found : List Issue} (hcovers : ∀ file ∈ targets, file ∈ session.files)
    (hexact : tool.kind.isPerFile = false → ∀ file ∈ session.files, file ∈ targets)
    (hasked : ∀ file ∈ asked, file ∈ targets) (hwhole : tool.kind.isPerFile = false → asked = targets)
    (hfound : ∀ file ∈ asked, found.filter (fun issue => issue.file == file) =
      truth session.fingerprint (disk.contentsOf asked) file) :
    (session.record ((targets.filter fun file => asked.contains file).map fun file => (file, disk.digest file))
      found).Sound truth := by
  have hmem : ∀ file, file ∈ (targets.filter fun file => asked.contains file) ↔ file ∈ asked := by
    intro file
    simp only [List.mem_filter, List.contains_eq_mem, decide_eq_true_eq]
    exact ⟨fun h => h.2, fun h => ⟨hasked file h, h⟩⟩
  refine hs.record ?_ (fun file hfile => hcovers file (List.mem_filter.mp hfile).1) fun file hfile => ?_
  · cases hp : tool.kind.isPerFile with
    | true => exact Or.inl (hf.alone hp)
    | false =>
        refine Or.inr fun file hfile => (hmem file).mpr ?_
        rw [hwhole hp]
        exact hexact hp file hfile
  · have hsame : disk.contentsOf asked =
        fun file => if file ∈ (targets.filter fun file => asked.contains file) then some (disk.digest file) else none := by
      funext other
      unfold Disk.contentsOf
      by_cases hin : other ∈ asked
      · rw [if_pos hin, if_pos ((hmem other).mpr hin)]
      · rw [if_neg hin, if_neg fun h => hin ((hmem other).mp h)]
    rw [hfound file ((hmem file).mp hfile), hsame]

variable [Quantity τ]

theorem on_result (pass : Pass) (issues : List Issue) (started : τ) (cancelled : Bool) (modified : List String)
    (fixed : List FixRecord) (world : World τ σ) :
    (tool.result pass issues started cancelled modified fixed).on world =
      (.ok ⟨tool.name, tool.kind, pass, !cancelled, issues, world.clock.now - started, some tool.kind.canFix,
        fixed.length, modified, fixed, cancelled⟩, world) := by
  unfold result
  rw [Act.on_bind_of_ok (Act.on_now world), Act.on_pure]

/-- What comes of answering from the current session alone. -/
theorem on_recollect {world : World τ σ} {session : Session} (hcurrent : (world.bench tool.name).current? = some session)
    (targets : List String) (started : τ) :
    (tool.recollect targets started).on world =
      (.ok ⟨tool.name, tool.kind, .check, true, session.cached targets, world.clock.now - started,
        some tool.kind.canFix, 0, [], [], false⟩,
      { world with benches := world.benches.put tool.name ((world.bench tool.name).update fun session =>
        { session with reused := session.reused + 1 }) }) := by
  have hafter := current?_put hcurrent (fun session => { session with reused := session.reused + 1 }) fun _ => rfl
  unfold recollect
  rw [Act.on_bind_of_ok (Act.on_onBench _ _ world), Act.on_bind_of_ok (on_knownIssues hafter targets), on_result]
  rfl

/-- What is noted of the files that a tool was asked about, as a change of the session. -/
def noting (disk : Disk) (targets asked : List String) (found : List Issue) (session : Session) : Session :=
  session.record ((targets.filter fun file => asked.contains file).map fun file => (file, disk.digest file)) found

/-- What comes of noting a report that can be read. -/
theorem on_note {world : World τ σ} {session : Session} (hcurrent : (world.bench tool.name).current? = some session)
    (disk : Disk) (targets asked : List String) {completed : Completed} {found : List Issue}
    (hissues : tool.checkIssues world.disk completed = .ok found) (started : τ) :
    (tool.note targets (targets.map fun file => (file, disk.digest file)) asked completed started).on world =
      (.ok ⟨tool.name, tool.kind, .check, true, (noting disk targets asked found session).cached targets,
        world.clock.now - started, some tool.kind.canFix, 0, [], [], false⟩,
      { world with
        benches := world.benches.put tool.name ((world.bench tool.name).update (noting disk targets asked found)) }) := by
  have hlooked : (targets.map fun file => (file, disk.digest file)).filter (fun entry => asked.contains entry.1) =
      (targets.filter fun file => asked.contains file).map fun file => (file, disk.digest file) := by
    rw [List.filter_map]
    rfl
  have hafter := current?_put hcurrent (noting disk targets asked found) fun _ => rfl
  have hupdate := Act.on_onBench tool.name (·.update (noting disk targets asked found)) world
  unfold note
  rw [Act.on_bind_of_ok (Act.on_get world), hissues, Act.on_bind_of_ok (Act.on_ofExcept (Except.ok found) world), hlooked]
  refine (Act.on_bind_of_ok hupdate).trans ?_
  rw [Act.on_bind_of_ok (on_knownIssues hafter targets), on_result]
  rfl

/-- A report that cannot be read leaves everything as it was. -/
theorem on_note_error {world : World τ σ} {completed : Completed} {fault : Fault}
    (hissues : tool.checkIssues world.disk completed = .error fault) (targets : List String) (digests : Keyed String)
    (asked : List String) (started : τ) :
    (tool.note targets digests asked completed started).on world = (.error fault, world) := by
  unfold note
  rw [Act.on_bind_of_ok (Act.on_get world), hissues, Act.on_bind, Act.on_ofExcept]

/-- What comes of letting a tool look at files, when its command completes. -/
theorem on_look_of_completed {targets stale : List String} {caches : Path} {token : Nat} {world after : World τ σ}
    {completed : Completed} (hshell :
      (shell ⟨tool.checkCommand (if tool.kind.isPerFile then stale else targets) caches, tool.directory⟩ (some token)).on
        (world.noted [.command (tool.checkCommand (if tool.kind.isPerFile then stale else targets) caches)
          (tool.directory.map Path.text)]) = (.ok completed, after))
    (haccepts : tool.accepts completed = true) (digests : Keyed String) (started : τ) :
    (tool.look shell targets digests caches stale started token).on world =
      (tool.note targets digests (if tool.kind.isPerFile then stale else targets) completed started).on after := by
  unfold look
  rw [Act.on_bind_of_ok (on_invoke_of_completed hshell haccepts)]

/-- What a check answers.  A check that was not cancelled gives the truth about all files; one that
was gives it about the files whose contents were known before. -/
structure Answered (truth : Truth) (tool : Tool) (world : World τ σ) (targets : List String) (result : EngineResult τ) :
    Prop where
  success : result.success = !result.cancelled
  whole : result.cancelled = false →
    result.issues = targets.flatMap (truth (world.bench tool.name).fingerprint (world.disk.contentsOf targets))
  part : result.cancelled = true → tool.kind.isPerFile = true →
    result.issues = (targets.filter fun file =>
      (world.bench tool.name).contents file == some (world.disk.digest file)).flatMap
        (truth (world.bench tool.name).fingerprint (world.disk.contentsOf targets))

/-- An answer from the current session. -/
theorem recollect_ok {world : World τ σ} (hs : (world.bench tool.name).Sound truth) {session : Session}
    (hcurrent : (world.bench tool.name).current? = some session) (targets : List String) (started : τ) :
    ∃ result after, (tool.recollect targets started).on world = (.ok result, after) ∧
      (after.bench tool.name).Sound truth ∧ result.success = true ∧ result.cancelled = false ∧
      result.issues = session.cached targets := by
  refine ⟨_, _, on_recollect hcurrent targets started, ?_, rfl, rfl, rfl⟩
  rw [World.bench_put]
  exact hs.update hcurrent (fun _ => rfl) (fun _ => rfl) fun other hother _ _ => ⟨hother.entries, hother.within⟩

/-- What comes of noting the report of a tool that was asked about some files, where the others are
known: the workbench stays sound, and the answer is the truth about all files. -/
theorem note_ok (hf : Faithful shell tool truth) {world : World τ σ} (hs : (world.bench tool.name).Sound truth)
    {session : Session} (hcurrent : (world.bench tool.name).current? = some session) (hsession : session.Sound truth)
    {disk : Disk} {targets asked : List String} {completed : Completed}
    (hcovers : ∀ file ∈ targets, file ∈ session.files)
    (hexact : tool.kind.isPerFile = false → ∀ file ∈ session.files, file ∈ targets)
    (hasked : ∀ file ∈ asked, file ∈ targets) (hwhole : tool.kind.isPerFile = false → asked = targets)
    (hothers : ∀ file ∈ targets, file ∉ asked → session.contents file = some (disk.digest file))
    (hfound : ∀ found, tool.checkIssues world.disk completed = .ok found → ∀ file ∈ asked,
      found.filter (fun issue => issue.file == file) = truth session.fingerprint (disk.contentsOf asked) file)
    (started : τ) :
    let run := (tool.note targets (targets.map fun file => (file, disk.digest file)) asked completed started).on world
    (run.2.bench tool.name).Sound truth ∧ ∀ result after, run = (.ok result, after) →
      result.success = true ∧ result.cancelled = false ∧
      result.issues = targets.flatMap (truth session.fingerprint (disk.contentsOf targets)) := by
  intro run
  have hrun : run = (tool.note targets (targets.map fun file => (file, disk.digest file)) asked completed started).on
    world := rfl
  cases hissues : tool.checkIssues world.disk completed with
  | error fault =>
      rw [on_note_error hissues] at hrun
      rw [hrun]
      refine ⟨hs, fun result after h => ?_⟩
      cases h
  | ok found =>
      have hrecord : ∀ other : Session, other.Sound truth → other.fingerprint = session.fingerprint →
          (∀ file, file ∈ other.files ↔ file ∈ session.files) → (noting disk targets asked found other).Sound truth := by
        intro other hother hbound hmembers
        refine record_sound hf hother disk (fun file hfile => (hmembers file).mpr (hcovers file hfile)) ?_ hasked
          hwhole (hbound ▸ hfound found hissues)
        intro hp file hfile
        exact hexact hp file ((hmembers file).mp hfile)
      rw [on_note hcurrent disk targets asked hissues started] at hrun
      rw [hrun]
      constructor
      · rw [World.bench_put]
        exact hs.update hcurrent (fun _ => rfl) (fun _ => rfl) hrecord
      · intro result last h
        cases h
        refine ⟨rfl, rfl, (hrecord session hsession rfl fun _ => Iff.rfl).answer disk ?_ fun file hfile => ?_⟩
        · cases hp : tool.kind.isPerFile with
          | true => exact Or.inl (hf.alone hp)
          | false => exact Or.inr (hexact hp)
        · refine (Session.contents_record ..).trans ?_
          by_cases hin : file ∈ targets.filter fun file => asked.contains file
          · rw [if_pos hin]
          · rw [if_neg hin]
            refine hothers file hfile ?_
            simpa [List.mem_filter, hfile] using hin

/-- The files that a tool is asked about, the stale ones or all of them, and the ones that it is not asked about. -/
theorem asked_ok (perFile : Bool) (targets : List String) (isStale : String → Bool) :
    (∀ file ∈ if perFile = true then targets.filter isStale else targets, file ∈ targets) ∧
      (perFile = false → (if perFile = true then targets.filter isStale else targets) = targets) ∧
      ∀ file ∈ targets, (file ∉ if perFile = true then targets.filter isStale else targets) → isStale file = false := by
  cases perFile with
  | true =>
      refine ⟨fun file hfile => (List.mem_filter.mp hfile).1, fun h => Bool.noConfusion h, fun file hfile hnot => ?_⟩
      simpa [List.mem_filter, hfile] using hnot
  | false => exact ⟨fun _ hfile => hfile, fun _ => rfl, fun file hfile hnot => absurd hfile hnot⟩

/-- What comes of letting the tool look at stale files: the workbench stays sound, the answer is the
truth about all files, or if the call was cancelled, what the session knew. -/
theorem look_ok (hf : Faithful shell tool truth) {world : World τ σ} (hs : (world.bench tool.name).Sound truth)
    {session : Session} (hcurrent : (world.bench tool.name).current? = some session) (hsession : session.Sound truth)
    (hbound : session.fingerprint = (world.bench tool.name).fingerprint) {targets : List String}
    (hcovers : ∀ file ∈ targets, file ∈ session.files)
    (hexact : tool.kind.isPerFile = false → ∀ file ∈ session.files, file ∈ targets)
    (caches : Path) (started : τ) (token : Nat) :
    let run := (tool.look shell targets (targets.map fun file => (file, world.disk.digest file)) caches
      (targets.filter fun file => !(session.contents file == some (world.disk.digest file))) started token).on world
    (run.2.bench tool.name).Sound truth ∧ ∀ result after, run = (.ok result, after) →
      result.success = !result.cancelled ∧
      (result.cancelled = false → result.issues =
        targets.flatMap (truth session.fingerprint (world.disk.contentsOf targets))) ∧
      (result.cancelled = true → result.issues =
        session.cached (targets.filter fun file => session.contents file == some (world.disk.digest file))) := by
  intro run
  have hrun : run = (tool.look shell targets (targets.map fun file => (file, world.disk.digest file)) caches
    (targets.filter fun file => !(session.contents file == some (world.disk.digest file))) started token).on world := rfl
  unfold look at hrun
  simp only at hrun
  generalize hstale : (targets.filter fun file => !(session.contents file == some (world.disk.digest file))) = stale at hrun
  generalize hasked : (if tool.kind.isPerFile = true then stale else targets) = asked at hrun
  have hiff : ∀ file ∈ targets, (file ∈ stale ↔ session.contents file ≠ some (world.disk.digest file)) := by
    intro file hfile
    rw [← hstale]
    simp [List.mem_filter, hfile]
  obtain ⟨after, hapart, hcases⟩ := invoke_cases hf.apart (tool.checkCommand asked caches) token world
  have hafter : (after.bench tool.name).current? = some session := hapart ▸ hcurrent
  rcases hcases with ⟨completed, called, hon, hshell, hdisk, hbenches, haccepts⟩ | hon | ⟨fault, hon⟩
  · -- The tool completed.
    rw [Act.on_bind_of_ok hon] at hrun
    have hcalled : called.bench tool.name = world.bench tool.name := by
      unfold World.bench
      rw [hbenches]
    have hfound : ∀ found, tool.checkIssues after.disk completed = .ok found → ∀ file ∈ asked,
        found.filter (fun issue => issue.file == file) =
          truth session.fingerprint (world.disk.contentsOf asked) file := by
      intro found hissues
      have hchecks := hf.checks hshell haccepts hissues
      rwa [hcalled, hdisk, ← hbound] at hchecks
    obtain ⟨hsubset, hwhole, hothers⟩ := asked_ok tool.kind.isPerFile targets fun file =>
      !(session.contents file == some (world.disk.digest file))
    rw [hstale, hasked] at hsubset hwhole hothers
    have hknown : ∀ file ∈ targets, file ∉ asked → session.contents file = some (world.disk.digest file) := by
      intro file hfile hnot
      simpa using hothers file hfile hnot
    obtain ⟨hsound, hanswer⟩ := note_ok hf (hapart ▸ hs) hafter hsession hcovers hexact hsubset hwhole hknown hfound
      started
    rw [hrun]
    refine ⟨hsound, fun result last h => ?_⟩
    obtain ⟨hsuccess, hcancelled, hissues⟩ := hanswer result last h
    refine ⟨by rw [hsuccess, hcancelled]; rfl, fun _ => hissues, fun hc => ?_⟩
    rw [hcancelled] at hc
    cases hc
  · -- The call was cancelled.
    rw [Act.on_bind_of_ok hon] at hrun
    simp only at hrun
    rw [Act.on_bind_of_ok (on_knownIssues hafter _), on_result] at hrun
    rw [hrun]
    refine ⟨hapart ▸ hs, fun result last h => ?_⟩
    cases h
    refine ⟨rfl, fun hc => Bool.noConfusion hc, fun _ => ?_⟩
    refine congrArg session.cached (List.filter_congr fun file hfile => ?_)
    rw [Bool.eq_iff_iff]
    simp [hiff file hfile]
  · rw [Act.on_bind, hon] at hrun
    rw [hrun]
    refine ⟨hapart ▸ hs, fun result last h => ?_⟩
    cases h

/-- A check keeps the workbench sound, and answers the truth. -/
theorem check_ok (hf : Faithful shell tool truth) {world : World τ σ} (hs : (world.bench tool.name).Sound truth)
    (files : List String) (token : Nat) :
    (((tool.check shell files token).on world).2.bench tool.name).Sound truth ∧
      ∀ result after, (tool.check shell files token).on world = (.ok result, after) →
        ∃ targets, world.disk.normalizeAll files = .ok targets ∧ Answered truth tool world targets result := by
  unfold check
  rw [Act.on_bind_of_ok (Act.on_now world), Act.on_bind_of_ok (Act.on_get world)]
  cases hn : world.disk.normalizeAll files with
  | error fault =>
      rw [Act.on_bind, Act.on_ofExcept]
      refine ⟨hs, fun result after h => ?_⟩
      cases h
  | ok targets =>
      rw [Act.on_bind_of_ok (Act.on_ofExcept (Except.ok targets) world), Act.on_bind_of_ok (Act.on_get world)]
      have hnodup : targets.Nodup := nodup_normalizeAll hn
      obtain ⟨bench, session, hfocus, hsound, hfocused⟩ := on_focusOn_sound hs targets
      rw [Act.on_bind_of_ok hfocus, world.disk.snapshot_of_nodup hnodup, Session.stale_map]
      have hbench := World.bench_put world tool.name bench
      have hcurrent := hfocused.current
      rw [← hbench] at hcurrent hsound
      have hsession : session.Sound truth := hsound.of_current? hcurrent
      by_cases hnone : (targets.filter fun file => !(session.contents file == some (world.disk.digest file))).isEmpty = true
      · obtain ⟨result, after, hon, hafter, hsuccess, hcancelled, hissues⟩ := recollect_ok hsound hcurrent targets
          world.clock.now
        simp only [hnone, if_true]
        rw [hon]
        refine ⟨hafter, fun result' after' h => ?_⟩
        cases h
        refine ⟨targets, rfl, by rw [hsuccess, hcancelled]; rfl, fun _ => ?_, fun hc => ?_⟩
        · rw [hissues, ← hfocused.fingerprint]
          refine hsession.answer world.disk ?_ fun file hfile => ?_
          · cases hp : tool.kind.isPerFile with
            | true => exact Or.inl (hf.alone hp)
            | false => exact Or.inr (hfocused.exact hp)
          · simpa using (List.filter_eq_nil_iff.mp (List.isEmpty_iff.mp hnone)) file hfile
        · rw [hcancelled] at hc
          cases hc
      · have hbound : session.fingerprint = (World.bench { world with benches := world.benches.put tool.name bench }
            tool.name).fingerprint := by
          rw [hbench, hfocused.bound, hfocused.fingerprint]
        obtain ⟨hafter, hanswer⟩ := look_ok hf hsound hcurrent hsession hbound hfocused.covers hfocused.exact
          session.directory world.clock.now token
        simp only [hnone, Bool.false_eq_true, if_false]
        refine ⟨hafter, fun result after h => ?_⟩
        obtain ⟨hsuccess, hwhole, hpart⟩ := hanswer result after h
        refine ⟨targets, rfl, hsuccess, fun hc => ?_, fun hc hp => ?_⟩
        · rw [hwhole hc, hfocused.fingerprint]
        · rw [hpart hc, ← hfocused.known hp, ← hfocused.fingerprint]
          exact hsession.answer_known (hf.alone hp) world.disk targets

/-- A check returns and is a success, if the tool completes whatever it is asked of the files. -/
theorem check_returns {world : World τ σ} (hs : (world.bench tool.name).Sound truth) {files targets : List String}
    {token : Nat} (hn : world.disk.normalizeAll files = .ok targets)
    (hshell : ∀ (asked : List String) (caches : Path) (called : World τ σ), asked.Sublist targets → asked ≠ [] →
      called.disk = world.disk → ∃ completed after found,
        (shell ⟨tool.checkCommand asked caches, tool.directory⟩ (some token)).on called = (.ok completed, after) ∧
        after.benches = called.benches ∧ tool.accepts completed = true ∧
        tool.checkIssues after.disk completed = .ok found) :
    ∃ result after, (tool.check shell files token).on world = (.ok result, after) ∧ result.success = true := by
  unfold check
  rw [Act.on_bind_of_ok (Act.on_now world), Act.on_bind_of_ok (Act.on_get world), hn,
    Act.on_bind_of_ok (Act.on_ofExcept (Except.ok targets) world), Act.on_bind_of_ok (Act.on_get world)]
  obtain ⟨bench, session, hfocus, hsound, hfocused⟩ := on_focusOn_sound hs targets
  rw [Act.on_bind_of_ok hfocus, world.disk.snapshot_of_nodup (nodup_normalizeAll hn), Session.stale_map]
  have hbench := World.bench_put world tool.name bench
  have hcurrent := hfocused.current
  rw [← hbench] at hcurrent hsound
  by_cases hnone : (targets.filter fun file => !(session.contents file == some (world.disk.digest file))).isEmpty = true
  · obtain ⟨result, after, hon, -, hsuccess, -⟩ := recollect_ok hsound hcurrent targets world.clock.now
    simp only [hnone, if_true]
    exact ⟨result, after, hon, hsuccess⟩
  · simp only [hnone, Bool.false_eq_true, if_false]
    have hsome : (targets.filter fun file => !(session.contents file == some (world.disk.digest file))) ≠ [] := by
      simpa using hnone
    generalize hstale : (targets.filter fun file => !(session.contents file == some (world.disk.digest file))) = stale
      at hsome ⊢
    have hsub : (if tool.kind.isPerFile = true then stale else targets).Sublist targets ∧
        (if tool.kind.isPerFile = true then stale else targets) ≠ [] := by
      split
      · exact ⟨hstale ▸ List.filter_sublist, hsome⟩
      · refine ⟨List.Sublist.refl targets, fun h => hsome ?_⟩
        rw [← hstale, h, List.filter_nil]
    obtain ⟨completed, after, found, hon, hkept, haccepts, hissues⟩ := hshell _ session.directory
      (World.noted { world with benches := world.benches.put tool.name bench }
        [.command (tool.checkCommand (if tool.kind.isPerFile = true then stale else targets) session.directory)
          (tool.directory.map Path.text)]) hsub.1 hsub.2 rfl
    have hafter : (after.bench tool.name).current? = some session := by
      rw [← hcurrent]
      unfold World.bench
      rw [hkept]
      rfl
    rw [on_look_of_completed hon haccepts, on_note hafter world.disk targets _ hissues]
    exact ⟨_, _, rfl, rfl⟩

/-- Settling a fix keeps the workbench sound, if what the tool printed is the truth about the contents
that it left. -/
theorem settle_sound (halone : truth.Alone) {world : World τ σ} (hs : (world.bench tool.name).Sound truth)
    {session : Session} (hcurrent : (world.bench tool.name).current? = some session) {targets : List String}
    (hnodup : targets.Nodup) (hcovers : ∀ file ∈ targets, file ∈ session.files) {completed : Option Completed}
    (hfound : ∀ process found, completed = some process → tool.issues world.disk process = .ok found →
      ∀ file ∈ targets, found.filter (fun issue => issue.file == file) =
        truth session.fingerprint (world.disk.contentsOf targets) file)
    (before : Keyed String) (started : τ) :
    (((tool.settle targets before completed started).on world).2.bench tool.name).Sound truth := by
  unfold settle
  rw [Act.on_bind_of_ok (Act.on_get world)]
  cases hissues : tool.fixIssues world.disk completed with
  | error fault =>
      rw [Act.on_bind, Act.on_ofExcept]
      exact hs
  | ok found =>
      rw [Act.on_bind_of_ok (Act.on_ofExcept (Except.ok found) world), Act.on_bind_of_ok (Act.on_get world),
        world.disk.snapshot_of_nodup hnodup, Act.on_bind_of_ok (Act.on_onBench _ _ world), on_result, World.bench_put]
      refine hs.update hcurrent (fun _ => rfl) (fun _ => rfl) fun other hother hbound hmembers => ?_
      have hleft := hother.forget halone
        (targets.filter fun file => before.get? file !=
          Keyed.get? (targets.map fun file => (file, world.disk.digest file)) file)
      cases completed with
      | none => exact hleft
      | some process =>
          refine hleft.record (Or.inl halone) (fun file hfile => (hmembers file).mpr (hcovers file hfile)) ?_
          intro file hfile
          have htruth := hfound process found rfl hissues file hfile
          rw [← hbound] at htruth
          exact htruth

/-- Fixing keeps the workbench sound. -/
theorem fix_sound (hf : Faithful shell tool truth) {world : World τ σ} (hs : (world.bench tool.name).Sound truth)
    (files : List String) (token : Nat) :
    (((tool.fix shell files token).on world).2.bench tool.name).Sound truth := by
  unfold fix
  by_cases hcan : tool.kind.canFix = true
  · have hp := Kind.isPerFile_of_canFix hcan
    simp only [hcan, Bool.not_true, Bool.false_eq_true, if_false]
    rw [Act.on_bind_of_ok (Act.on_now world), Act.on_bind_of_ok (Act.on_get world)]
    cases hn : world.disk.normalizeAll files with
    | error fault =>
        rw [Act.on_bind, Act.on_ofExcept]
        exact hs
    | ok targets =>
        obtain ⟨bench, session, hfocus, hsound, hfocused⟩ := on_focusOn_sound hs targets
        rw [Act.on_bind_of_ok (Act.on_ofExcept (Except.ok targets) world), Act.on_bind_of_ok hfocus,
          Act.on_bind_of_ok (Act.on_get _)]
        have hbench := World.bench_put world tool.name bench
        have hcurrent := hfocused.current
        rw [← hbench] at hcurrent hsound
        cases hcommand : tool.fixCommand targets with
        | error fault =>
            rw [Act.on_bind, Act.on_ofExcept]
            exact hsound
        | ok command =>
            rw [Act.on_bind_of_ok (Act.on_ofExcept (Except.ok command) _)]
            obtain ⟨after, hapart, hcases⟩ := invoke_cases hf.apart command token
              { world with benches := world.benches.put tool.name bench }
            have hafter : (after.bench tool.name).current? = some session := hapart ▸ hcurrent
            rcases hcases with ⟨process, called, hon, hshell, hdisk, hbenches, haccepts⟩ | hon | ⟨fault, hon⟩
            · rw [Act.on_bind_of_ok hon]
              refine settle_sound (hf.alone hp) (hapart ▸ hsound) hafter (nodup_normalizeAll hn) hfocused.covers ?_ _ _
              intro process' found hsome hissues file hfile
              cases hsome
              have hcalled : (called.bench tool.name).fingerprint = session.fingerprint := by
                have hsame : called.bench tool.name = bench := by
                  rw [← hbench]
                  unfold World.bench
                  rw [hbenches]
                rw [hsame, hfocused.bound, hfocused.fingerprint]
              have htruth := hf.fixes hcommand hshell haccepts hissues file hfile
              rwa [hcalled] at htruth
            · rw [Act.on_bind_of_ok hon]
              refine settle_sound (hf.alone hp) (hapart ▸ hsound) hafter (nodup_normalizeAll hn) hfocused.covers ?_ _ _
              intro process' found hsome
              cases hsome
            · rw [Act.on_bind, hon]
              exact hapart ▸ hsound
  · simp only [hcan, Bool.not_false, if_true]
    rw [Act.on_bind, Act.on_throw]
    exact hs

end Tool

variable [Quantity τ]

/-- One thing that is done with an engine: it is bound to a fingerprint, it is made to forget, it is
called, or something happens meanwhile that leaves its memory alone, such as an edit of files. -/
inductive Used (shell : Shell τ σ) (tool : Tool) : World τ σ → World τ σ → Prop
  | prepared (world : World τ σ) (fingerprint : String) :
      Used shell tool world (Change.on ((Engine.ofTool shell tool).prepare fingerprint) world).2
  | cleared (world : World τ σ) : Used shell tool world (Change.on (Engine.ofTool shell tool).reset world).2
  | called (world : World τ σ) (pass : Pass) (files : List String) (token : Nat) :
      Used shell tool world (Change.on ((Engine.ofTool shell tool).call pass files token) world).2
  | meanwhile {world other : World τ σ} (h : other.bench tool.name = world.bench tool.name) :
      Used shell tool world other

/-! ### Any use of an engine -/

section

variable {shell : Shell τ σ} {tool : Tool} {truth : Truth} {start world after : World τ σ}

theorem Engine.check_ok_iff {files : List String} {token : Nat} {result : EngineResult τ} :
    Change.on ((Engine.ofTool shell tool).check files token) world = (.result result, after) ↔
      (tool.check shell files token).on world = (.ok result, after) := by
  have hcheck : Change.on ((Engine.ofTool shell tool).check files token) world =
      Change.on (Reply.ofAct (tool.check shell files token)) world := rfl
  have houtcome : Change.on (tool.check shell files token).outcome world = (tool.check shell files token).on world := rfl
  rw [hcheck, Reply.ofAct, Change.on_bind, houtcome]
  rcases (tool.check shell files token).on world with ⟨outcome, last⟩
  cases outcome <;> simp

/-- One use of an engine keeps its workbench sound. -/
theorem sound_of_use (hf : Faithful shell tool truth) (hs : (world.bench tool.name).Sound truth)
    (h : Used shell tool world after) : (after.bench tool.name).Sound truth := by
  cases h with
  | prepared fingerprint =>
      have hbench := World.bench_put world tool.name ((world.bench tool.name).prepare fingerprint)
      exact hbench ▸ hs.prepare fingerprint
  | cleared =>
      have hbench := World.bench_put world tool.name (world.bench tool.name).reset
      exact hbench ▸ Workbench.Sound.of_nil rfl
  | called pass files token =>
      cases pass with
      | check => exact (Tool.check_ok hf hs files token).1
      | fix => exact Tool.fix_sound hf hs files token
  | meanwhile hsame => exact hsame ▸ hs

/-- Whatever is done with an engine, its workbench stays sound. -/
theorem sound_of_used (hf : Faithful shell tool truth) (hstart : start.bench tool.name = .empty)
    (hused : ReflTransGen (Used shell tool) start world) : (world.bench tool.name).Sound truth := by
  induction hused with
  | refl =>
      rw [hstart]
      exact Workbench.Sound.of_nil rfl
  | tail _ step ih => exact sound_of_use hf ih step

/-- **Reuse changes no answer.**  Take an engine that was new at the start, and anything that was done
with it and around it since then.  A check that is a success answers the truth about the current
contents of its files, in their order, which is what a new engine with the same fingerprint answers
when its check is a success.  A check of single files that was cancelled answers the same for those
files whose contents were known before. -/
theorem check_eq_fresh (hf : Faithful shell tool truth) (hstart : start.bench tool.name = .empty)
    (hused : ReflTransGen (Used shell tool) start world) {files : List String} {token : Nat} {result : EngineResult τ}
    (hcheck : Change.on ((Engine.ofTool shell tool).check files token) world = (.result result, after)) :
    ∃ targets, world.disk.normalizeAll files = .ok targets ∧ result.success = !result.cancelled ∧
      (result.success = true →
        result.issues = targets.flatMap (truth (world.bench tool.name).fingerprint (world.disk.contentsOf targets)) ∧
        ∀ (other after' : World τ σ) (token' : Nat) (result' : EngineResult τ), other.disk = world.disk →
          other.bench tool.name = .fresh (world.bench tool.name).fingerprint →
          Change.on ((Engine.ofTool shell tool).check files token') other = (.result result', after') →
          result'.success = true → result.issues = result'.issues) ∧
      (result.cancelled = true → tool.kind.isPerFile = true →
        result.issues = (targets.filter fun file =>
          (world.bench tool.name).contents file == some (world.disk.digest file)).flatMap
            (truth (world.bench tool.name).fingerprint (world.disk.contentsOf targets))) := by
  obtain ⟨targets, htargets, hanswer⟩ :=
    (Tool.check_ok hf (sound_of_used hf hstart hused) files token).2 result after (Engine.check_ok_iff.mp hcheck)
  refine ⟨targets, htargets, hanswer.success, fun hsuccess => ?_, hanswer.part⟩
  have hwhole := hanswer.whole (by simpa [hanswer.success] using hsuccess)
  refine ⟨hwhole, fun other after' token' result' hdisk hfresh hcheck' hsuccess' => ?_⟩
  have hsound : (other.bench tool.name).Sound truth := by
    rw [hfresh]
    exact Workbench.Sound.of_nil rfl
  obtain ⟨targets', htargets', hanswer'⟩ :=
    (Tool.check_ok hf hsound files token').2 result' after' (Engine.check_ok_iff.mp hcheck')
  rw [hdisk, htargets] at htargets'
  cases htargets'
  have hwhole' := hanswer'.whole (by simpa [hanswer'.success] using hsuccess')
  rw [hwhole, hwhole', hfresh, hdisk]
  rfl

end

/-! ### A formatter that is asked twice -/

namespace Untidy

/-- A disk with one file. -/
def disk : Disk := { Disk.empty [] [] with files := [("/a", Digest.textBytes "x=1")] }

/-- The formatter. -/
def formatter : Tool := Tool.make .format none .standard none none 1000

/-- What it finds. -/
def finding : Issue where
  kind := .format
  severity := .warning
  file := "/a"
  line := 1
  column := 1
  endLine := none
  endColumn := none
  rule := some "format"
  message := "File is not formatted"
  suggestion := some "Run the formatter to rewrite the file"
  tool := some "ruff-format"

/-- What it prints. -/
def printed : Completed := ⟨1, "Would reformat: /a\n", ""⟩

/-- A shell that knows how to look at the one file of that disk. -/
def shell : Shell Rat Unit := fun command _ => do
  if command.arguments = formatter.checkCommand ["/a"] (Path.rooted []) ∧ (← get).disk = disk then return printed
  else throw (.toolMissing "ruff" none)

/-- The finding is the truth about the contents of that file. -/
def truth : Truth := fun _ contents file =>
  if file = "/a" ∧ contents file = some (disk.digest "/a") then [finding] else []

theorem on_shell (command : Command) (token : Option Nat) (world : World Rat Unit) :
    (shell command token).on world =
      if command.arguments = formatter.checkCommand ["/a"] (Path.rooted []) ∧ world.disk = disk then (.ok printed, world)
      else (.error (.toolMissing "ruff" none), world) := by
  unfold shell
  rw [Act.on_bind_of_ok (Act.on_get world)]
  split <;> rfl

-- What names hold, and what a disk holds, is evaluated by equations: unfolding texts is slow.
attribute [local irreducible] Path.hasNul Disk.isDirectory Disk.present

theorem issues_printed : formatter.checkIssues disk printed = .ok [finding] := by
  cbv

theorem faithful : Faithful shell formatter truth where
  alone _ fingerprint contents contents' file h := by simp only [truth, h]
  apart command token world := by
    rw [on_shell]
    split <;> rfl
  checks {asked caches token world after completed found} hrun _ hissues file hfile := by
    rw [on_shell] at hrun
    by_cases hknown : formatter.checkCommand asked caches = formatter.checkCommand ["/a"] (Path.rooted []) ∧
        world.disk = disk
    · rw [if_pos hknown] at hrun
      obtain ⟨hsame, hdisk⟩ := hknown
      have hasked : asked = ["/a"] := by
        simpa [formatter, Tool.make, Tool.checkCommand, EngineConfig.standard] using hsame
      subst hasked
      cases hrun
      rw [hdisk, issues_printed] at hissues
      cases hissues
      rw [List.mem_singleton.mp hfile, hdisk]
      simp [truth, finding, Disk.contentsOf]
    · rw [if_neg hknown] at hrun
      cases hrun
  fixes {targets arguments token world after completed found} hcommand hrun _ _ _ _ := by
    rw [on_shell, if_neg] at hrun
    · cases hrun
    · rintro ⟨hsame, -⟩
      simp only [formatter, Tool.make, Tool.fixCommand, Except.ok.injEq] at hcommand
      rw [← hcommand] at hsame
      simp [formatter, Tool.make, Tool.checkCommand, EngineConfig.standard] at hsame

/-- The world in which the formatter was bound to a fingerprint and asked once. -/
def asked : World Rat Unit :=
  (Change.on ((Engine.ofTool shell formatter).call .check ["/a"] 0)
    (Change.on ((Engine.ofTool shell formatter).prepare "settings") (World.still disk ())).2).2

/-- A formatter that is asked for the second time answers what it found. -/
theorem check_eq_fresh_formatter :
    ∃ world result after, ReflTransGen (Used shell formatter) (World.still disk ()) world ∧
      Change.on ((Engine.ofTool shell formatter).check ["/a"] 0) world = (.result result, after) ∧
      result.success = true ∧ result.issues = [finding] := by
  have hnormal : disk.normalizeAll ["/a"] = .ok ["/a"] := by
    cbv
  have hasked : ReflTransGen (Used shell formatter) (World.still disk ()) asked :=
    (ReflTransGen.refl.tail (.prepared _ "settings")).tail (.called _ .check ["/a"] 0)
  have hused : ReflTransGen (Used shell formatter) (World.still disk ())
      { World.still disk () with benches := asked.benches } := hasked.tail (.meanwhile rfl)
  obtain ⟨result, after, hcheck, hsuccess⟩ :
      ∃ result after, (formatter.check shell ["/a"] 0).on { World.still disk () with benches := asked.benches } =
        (.ok result, after) ∧ result.success = true := by
    refine Tool.check_returns (sound_of_used faithful rfl hused) hnormal fun asked caches called hsub hsome hdisk => ?_
    have hasked : asked = ["/a"] := by
      rcases List.sublist_cons_iff.mp hsub with h | ⟨rest, rfl, h⟩
      · exact absurd (List.sublist_nil.mp h) hsome
      · rw [List.sublist_nil.mp h]
    have hon := on_shell ⟨formatter.checkCommand asked caches, formatter.directory⟩ (some 0) called
    rw [if_pos ⟨by rw [hasked]; rfl, hdisk⟩] at hon
    refine ⟨printed, called, [finding], hon, rfl, rfl, ?_⟩
    rw [hdisk]
    exact issues_printed
  have hreply := Engine.check_ok_iff.mpr hcheck
  obtain ⟨targets, htargets, -, hwhole, -⟩ := check_eq_fresh faithful rfl hused hreply
  refine ⟨_, result, after, hused, hreply, hsuccess, ?_⟩
  have hsame : targets = ["/a"] := (Except.ok.inj (hnormal.symm.trans htargets)).symm
  rw [(hwhole hsuccess).1, hsame]
  simp [truth, Disk.contentsOf, World.still]

end Untidy

end FixFirst
