import FixFirst.Proofs.Findings.Layouts
import FixFirst.Proofs.Session.Unchanged

/-!
# What a format check reports

A formatter that exits with one has found files that are not formatted.  A check fails if no such file can be
read off the output.  It looks for one among all issues that were read, while its answer has only the
issues in the files that it was asked about: of those that the tool looked at now, what the output says, and of
the others, what the session knows.  So the answer can be a success without an issue, where the output names
other files only.  Where the output cannot be read at all, the check fails in another way.

## Main definitions

* `World.unknown` — the files that a tool with one session for all files is asked about.
* `Shell.FindsUnformatted` — a formatter that exits with one.
* `Reported` — whether the outcome of a check tells of files that are not formatted.
* `Telling` — whether what was printed names one of the files, or none at all.

## Main statements

* `filed_of_used` — whatever is done with an engine, its entries are about their own files.
* `telling_iff` — which outputs are telling.
* `unformatted_reported_iff` — a check reports what it found exactly if the output is telling.
* `unformatted_unreported` — a check that is a success without an issue, though the formatter exited with one.
-/

namespace FixFirst

open Findings
open Relation (ReflTransGen)

variable {τ σ : Type}

/-! ### Entries about their own files -/

namespace Workbench

variable {bench : Workbench}

/-- Whether the issues of each entry are in its own file, in all sessions. -/
def Filed (bench : Workbench) : Prop := ∀ session ∈ bench.sessions, session.Filed

theorem Filed.prepare (h : bench.Filed) (fingerprint : String) : (bench.prepare fingerprint).Filed := by
  unfold Workbench.prepare
  split
  · split
    · exact h
    · exact fun session hin => absurd hin List.not_mem_nil
  · exact h

theorem Filed.update (h : bench.Filed) {change : Session → Session}
    (hchange : ∀ session, session.Filed → (change session).Filed) : (bench.update change).Filed := by
  obtain ⟨changed, hsessions, hchanged⟩ := sessions_update bench change
  intro session hin
  rw [hsessions] at hin
  obtain ⟨old, hold, rfl⟩ := List.mem_map.mp hin
  rcases hchanged old with heq | heq
  · rw [heq]
    exact hchange old (h old hold)
  · rw [heq]
    exact h old hold

theorem Filed.focusOn (h : bench.Filed) (shared : Bool) (directory : Path) (files : List String) :
    (bench.focusOn shared directory files).Filed := by
  intro session hin
  rcases mem_focusOn hin with hold | rfl | ⟨-, old, hold, rfl⟩
  · exact h session hold
  · exact Session.filed_new bench.fingerprint files directory
  · exact h old hold

end Workbench

section

variable [Quantity τ] {shell : Shell τ σ} {tool : Tool} {start world after : World τ σ}

/-- One use of an engine leaves the entries about their own files. -/
theorem filed_of_use (hspares : shell.Spares tool.name) (horderly : (world.bench tool.name).Orderly)
    (h : (world.bench tool.name).Filed) (huse : Used shell tool world after) : (after.bench tool.name).Filed := by
  rcases huse.bench_cases hspares horderly.few with
    ⟨fingerprint, hbench⟩ | hbench | ⟨targets, change, _, _, hkeeps, hbench⟩ | hbench
  · exact hbench ▸ h.prepare fingerprint
  · exact hbench ▸ fun session hin => absurd hin List.not_mem_nil
  · exact hbench ▸ (h.focusOn _ _ targets).update hkeeps.filed
  · exact hbench ▸ h

/-- Whatever is done with an engine, its entries are about their own files. -/
theorem filed_of_used (hspares : shell.Spares tool.name) (hstart : start.bench tool.name = .empty)
    (hused : ReflTransGen (Used shell tool) start world) : (world.bench tool.name).Filed := by
  induction hused with
  | refl =>
      rw [hstart]
      exact fun session hin => absurd hin List.not_mem_nil
  | tail hbefore huse ih => exact filed_of_use hspares (orderly_of_used hspares hstart hbefore) ih huse

end

/-! ### Outputs that cannot be read -/

/-- Whether what came of something is not the failure of an engine. -/
def Unfailing {α : Type} (outcome : Except Fault α) : Prop :=
  ∀ engine message status, outcome ≠ .error (.engineFailure engine message status)

namespace Unfailing

variable {α β : Type}

theorem ok (value : α) : Unfailing (.ok value) := fun _ _ _ h => by cases h

theorem bind {first : Except Fault α} {next : α → Except Fault β} (h : Unfailing first)
    (hnext : ∀ value, Unfailing (next value)) : Unfailing (first >>= next) := by
  cases first with
  | ok value => exact hnext value
  | error fault =>
      intro engine message status hfault
      cases hfault
      exact h _ _ _ rfl

theorem mapM {f : α → Except Fault β} (h : ∀ item, Unfailing (f item)) (items : List α) : Unfailing (items.mapM f) := by
  induction items with
  | nil => exact ok []
  | cons item rest ih =>
      rw [List.mapM_cons]
      exact (h item).bind fun value => ih.bind fun values => ok _

theorem normalizePath (disk : Disk) (path : Path) : Unfailing (disk.normalizePath path) := by
  have hhome : Unfailing (disk.expandHome path) := by
    intro engine message status h
    unfold Disk.expandHome at h
    repeat' split at h
    all_goals cases h
  unfold Disk.normalizePath
  refine hhome.bind fun expanded => ?_
  split
  · exact ok _
  · exact fun _ _ _ h => by cases h
  · exact ok _

theorem issue (disk : Disk) (finding : Finding) : Unfailing (finding.issue disk) := by
  have hnormal := normalizePath disk finding.file
  have hfinish : ∀ (problems : List Problem) (issue : Issue),
      Unfailing (if problems.isEmpty then .ok issue else .error (.invalid "Issue" problems)) := by
    intro problems issue engine message status h
    split at h <;> cases h
  intro engine message status h
  unfold Finding.issue at h
  simp only at h
  split at h
  · exact hfinish _ _ _ _ _ h
  · exact hfinish _ _ _ _ _ h
  · cases h
    exact hnormal _ _ _ (by assumption)

theorem wholeNumber (text : List Char) : Unfailing (Findings.wholeNumber text) := by
  intro engine message status h
  unfold Findings.wholeNumber at h
  simp only at h
  split at h
  · cases h
  · split at h <;> cases h

/-- An output that cannot be read is not the failure of an engine. -/
theorem ofFormatOutput (disk : Disk) (cwd : Path) (tool output errors : String) :
    Unfailing (Findings.ofFormatOutput disk cwd tool output errors) := by
  rw [ofFormatOutput_eq]
  refine (mapM (fun announcement => ?_) _).bind fun found => (mapM (fun failure => ?_) _).bind fun failed => ok _
  · unfold Announcement.warning
    split
    · exact issue disk _
    · exact (wholeNumber _).bind fun row => (wholeNumber _).bind fun column => issue disk _
  · exact (wholeNumber _).bind fun row => (wholeNumber _).bind fun column => issue disk _

end Unfailing

/-! ### Reports -/

/-- The files whose contents a tool with one session for all files does not know. -/
def World.unknown (world : World τ σ) (engine : String) (files : List String) : List String :=
  files.filter fun file => !((world.bench engine).contents file == some (world.disk.digest file))

/-- Whether an issue says that one of some files is not formatted. -/
def Issue.unformatted (files : List String) (issue : Issue) : Prop := issue.rule = some formatRule ∧ issue.file ∈ files

/-- Whether the outcome of a check tells of files that are not formatted: the engine failed, or there is an issue on
one of them. -/
def Reported (files : List String) (outcome : Except Fault (EngineResult τ)) : Prop :=
  (∃ engine message status, outcome = .error (.engineFailure engine message status)) ∨
    ∃ result, outcome = .ok result ∧ ∃ issue ∈ result.issues, issue.unformatted files

/-- Whether what was printed can be read, and names one of some files as not formatted, or no file at all. -/
def Telling (files : List String) (printed : Except Fault (List Issue)) : Prop :=
  ∃ found, printed = .ok found ∧
    ((∀ issue ∈ found, issue.rule ≠ some formatRule) ∨ ∃ issue ∈ found, issue.unformatted files)

/-- What a check fails with when nothing was read about files that are not formatted. -/
def Tool.unrecognised (tool : Tool) (status : Int) : Fault :=
  .engineFailure tool.name "reported unformatted files in an unrecognised output format" (some status)

/-- Whether a formatter that is asked about some files exits with one, and leaves the disk and the memory of the
engine alone. -/
structure Shell.FindsUnformatted (shell : Shell τ σ) (tool : Tool) (disk : Disk) (asked : List String) (token : Nat)
    (completed : Completed) : Prop where
  formats : tool.kind = .format
  status : completed.status = 1
  spares : shell.Spares tool.name
  prints : ∀ caches (called : World τ σ), called.disk = disk → ∃ after,
    (shell ⟨tool.checkCommand asked caches, tool.directory⟩ (some token)).on called = (.ok completed, after) ∧
      after.disk = disk

/-- What a check makes of an output that can be read. -/
theorem Tool.checkIssues_of_format {tool : Tool} (hkind : tool.kind = .format) {disk : Disk} {completed : Completed}
    (hstatus : completed.status = 1) {found : List Issue} (hfound : tool.issues disk completed = .ok found) :
    tool.checkIssues disk completed =
      if ∃ issue ∈ found, issue.rule = some formatRule then .ok found else .error (tool.unrecognised 1) := by
  unfold Tool.checkIssues
  rw [hfound]
  by_cases hany : ∃ issue ∈ found, issue.rule = some formatRule
  · have htest : (found.any fun issue => issue.rule == some formatRule) = true := by simpa using hany
    rw [if_pos hany]
    simp [bind, Except.bind, pure, Except.pure, htest]
  · have htest : (found.any fun issue => issue.rule == some formatRule) = false := by simpa using hany
    rw [if_neg hany]
    simp [bind, Except.bind, htest, hkind, hstatus, Tool.unrecognised, throw, throwThe, MonadExceptOf.throw]

/-- What the session answers after a report was noted: of the files that the tool was asked about, what was reported,
and of the others, what was known. -/
theorem Session.mem_cached_noting {session : Session} {disk : Disk} {targets asked : List String} {found : List Issue}
    {issue : Issue} (hasked : ∀ file ∈ asked, file ∈ targets) :
    issue ∈ (Tool.noting disk targets asked found session).cached targets ↔
      (issue ∈ found ∧ issue.file ∈ asked) ∨
        ∃ file ∈ targets, file ∉ asked ∧ ∃ entry, session.entries.get? file = some entry ∧ issue ∈ entry.issues := by
  have hentry : ∀ file ∈ targets, (Tool.noting disk targets asked found session).entries.get? file =
      if file ∈ asked then some ⟨disk.digest file, found.filter fun issue => issue.file == file⟩
      else session.entries.get? file := by
    intro file hfile
    refine (Session.get?_record ..).trans ?_
    simp [List.mem_filter, hfile]
  unfold Session.cached
  rw [List.mem_flatMap]
  constructor
  · rintro ⟨file, hfile, hin⟩
    rw [hentry file hfile] at hin
    by_cases hnow : file ∈ asked
    · simp only [if_pos hnow, Option.map_some, Option.getD_some, List.mem_filter, beq_iff_eq] at hin
      exact Or.inl ⟨hin.1, hin.2 ▸ hnow⟩
    · rw [if_neg hnow] at hin
      cases hknown : session.entries.get? file with
      | none => simp [hknown] at hin
      | some entry => exact Or.inr ⟨file, hfile, hnow, entry, hknown, by simpa [hknown] using hin⟩
  · rintro (⟨hin, hnow⟩ | ⟨file, hfile, hnow, entry, hknown, hin⟩)
    · refine ⟨issue.file, hasked _ hnow, ?_⟩
      rw [hentry _ (hasked _ hnow), if_pos hnow]
      simpa using hin
    · refine ⟨file, hfile, ?_⟩
      rw [hentry file hfile, if_neg hnow, hknown]
      exact hin

section

variable [Quantity τ] {shell : Shell τ σ} {tool : Tool} {world : World τ σ} {files targets : List String} {token : Nat}
  {completed : Completed}

/-- What comes of a check when the formatter exits with one. -/
theorem Shell.FindsUnformatted.on_check
    (h : shell.FindsUnformatted tool world.disk (world.unknown tool.name targets) token completed)
    (hn : world.disk.normalizeAll files = .ok targets) (hsome : world.unknown tool.name targets ≠ []) :
    ∃ session : Session, ((world.bench tool.name).Filed → session.Filed) ∧
      (∀ fault, tool.checkIssues world.disk completed = .error fault →
        ((tool.check shell files token).on world).1 = .error fault) ∧
      ∀ found, tool.checkIssues world.disk completed = .ok found →
        ∃ result, ((tool.check shell files token).on world).1 = .ok result ∧ result.success = true ∧
          result.issues = (Tool.noting world.disk targets (world.unknown tool.name targets) found session).cached targets := by
  have hshared : tool.kind.isPerFile = true := by
    rw [h.formats]
    rfl
  have haccepts : tool.accepts completed = true := by simp [Tool.accepts, h.status]
  obtain ⟨session, hfocused⟩ := Workbench.focused_shared (world.bench tool.name)
    (tool.cacheDirectory (world.bench tool.name).fingerprint) targets
  have hstale : (targets.filter fun file => !(session.contents file == some (world.disk.digest file))) =
      world.unknown tool.name targets := by
    rw [World.unknown, hfocused.known rfl]
  have hopened : tool.focused targets (world.bench tool.name) = (world.bench tool.name).focusOn true
      (tool.cacheDirectory (world.bench tool.name).fingerprint) targets := by rw [Tool.focused, hshared]
  have hown : Workbench.Focused (world.bench tool.name) tool.kind.isPerFile targets
      (tool.focused targets (world.bench tool.name)) session := by
    rw [hopened, hshared]
    exact hfocused
  have hcheck := Tool.on_check_of_focused shell hn hown token
  let opened : World τ σ := { world with
    benches := world.benches.put tool.name (tool.focused targets (world.bench tool.name)) }
  obtain ⟨after, hprints, hdisk⟩ := h.prints session.directory (opened.noted
    [.command (tool.checkCommand (world.unknown tool.name targets) session.directory) (tool.directory.map Path.text)]) rfl
  have hafter : (after.bench tool.name).current? = some session := by
    have hapart := h.spares ⟨tool.checkCommand (world.unknown tool.name targets) session.directory, tool.directory⟩
      (some token) (opened.noted [.command (tool.checkCommand (world.unknown tool.name targets) session.directory)
        (tool.directory.map Path.text)])
    rw [hprints] at hapart
    have hbench : opened.bench tool.name = tool.focused targets (world.bench tool.name) := World.bench_put world _ _
    rw [hapart, ← hfocused.current, ← hopened, ← hbench]
    rfl
  have hshell : (shell ⟨tool.checkCommand (if tool.kind.isPerFile then world.unknown tool.name targets else targets)
      session.directory, tool.directory⟩ (some token)).on
        (opened.noted [.command (tool.checkCommand (if tool.kind.isPerFile then world.unknown tool.name targets else
          targets) session.directory) (tool.directory.map Path.text)]) = (.ok completed, after) := by
    rw [if_pos hshared]
    exact hprints
  have hlook := Tool.on_look_of_completed hshell haccepts (targets.map fun file => (file, world.disk.digest file))
    world.clock.now
  rw [hstale, if_neg fun hnone => hsome (List.isEmpty_iff.mp hnone), hlook, if_pos hshared] at hcheck
  refine ⟨session, fun hfiled => ?_, fun fault hfault => ?_, fun found hfound => ?_⟩
  · exact hfiled.focusOn true _ targets session (Workbench.mem_of_current? hfocused.current)
  · rw [hcheck, Tool.on_note_error (hdisk ▸ hfault)]
  · rw [hcheck, Tool.on_note hafter world.disk targets _ (hdisk ▸ hfound)]
    exact ⟨_, rfl, rfl, rfl⟩

omit [Quantity τ] in
/-- Which outputs are telling: those that can be read to the end, and name one of the files or none at all. -/
theorem telling_iff (hkind : tool.kind = .format) {disk : Disk} (hdisk : disk.Legible)
    (hview : (tool.viewpoint disk).Legible)
    (hwarned : ∀ announcement ∈ warnedOf completed.output, Legible (String.ofList announcement.path))
    (hfailed : ∀ failure ∈ failuresOf completed.errors, Legible (String.ofList failure.path)) :
    Telling files (tool.issues disk completed) ↔
      (∀ announcement ∈ warnedOf completed.output,
        Readable disk (tool.viewpoint disk) announcement.path announcement.position) ∧
      (∀ failure ∈ failuresOf completed.errors, Readable disk (tool.viewpoint disk) failure.path (some failure.position)) ∧
      (warnedOf completed.output = [] ∨ ∃ announcement ∈ warnedOf completed.output,
        (announcement.told disk (tool.viewpoint disk) tool.name).file ∈ files) := by
  generalize hwarnings : (warnedOf completed.output).map (·.told disk (tool.viewpoint disk) tool.name) = warnings
  have hrule : ∀ issue ∈ warnings, issue.rule = some formatRule := by
    rw [← hwarnings, List.forall_mem_map]
    exact fun announcement _ => rfl
  have hfirst : ∀ issue ∈ firstOfFile warnings, issue ∈ warnings := by
    intro issue hin
    obtain ⟨before, after, hsplit, -⟩ := first_of_mem_firstOfFile hin
    exact hsplit ▸ List.mem_append_right _ List.mem_cons_self
  have hfiles : ∀ file, (∃ issue ∈ firstOfFile warnings, issue.file = file) ↔ ∃ issue ∈ warnings, issue.file = file := by
    intro file
    have hmem := mem_firsts (warnings.map Issue.file) file
    rw [← files_firstOfFile, List.mem_map, List.mem_map] at hmem
    exact hmem
  have hother : ∀ issue ∈ (failuresOf completed.errors).map (·.told disk (tool.viewpoint disk) tool.name),
      issue.rule ≠ some formatRule := by
    rw [List.forall_mem_map]
    exact fun failure _ h => by cases h
  have hissues : ∀ found, tool.issues disk completed = .ok found ↔ _ := fun found => by
    unfold Tool.issues
    simp only [hkind]
    exact ofFormatOutput_ok_iff hdisk hview hwarned hfailed
  unfold Telling
  simp only [hissues, hwarnings]
  constructor
  · rintro ⟨found, ⟨hreadable, hreadable', rfl⟩, hnone | ⟨issue, hin, hunformatted⟩⟩
    · refine ⟨hreadable, hreadable', Or.inl ?_⟩
      by_contra hsome
      obtain ⟨announcement, hannounced⟩ := List.exists_mem_of_ne_nil _ hsome
      obtain ⟨issue, hin, -⟩ := (hfiles _).mpr ⟨_, hwarnings ▸ List.mem_map_of_mem hannounced, rfl⟩
      exact hnone issue (List.mem_append_left _ hin) (hrule issue (hfirst issue hin))
    · refine ⟨hreadable, hreadable', Or.inr ?_⟩
      rcases List.mem_append.mp hin with hwarning | hfailure
      · obtain ⟨announcement, hannounced, rfl⟩ := List.mem_map.mp (hwarnings ▸ hfirst issue hwarning)
        exact ⟨announcement, hannounced, hunformatted.2⟩
      · exact absurd hunformatted.1 (hother issue hfailure)
  · rintro ⟨hreadable, hreadable', hnone | ⟨announcement, hannounced, hfile⟩⟩
    · refine ⟨_, ⟨hreadable, hreadable', rfl⟩, Or.inl fun issue hin => ?_⟩
      rw [← hwarnings, hnone] at hin
      exact hother issue hin
    · refine ⟨_, ⟨hreadable, hreadable', rfl⟩, Or.inr ?_⟩
      obtain ⟨issue, hin, hsame⟩ := (hfiles _).mpr ⟨_, hwarnings ▸ List.mem_map_of_mem hannounced, rfl⟩
      exact ⟨issue, List.mem_append_left _ hin, hrule issue (hfirst issue hin), hsame ▸ hfile⟩

/-- **A check reports what the formatter found if the output is telling, and only then.**  The formatter exits with
one when it is asked about the files whose contents are not known.  Whatever the session knows of the others, the check
then fails as an engine, or has an issue on one of the files that were asked about, if the output can be read and
names one of them, or no file at all.  If the output is another one, the check does neither, in any state in which
entries are about their own files.  Where no name has a NUL, an output can be read if each number is short enough
and no file is named by way of the home directory of a user who does not exist. -/
theorem unformatted_reported_iff
    (h : shell.FindsUnformatted tool world.disk (world.unknown tool.name targets) token completed)
    (hn : world.disk.normalizeAll files = .ok targets) (hsome : world.unknown tool.name targets ≠ []) :
    let asked := world.unknown tool.name targets
    let printed := tool.issues world.disk completed
    let outcome := ((tool.check shell files token).on world).1
    let cwd := tool.viewpoint world.disk
    (Telling asked printed → Reported asked outcome) ∧
    ((world.bench tool.name).Filed → Reported asked outcome → Telling asked printed) ∧
    (world.disk.Legible → cwd.Legible →
      (∀ announcement ∈ warnedOf completed.output, Legible (String.ofList announcement.path)) →
      (∀ failure ∈ failuresOf completed.errors, Legible (String.ofList failure.path)) →
      (Telling asked printed ↔
        (∀ announcement ∈ warnedOf completed.output, Readable world.disk cwd announcement.path announcement.position) ∧
        (∀ failure ∈ failuresOf completed.errors, Readable world.disk cwd failure.path (some failure.position)) ∧
        (warnedOf completed.output = [] ∨
          ∃ announcement ∈ warnedOf completed.output, (announcement.told world.disk cwd tool.name).file ∈ asked))) := by
  intro asked printed outcome cwd
  obtain ⟨session, hfiled, hfails, hanswers⟩ := h.on_check hn hsome
  have hasked : ∀ file ∈ asked, file ∈ targets := fun file hin => (List.mem_filter.mp hin).1
  refine ⟨?_, fun hbench hreported => ?_, fun hdisk hview hwarned hfailed => telling_iff h.formats hdisk hview hwarned hfailed⟩
  · rintro ⟨found, hfound, hnone | ⟨issue, hin, hunformatted⟩⟩
    · have hchecked := Tool.checkIssues_of_format h.formats h.status hfound
      rw [if_neg fun ⟨issue, hin, hrule⟩ => hnone issue hin hrule] at hchecked
      exact Or.inl ⟨_, _, _, hfails _ hchecked⟩
    · have hchecked := Tool.checkIssues_of_format h.formats h.status hfound
      rw [if_pos ⟨issue, hin, hunformatted.1⟩] at hchecked
      obtain ⟨result, hresult, -, hissues⟩ := hanswers found hchecked
      refine Or.inr ⟨result, hresult, issue, ?_, hunformatted⟩
      rw [hissues, Session.mem_cached_noting hasked]
      exact Or.inl ⟨hin, hunformatted.2⟩
  · cases hprinted : printed with
    | error fault =>
        -- The output cannot be read: the check fails, but not as an engine.
        have hchecked : tool.checkIssues world.disk completed = .error fault := by
          unfold Tool.checkIssues
          rw [show tool.issues world.disk completed = .error fault from hprinted]
          rfl
        have houtcome : outcome = .error fault := hfails fault hchecked
        rcases hreported with ⟨engine, message, status, hfailure⟩ | ⟨result, hresult, -⟩
        · rw [houtcome] at hfailure
          cases hfailure
          have hparsed : ofFormatOutput world.disk cwd tool.name completed.output completed.errors = printed := by
            simp only [printed, Tool.issues, h.formats]
            rfl
          exact absurd (hparsed.trans hprinted) (Unfailing.ofFormatOutput _ _ _ _ _ _ _ _)
        · cases houtcome.symm.trans hresult
    | ok found =>
        refine ⟨found, rfl, ?_⟩
        by_cases hany : ∃ issue ∈ found, issue.rule = some formatRule
        · have hchecked := Tool.checkIssues_of_format h.formats h.status hprinted
          rw [if_pos hany] at hchecked
          obtain ⟨result, hresult, -, hissues⟩ := hanswers found hchecked
          rcases hreported with ⟨engine, message, status, hfailure⟩ | ⟨result', hresult', issue, hin, hunformatted⟩
          · cases hresult.symm.trans hfailure
          · cases hresult.symm.trans hresult'
            rw [hissues, Session.mem_cached_noting hasked] at hin
            rcases hin with ⟨hin, -⟩ | ⟨file, -, hnot, entry, hentry, hin⟩
            · exact Or.inr ⟨issue, hin, hunformatted⟩
            · -- What is known of a file that was not asked about is about that file.
              have hown := hfiled hbench file entry hentry issue hin
              exact absurd (hown ▸ hunformatted.2) hnot
        · exact Or.inl fun issue hin hrule => hany ⟨issue, hin, hrule⟩

end

/-! ### A formatter that names another file -/

namespace Wayward

open Untidy (disk finding)

/-- A shell in which every command exits with one and prints a text. -/
def shell (output : String) : Shell Rat Unit := fun _ _ => return ⟨1, output, ""⟩

theorem findsUnformatted (asked : List String) (output : String) :
    (shell output).FindsUnformatted Untidy.formatter disk asked 0 ⟨1, output, ""⟩ where
  formats := rfl
  status := rfl
  spares _ _ _ := rfl
  prints _ called hdisk := ⟨called, rfl, hdisk⟩

-- What names hold, and what a disk holds, is evaluated by equations: unfolding texts is slow.
attribute [local irreducible] Path.hasNul Disk.isDirectory Disk.present

theorem normal : disk.normalizeAll ["/a"] = .ok ["/a"] := by
  cbv

theorem unknown : (World.still disk ()).unknown Untidy.formatter.name ["/a"] = ["/a"] := rfl

/-- The formatter names the file that it was asked about. -/
theorem unformatted_reported_iff_own :
    Reported ["/a"] ((Untidy.formatter.check (shell "Would reformat: /a\n") ["/a"] 0).on (World.still disk ())).1 := by
  have hprinted : Untidy.formatter.issues disk ⟨1, "Would reformat: /a\n", ""⟩ = .ok [finding] := by
    cbv
  have htelling : Telling ["/a"] (Untidy.formatter.issues disk ⟨1, "Would reformat: /a\n", ""⟩) :=
    ⟨[finding], hprinted, Or.inr ⟨finding, List.mem_singleton_self _, rfl, List.mem_singleton_self _⟩⟩
  have hfinds : (shell "Would reformat: /a\n").FindsUnformatted Untidy.formatter (World.still disk ()).disk
      ((World.still disk ()).unknown Untidy.formatter.name ["/a"]) 0 ⟨1, "Would reformat: /a\n", ""⟩ := findsUnformatted _ _
  exact (unformatted_reported_iff hfinds normal (by rw [unknown]; exact List.cons_ne_nil _ _)).1 htelling

/-- The formatter exits with one and names another file: the check is a success, without an issue. -/
theorem unformatted_unreported :
    ∃ result, ((Untidy.formatter.check (shell "Would reformat: /b\n") ["/a"] 0).on (World.still disk ())).1 = .ok result ∧
      result.success = true ∧ result.issues = [] ∧
      ¬ Reported ["/a"] ((Untidy.formatter.check (shell "Would reformat: /b\n") ["/a"] 0).on (World.still disk ())).1 := by
  have hchecked : Untidy.formatter.checkIssues disk ⟨1, "Would reformat: /b\n", ""⟩ = .ok [{ finding with file := "/b" }] := by
    cbv
  have hfinds : (shell "Would reformat: /b\n").FindsUnformatted Untidy.formatter (World.still disk ()).disk
      ((World.still disk ()).unknown Untidy.formatter.name ["/a"]) 0 ⟨1, "Would reformat: /b\n", ""⟩ := findsUnformatted _ _
  obtain ⟨session, -, -, hanswers⟩ := hfinds.on_check normal (by rw [unknown]; exact List.cons_ne_nil _ _)
  obtain ⟨result, hresult, hsuccess, hissues⟩ := hanswers _ hchecked
  have hclean : result.issues = [] := by
    refine List.eq_nil_iff_forall_not_mem.mpr fun issue hin => ?_
    rw [hissues, unknown, Session.mem_cached_noting fun _ h => h] at hin
    rcases hin with ⟨hin, hfile⟩ | ⟨file, hfile, hnot, -⟩
    · rw [List.mem_singleton.mp hin] at hfile
      exact absurd hfile (by decide)
    · exact hnot hfile
  refine ⟨result, hresult, hsuccess, hclean, ?_⟩
  rw [hresult]
  rintro (⟨engine, message, status, hfailure⟩ | ⟨other, hother, issue, hin, -⟩)
  · cases hfailure
  · cases hother
    rw [hclean] at hin
    cases hin

end Wayward

end FixFirst
