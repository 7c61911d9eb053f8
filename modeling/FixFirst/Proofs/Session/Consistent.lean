import FixFirst.Proofs.Session.Unchanged

/-!
# Sessions that fit together

An engine notes which files it used last apart from its sessions.  Binding it to a fingerprint looks only at the
session that was used last, and then keeps or drops all of them; making room drops the oldest ones, whichever they are.
Still the sessions fit together after every use, also when a call was cancelled or failed: all are for the current
fingerprint, the one that was used last is there, and entries are about files of their session.  One session for all
files grows until it is dropped.  Where each set of files has its own, there are not too many, each is the one that is
found for its set, and it has entries for all of its files or for none.

## Main definitions

* `Session.Confined`, `Session.Whole` — which files of a session have entries.
* `Workbench.Consistent` — whether the sessions on a workbench fit together.

## Main statements

* `Workbench.Consistent.prepare`, `Workbench.Consistent.focusOn`, `Workbench.Consistent.update` — each step of a use
  leaves them so.
* `consistent_of_used` — whatever is done with an engine, its sessions fit together.
* `continued_or_dropped`, `grown_of_run` — one session for all files grows until all is dropped.
* `sessions_fit_together` — all of this, for an engine that was new at the start.
-/

namespace FixFirst

open Relation (ReflTransGen)

/-! ### Entries of a session -/

namespace Session

/-- Whether every entry is about one of the files of the session. -/
def Confined (session : Session) : Prop := ∀ file ∈ session.entries.keys, file ∈ session.files

/-- Whether there are entries for all files of the session, or there is none. -/
def Whole (session : Session) : Prop := session.entries = [] ∨ ∀ file ∈ session.files, file ∈ session.entries.keys

theorem confined_new (fingerprint : String) (files : List String) (directory : Path) :
    (new fingerprint files directory).Confined :=
  fun _ hin => absurd hin List.not_mem_nil

variable {session : Session}

theorem Confined.absorb (h : session.Confined) (files : List String) : (session.absorb files).Confined :=
  fun file hin => (mem_firsts _ file).mpr (List.mem_append_left files (h file hin))

variable {shared : Bool} {targets : List String} {before after : Disk} {change : Session → Session}

theorem Confined.of_keeps (h : session.Confined) (hkeeps : Keeps shared targets before after change)
    (hcovers : ∀ file ∈ targets, file ∈ session.files) : (change session).Confined := by
  intro file hin
  rw [hkeeps.files]
  rcases hkeeps.within session file hin with hnew | hold
  · exact hcovers file hnew
  · exact h file hold

theorem Whole.of_keeps (h : session.Whole) (hkeeps : Keeps false targets before after change)
    (hexact : ∀ file ∈ session.files, file ∈ targets) : (change session).Whole := by
  unfold Whole
  rw [hkeeps.files]
  rcases hkeeps.whole rfl with hsame | hall
  · rw [hsame]
    exact h
  · exact Or.inr fun file hfile => hall session file (hexact file hfile)

end Session

/-! ### Sessions on a workbench -/

namespace Workbench

/-- Whether the sessions fit together, where one session is for all files or each set of files has its own. -/
structure Consistent (shared : Bool) (bench : Workbench) : Prop extends bench.Orderly where
  /-- The session that was used last is there. -/
  present : ∀ files, bench.focus = some files → ∃ session ∈ bench.sessions, bench.current? = some session
  confined : ∀ session ∈ bench.sessions, session.Confined
  single : shared = true → bench.sessions.length ≤ 1
  /-- No two sessions are about the same files. -/
  apart : shared = false → bench.subjects.Pairwise fun first second => sameMembers first second = false
  whole : shared = false → ∀ session ∈ bench.sessions, session.Whole

variable {shared : Bool} {bench next : Workbench} {session : Session}

theorem Consistent.of_nil (hsessions : bench.sessions = []) (hfocus : bench.focus = none) : bench.Consistent shared where
  toOrderly := .of_nil hsessions
  present files h := by
    rw [hfocus] at h
    cases h
  confined session hin := by
    rw [hsessions] at hin
    cases hin
  single _ := by simp [hsessions]
  apart _ := by simp [subjects, hsessions]
  whole _ session hin := by
    rw [hsessions] at hin
    cases hin

/-- One session for all files is the one that was used last. -/
theorem Consistent.current?_of_mem (h : bench.Consistent true) (hin : session ∈ bench.sessions) :
    bench.current? = some session := by
  obtain ⟨current, hcurrent⟩ := h.used (List.ne_nil_of_mem hin)
  obtain ⟨only, honly⟩ := List.length_eq_one_iff.mp (Nat.le_antisymm (h.single rfl) (List.length_pos_of_mem hin))
  have hthere := mem_of_current? hcurrent
  rw [honly, List.mem_singleton] at hin hthere
  rw [hcurrent, hthere, hin]

/-- Where each set of files has its own session, looking for a set finds the session about exactly these files. -/
theorem Consistent.find?_eq_some_iff (h : bench.Consistent false) {files : List String} :
    (bench.sessions.find? fun known => sameMembers known.files files) = some session ↔
      session ∈ bench.sessions ∧ sameMembers session.files files = true := by
  constructor
  · intro hfind
    have hfound := List.find?_some hfind
    exact ⟨List.mem_of_find?_eq_some hfind, hfound⟩
  · rintro ⟨hin, habout⟩
    have hsymmetric : Std.Symm fun first second : Session => sameMembers first.files second.files = false :=
      ⟨fun first second haway => (sameMembers_comm second.files first.files).trans haway⟩
    refine find?_of_unique hin habout fun other hother hsame => ?_
    by_contra hne
    have haway := (List.pairwise_map.mp (h.apart rfl)).forall hother hin hne
    rw [(sameMembers_iff _ _).mpr fun file =>
      ((sameMembers_iff _ _).mp hsame file).trans ((sameMembers_iff _ _).mp habout file).symm] at haway
    cases haway

/-- Binding to a fingerprint leaves all sessions, or drops all of them. -/
theorem prepare_cases (bench : Workbench) (fingerprint : String) :
    bench.prepare fingerprint = { bench with fingerprint := fingerprint } ∨
      bench.prepare fingerprint = { bench with fingerprint := fingerprint, sessions := [], focus := none } := by
  unfold Workbench.prepare
  split
  · split
    · exact Or.inl rfl
    · exact Or.inr rfl
  · exact Or.inl rfl

theorem Consistent.prepare (h : bench.Consistent shared) (fingerprint : String) :
    (bench.prepare fingerprint).Consistent shared := by
  have horderly := h.toOrderly.prepare fingerprint
  rcases prepare_cases bench fingerprint with hkept | hdropped
  · rw [hkept] at horderly ⊢
    exact ⟨horderly, h.present, h.confined, h.single, h.apart, h.whole⟩
  · rw [hdropped]
    exact .of_nil rfl rfl

/-- A new session is about files that no other one is about. -/
theorem Consistent.apart_focusOn (h : bench.Consistent false) (directory : Path) (files : List String) :
    (bench.focusOn false directory files).subjects.Pairwise fun first second => sameMembers first second = false := by
  cases hfind : bench.sessions.find? fun session => sameMembers session.files files with
  | some found =>
      rw [h.toOrderly.focusOn_found directory hfind]
      exact h.apart rfl
  | none =>
      unfold subjects
      rw [focusOn_missing bench directory hfind, List.map_drop, List.map_append]
      refine List.Pairwise.drop (List.pairwise_append.mpr ⟨h.apart rfl, List.pairwise_singleton .., ?_⟩)
      intro subject hsubject fresh hfresh
      obtain ⟨old, hold, rfl⟩ := mem_subjects.mp hsubject
      rw [List.mem_singleton.mp hfresh]
      have haway := Bool.eq_false_of_not_eq_true (List.find?_eq_none.mp hfind old hold)
      exact (congrFun (sameMembers_congr (mem_firsts files)) old).trans haway

/-- Focusing on files makes the session for them the one that was used last. -/
theorem Consistent.focusOn (h : bench.Consistent shared) (directory : Path) (files : List String) :
    (bench.focusOn shared directory files).Consistent shared := by
  obtain ⟨session, hfocused⟩ := focused h.few shared directory files
  refine ⟨h.toOrderly.focusOn shared directory files, fun _ _ => ?_, fun other hin => ?_, fun hshared => ?_,
    fun hown => ?_, fun hown other hin => ?_⟩
  · exact ⟨session, mem_of_current? hfocused.current, hfocused.current⟩
  · rcases mem_focusOn hin with hold | rfl | ⟨-, old, hold, rfl⟩
    · exact h.confined other hold
    · exact Session.confined_new _ _ _
    · exact (h.confined old hold).absorb files
  · subst hshared
    obtain ⟨only, honly⟩ := sessions_focusOn_shared bench directory files
    simp [honly]
  · subst hown
    exact h.apart_focusOn directory files
  · rcases mem_focusOn hin with hold | rfl | ⟨hshared, -⟩
    · exact h.whole hown other hold
    · exact Or.inl rfl
    · rw [hown] at hshared
      cases hshared

/-- So does what a call does to the session for its files. -/
theorem Consistent.update {targets : List String} {before after : Disk} {change : Session → Session}
    (h : next.Consistent shared) (hfocused : Focused bench shared targets next session)
    (hkeeps : Session.Keeps shared targets before after change) : (next.update change).Consistent shared := by
  have hcurrent := hfocused.current
  refine ⟨h.toOrderly.update hkeeps.files hkeeps.fingerprint, fun _ _ => ?_, fun other hin => ?_, fun hshared => ?_,
    fun hown => ?_, fun hown other hin => ?_⟩
  · have hafter : (next.update change).current? = some (change session) := by
      rw [current?_update hkeeps.files, hcurrent]
      rfl
    exact ⟨_, mem_of_current? hafter, hafter⟩
  · rcases mem_update hcurrent hin with hold | ⟨old, hold, hmembers, rfl⟩
    · exact h.confined other hold
    · exact (h.confined old hold).of_keeps hkeeps fun file hfile => (hmembers file).mpr (hfocused.covers file hfile)
  · obtain ⟨changed, hsessions, -⟩ := sessions_update next change
    rw [hsessions, List.length_map]
    exact h.single hshared
  · rw [subjects_update hkeeps.files]
    exact h.apart hown
  · subst hown
    -- What changes is about the files of the call exactly, so entries for all of these are entries for all of its files.
    rcases mem_update hcurrent hin with hold | ⟨old, hold, hmembers, rfl⟩
    · exact h.whole rfl other hold
    · exact (h.whole rfl old hold).of_keeps hkeeps fun file hfile => hfocused.exact rfl file ((hmembers file).mp hfile)

end Workbench

/-! ### Uses of an engine -/

section

variable {τ σ : Type} [Quantity τ] {shell : Shell τ σ} {tool : Tool} {start world after : World τ σ}

/-- One use of an engine leaves its sessions fitting together. -/
theorem consistent_of_use (hspares : shell.Spares tool.name) (h : (world.bench tool.name).Consistent tool.kind.isPerFile)
    (huse : Used shell tool world after) : (after.bench tool.name).Consistent tool.kind.isPerFile := by
  rcases huse.bench_cases hspares h.few with
    ⟨fingerprint, hbench⟩ | hbench | ⟨targets, change, _, _, hkeeps, hbench⟩ | hbench
  · exact hbench ▸ h.prepare fingerprint
  · exact hbench ▸ .of_nil rfl rfl
  · obtain ⟨session, hfocused⟩ := Workbench.focused h.few tool.kind.isPerFile
      (tool.cacheDirectory (world.bench tool.name).fingerprint) targets
    exact hbench ▸ (h.focusOn _ targets).update hfocused hkeeps
  · exact hbench ▸ h

/-- Whatever is done with an engine, its sessions fit together. -/
theorem consistent_of_used (hspares : shell.Spares tool.name) (h : (start.bench tool.name).Consistent tool.kind.isPerFile)
    (hused : ReflTransGen (Used shell tool) start world) : (world.bench tool.name).Consistent tool.kind.isPerFile := by
  induction hused with
  | refl => exact h
  | tail _ huse ih => exact consistent_of_use hspares ih huse

/-- What makes an engine forget leaves it no session. -/
theorem continued_or_dropped (h : (world.bench tool.name).Orderly) (huse : Used shell tool world after) :
    Continued shell tool world after ∨ (after.bench tool.name).sessions = [] := by
  cases huse with
  | prepared fingerprint =>
      by_cases hsame : fingerprint = (world.bench tool.name).fingerprint
      · rw [hsame]
        exact Or.inl (.bound world)
      · have hbench := World.bench_put world tool.name ((world.bench tool.name).prepare fingerprint)
        exact Or.inr (hbench ▸ h.sessions_prepare_of_ne hsame)
  | cleared =>
      have hbench := World.bench_put world tool.name (world.bench tool.name).reset
      exact Or.inr (hbench ▸ rfl)
  | called pass files token => exact Or.inl (.called world pass files token)
  | meanwhile hsame => exact Or.inl (.meanwhile hsame)

/-- One more step leaves the session for all files with all of its files, and maybe more. -/
theorem grown_of_continued (hspares : shell.Spares tool.name) (hshared : tool.kind.isPerFile = true)
    (h : (world.bench tool.name).Consistent tool.kind.isPerFile) (hnext : Continued shell tool world after)
    {session : Session} (hin : session ∈ (world.bench tool.name).sessions) :
    ∃ grown ∈ (after.bench tool.name).sessions, ∀ file ∈ session.files, file ∈ grown.files := by
  rcases hnext.tends hspares h.toOrderly with hsame | ⟨pass, files, run, targets, change, rfl, htends⟩
  · exact ⟨session, hsame ▸ hin, fun _ hfile => hfile⟩
  · have hcurrent := (hshared ▸ h).current?_of_mem hin
    have hgrown : (run.2.bench tool.name).current? = some (change (session.absorb targets)) := by
      rw [htends.bench, Workbench.current?_update htends.keeps.files,
        Tool.current?_focused_shared hshared hcurrent (h.bound session hin)]
      rfl
    refine ⟨_, Workbench.mem_of_current? hgrown, fun file hfile => ?_⟩
    rw [htends.keeps.files]
    exact (mem_firsts _ file).mpr (List.mem_append_left targets hfile)

/-- So do any number of steps. -/
theorem grown_of_run (hspares : shell.Spares tool.name) (hshared : tool.kind.isPerFile = true)
    (h : (world.bench tool.name).Consistent tool.kind.isPerFile) (hrun : ReflTransGen (Continued shell tool) world after)
    {session : Session} (hin : session ∈ (world.bench tool.name).sessions) :
    ∃ grown ∈ (after.bench tool.name).sessions, ∀ file ∈ session.files, file ∈ grown.files := by
  induction hrun with
  | refl => exact ⟨session, hin, fun _ hfile => hfile⟩
  | tail hbefore hnext ih =>
      obtain ⟨middle, hmiddle, hsub⟩ := ih
      have hconsistent := consistent_of_used hspares h (ReflTransGen.mono (fun _ _ => Continued.used) _ _ hbefore)
      obtain ⟨grown, hgrown, hsub'⟩ := grown_of_continued hspares hshared hconsistent hnext hmiddle
      exact ⟨grown, hgrown, fun file hfile => hsub' file (hsub file hfile)⟩

/-- **The sessions of an engine fit together.**  Take an engine that was new at the start, and anything that was done
with it since then: bindings to fingerprints, making it forget, checks and fixes, also ones that were cancelled or
failed.  Its sessions are `Workbench.Consistent`: all are for the current fingerprint, each has entries for its own
files only, and the one that was used last is among them.  An engine that looks at each file by itself has at most one
session; its files only grow, whatever is done next short of making the engine forget, and what makes it forget leaves
no session.  An engine that looks at all files together has at most `Workbench.capacity` sessions, each with entries for
all of its files or for none, and looking for a set of files finds the session about exactly these files. -/
theorem sessions_fit_together (hspares : shell.Spares tool.name) (hstart : start.bench tool.name = .empty)
    (hused : ReflTransGen (Used shell tool) start world) :
    let bench := world.bench tool.name
    bench.Consistent tool.kind.isPerFile ∧
      (∀ after, Used shell tool world after →
        Continued shell tool world after ∨ (after.bench tool.name).sessions = []) ∧
      (tool.kind.isPerFile = true → ∀ later, ReflTransGen (Continued shell tool) world later →
        ∀ session ∈ bench.sessions, ∃ grown ∈ (later.bench tool.name).sessions,
          ∀ file ∈ session.files, file ∈ grown.files) ∧
      (tool.kind.isPerFile = false → ∀ files session,
        (bench.sessions.find? fun known => sameMembers known.files files) = some session ↔
          session ∈ bench.sessions ∧ sameMembers session.files files = true) := by
  intro bench
  have hempty : (start.bench tool.name).Consistent tool.kind.isPerFile := by
    rw [hstart]
    exact .of_nil rfl rfl
  have hconsistent := consistent_of_used hspares hempty hused
  refine ⟨hconsistent, fun after huse => ?_, fun hshared later hlater session hin => ?_, fun hown files session => ?_⟩
  · exact continued_or_dropped hconsistent.toOrderly huse
  · exact grown_of_run hspares hshared hconsistent hlater hin
  · exact (hown ▸ hconsistent).find?_eq_some_iff

end

/-! ### A formatter and a type checker after one check -/

namespace Contented

/-- After a check of a file, the session that was used last knows it. -/
theorem knows_checked (tool : Tool) (haccepts : tool.accepts ⟨0, "", ""⟩ = true)
    (hissues : tool.checkIssues disk ⟨0, "", ""⟩ = .ok []) :
    ∃ world session, ReflTransGen (Used shell tool) start world ∧ session ∈ (world.bench tool.name).sessions ∧
      "/a" ∈ session.entries.keys := by
  obtain ⟨result, noted, hcall, hwhole, hdisk⟩ := call_check tool haccepts hissues
  have hused : Used shell tool start noted := by
    have huse : Used shell tool start (Change.on ((Engine.ofTool shell tool).call .check ["/a"] 0) start).2 :=
      .called start .check ["/a"] 0
    rwa [hcall] at huse
  have horderly : (start.bench tool.name).Orderly := .of_nil rfl
  have hcases := Tool.call_tends (spares tool.name) horderly.few .check ["/a"] 0
  rw [Engine.on_work_of_call hcall] at hcases
  rcases hcases with ⟨-, hnever⟩ | ⟨targets, change, htends⟩
  · exact absurd rfl (hnever result)
  · obtain ⟨session, hknows⟩ := htends.knows horderly rfl hwhole fun _ file _ => by
      rw [hdisk]
      rfl
    have hin : "/a" ∈ targets := by
      rw [Except.ok.inj (htends.normal.symm.trans normal)]
      exact List.mem_singleton_self "/a"
    refine ⟨noted, session, .single hused, Workbench.mem_of_current? hknows.current, Session.mem_keys_entries.mpr ?_⟩
    rw [hknows.contents "/a" hin]
    exact Option.some_ne_none _

/-- After a check of a file, the formatter has one session about it, and still has after a check of another file; the
type checker finds its session by the files, and it has entries for all of them. -/
theorem sessions_fit_together_contented :
    (∃ world, ReflTransGen (Used shell formatter) start world ∧ (world.bench formatter.name).sessions.length = 1 ∧
      ∃ session ∈ (world.bench formatter.name).sessions, "/a" ∈ session.files ∧
        ∃ grown ∈ ((Change.on ((Engine.ofTool shell formatter).call .check ["/b"] 0) world).2.bench
          formatter.name).sessions, "/a" ∈ grown.files) ∧
    ∃ world session, ReflTransGen (Used shell checker) start world ∧ "/a" ∈ session.files ∧
      ((world.bench checker.name).sessions.find? fun known => sameMembers known.files session.files) = some session ∧
      ∀ file ∈ session.files, file ∈ session.entries.keys := by
  constructor
  · obtain ⟨world, session, hused, hin, hknown⟩ := knows_checked formatter rfl (by cbv)
    obtain ⟨hconsistent, -, hgrows, -⟩ := sessions_fit_together (spares formatter.name) rfl hused
    have habout := hconsistent.confined session hin "/a" hknown
    have hlength := Nat.le_antisymm (hconsistent.single rfl) (List.length_pos_of_mem hin)
    obtain ⟨grown, hgrown, hsub⟩ := hgrows rfl _ (.single (.called world .check ["/b"] 0)) session hin
    exact ⟨world, hused, hlength, session, hin, habout, grown, hgrown, hsub "/a" habout⟩
  · obtain ⟨world, session, hused, hin, hknown⟩ := knows_checked checker rfl (by cbv)
    obtain ⟨hconsistent, -, -, hfinds⟩ := sessions_fit_together (spares checker.name) rfl hused
    have habout := hconsistent.confined session hin "/a" hknown
    refine ⟨world, session, hused, habout, (hfinds rfl session.files session).mpr ⟨hin, sameMembers_refl _⟩, ?_⟩
    rcases hconsistent.whole rfl session hin with hnone | hall
    · rw [hnone] at hknown
      cases hknown
    · exact hall

end Contented

end FixFirst
