import FixFirst.Proofs.Session.Reuse

/-!
# What a call leaves of the sessions

A call over files makes the session for them the current one and then changes that session at most; what
the session knows of contents that are still the same stays known.  Where one session is for all files it
is only ever extended.  Where each set of files has its own, a new one is put after all others, so that a
session lasts until so many newer ones are there that the oldest have to go.

## Main definitions

* `Session.Keeps` — changes of a session after which the same contents are known, and what they make entries for.
* `Workbench.Orderly` — all sessions are for the current fingerprint, and one of them is the current one.
* `Workbench.Placed` — where the session for a set of files stands, and how many are newer.
* `Tool.Tends` — what a call does to the sessions of a tool.

## Main statements

* `Workbench.mem_focusOn`, `Workbench.mem_update` — where the sessions come from.
* `Tool.call_tends` — every call does so, whatever comes of it.
* `Workbench.Placed.focusOn` — a session stays where it is while there are not too many newer ones.
-/

namespace FixFirst

open Relation (ReflTransGen)

theorem Keyed.get?_map_of_mem {α : Type} (value : String → α) {keys : List String} {key : String} (h : key ∈ keys) :
    Keyed.get? (keys.map fun key => (key, value key)) key = some (value key) := by
  induction keys with
  | nil => cases h
  | cons first rest ih =>
      rw [List.map_cons, Keyed.get?_cons]
      by_cases hfirst : first = key
      · rw [if_pos hfirst, hfirst]
      · rw [if_neg hfirst]
        exact ih ((List.mem_cons.mp h).resolve_left (Ne.symm hfirst))

/-! ### Changes of a session -/

namespace Session

/-- Whether the issues of each entry are in its own file. -/
def Filed (session : Session) : Prop :=
  ∀ file entry, session.entries.get? file = some entry → ∀ issue ∈ entry.issues, issue.file = file

theorem filed_new (fingerprint : String) (files : List String) (directory : Path) : (new fingerprint files directory).Filed :=
  fun file entry h => by cases h

variable {session : Session}

theorem Filed.record (h : session.Filed) (files : List String) (digest : String → String) (issues : List Issue) :
    (session.record (files.map fun file => (file, digest file)) issues).Filed := by
  intro file entry hentry issue hissue
  rw [get?_record] at hentry
  split at hentry
  · cases hentry
    simpa using (List.mem_filter.mp hissue).2
  · exact h file entry hentry issue hissue

theorem Filed.forget (h : session.Filed) (files : List String) : (session.forget files).Filed := by
  intro file entry hentry
  rw [get?_forget] at hentry
  split at hentry
  · cases hentry
  · exact h file entry hentry

/-- The files that have an entry are those whose contents are known. -/
theorem mem_keys_entries {file : String} : file ∈ session.entries.keys ↔ session.contents file ≠ none := by
  rw [← Keyed.holds_iff, Keyed.holds, Option.isSome_iff_ne_none, contents, ne_eq, ne_eq, Option.map_eq_none_iff]

theorem mem_keys_record {files : List String} {digest : String → String} {issues : List Issue} {file : String} :
    file ∈ (session.record (files.map fun file => (file, digest file)) issues).entries.keys ↔
      file ∈ files ∨ file ∈ session.entries.keys := by
  rw [mem_keys_entries, mem_keys_entries, contents_record]
  by_cases h : file ∈ files <;> simp [h]

theorem mem_keys_forget {files : List String} {file : String} :
    file ∈ (session.forget files).entries.keys ↔ file ∉ files ∧ file ∈ session.entries.keys := by
  rw [mem_keys_entries, mem_keys_entries, contents_forget]
  by_cases h : file ∈ files <;> simp [h]

/-- Whether a change of a session in a call over `targets` leaves its files and its fingerprint alone, what it knows of
contents that are the same on two disks, and the issues of each entry in its own file.  New entries are about `targets`
only; where each set of files has its own session, there are some for all of them, or the entries stay as they were. -/
structure Keeps (shared : Bool) (targets : List String) (before after : Disk) (change : Session → Session) : Prop where
  files : ∀ session, (change session).files = session.files
  fingerprint : ∀ session, (change session).fingerprint = session.fingerprint
  contents : ∀ session file, after.digest file = before.digest file →
    session.contents file = some (before.digest file) → (change session).contents file = some (before.digest file)
  filed : ∀ session, session.Filed → (change session).Filed
  within : ∀ session, ∀ file ∈ (change session).entries.keys, file ∈ targets ∨ file ∈ session.entries.keys
  whole : shared = false → (∀ session, (change session).entries = session.entries) ∨
    ∀ session, ∀ file ∈ targets, file ∈ (change session).entries.keys

variable {shared : Bool} {targets : List String} {before after : Disk}

/-- A change that leaves the entries as they were. -/
theorem Keeps.of_entries {change : Session → Session} (hfiles : ∀ session, (change session).files = session.files)
    (hfingerprint : ∀ session, (change session).fingerprint = session.fingerprint)
    (hentries : ∀ session, (change session).entries = session.entries) : Keeps shared targets before after change where
  files := hfiles
  fingerprint := hfingerprint
  contents session file _ h := by
    unfold Session.contents at h ⊢
    rw [hentries]
    exact h
  filed session h := by
    unfold Filed
    rw [hentries]
    exact h
  within session file hin := Or.inr (hentries session ▸ hin)
  whole _ := Or.inl hentries

theorem Keeps.nothing : Keeps shared targets before after id := .of_entries (fun _ => rfl) (fun _ => rfl) fun _ => rfl

theorem Keeps.reuse : Keeps shared targets before after fun session => { session with reused := session.reused + 1 } :=
  .of_entries (fun _ => rfl) (fun _ => rfl) fun _ => rfl

/-- Noting what was found in the contents that a check looked at. -/
theorem Keeps.record {files : List String} (hfiles : ∀ file ∈ files, file ∈ targets)
    (hwhole : shared = false → ∀ file ∈ targets, file ∈ files) (issues : List Issue) :
    Keeps shared targets before after (·.record (files.map fun file => (file, before.digest file)) issues) where
  files _ := rfl
  fingerprint _ := rfl
  contents session file _ h := by
    rw [contents_record, h]
    split <;> rfl
  filed _ h := h.record files before.digest issues
  within session file hin := (mem_keys_record.mp hin).imp_left (hfiles file)
  whole hown := Or.inr fun session file hfile => mem_keys_record.mpr (Or.inl (hwhole hown file hfile))

/-- Dropping what is known of files that changed, and noting what was found in the contents that a fix left. -/
theorem Keeps.settle (hshared : shared = true) {modified described : List String}
    (hmodified : ∀ file ∈ modified, after.digest file ≠ before.digest file)
    (hdescribed : ∀ file ∈ described, file ∈ targets) (found : List Issue) :
    Keeps shared targets before after fun session =>
      (session.forget modified).record (described.map fun file => (file, after.digest file)) found where
  files _ := rfl
  fingerprint _ := rfl
  contents session file hsame h := by
    have hkept : file ∉ modified := fun hin => hmodified file hin hsame
    rw [contents_record, contents_forget, if_neg hkept, h, hsame]
    split <;> rfl
  filed _ h := (h.forget modified).record described after.digest found
  within session file hin := (mem_keys_record.mp hin).imp (hdescribed file) fun hold => (mem_keys_forget.mp hold).2
  whole hown := by
    rw [hshared] at hown
    cases hown

end Session

namespace Workbench

variable {bench : Workbench}

/-- The sets of files that sessions are about. -/
def subjects (bench : Workbench) : List (List String) := bench.sessions.map (·.files)

theorem mem_subjects {files : List String} : files ∈ bench.subjects ↔ ∃ session ∈ bench.sessions, session.files = files :=
  List.mem_map

@[simp] theorem update_id (bench : Workbench) : bench.update id = bench := by
  unfold update
  cases hfocus : bench.focus with
  | none => rfl
  | some files =>
      simp only [id, ite_self, List.map_id', ← hfocus]

@[simp] theorem fingerprint_update (bench : Workbench) (change : Session → Session) :
    (bench.update change).fingerprint = bench.fingerprint := by
  unfold update
  cases bench.focus <;> rfl

/-- A change of the current session changes each session or leaves it. -/
theorem sessions_update (bench : Workbench) (change : Session → Session) :
    ∃ changed : Session → Session, (bench.update change).sessions = bench.sessions.map changed ∧
      ∀ session, changed session = change session ∨ changed session = session := by
  unfold update
  cases bench.focus with
  | none => exact ⟨id, (List.map_id _).symm, fun _ => Or.inr rfl⟩
  | some files =>
      refine ⟨_, rfl, fun session => ?_⟩
      by_cases hsame : sameMembers session.files files = true
      · exact Or.inl (if_pos hsame)
      · exact Or.inr (if_neg hsame)

/-- Only sessions about the same files as the current one change with it. -/
theorem mem_update {change : Session → Session} {current session : Session} (hcurrent : bench.current? = some current)
    (hin : session ∈ (bench.update change).sessions) :
    session ∈ bench.sessions ∨
      ∃ old ∈ bench.sessions, (∀ file, file ∈ old.files ↔ file ∈ current.files) ∧ session = change old := by
  unfold current? at hcurrent
  obtain ⟨focus, hfocus, hfind⟩ := Option.bind_eq_some_iff.mp hcurrent
  have hfound := List.find?_some hfind
  have hmine := (sameMembers_iff _ _).mp hfound
  unfold update at hin
  rw [hfocus] at hin
  obtain ⟨old, hold, rfl⟩ := List.mem_map.mp hin
  by_cases hsame : sameMembers old.files focus = true
  · exact Or.inr ⟨old, hold, fun file => ((sameMembers_iff _ _).mp hsame file).trans (hmine file).symm, if_pos hsame⟩
  · rw [if_neg hsame]
    exact Or.inl hold

theorem subjects_update {change : Session → Session} (hfiles : ∀ session, (change session).files = session.files) :
    (bench.update change).subjects = bench.subjects := by
  obtain ⟨changed, hsessions, hchanged⟩ := sessions_update bench change
  unfold subjects
  rw [hsessions, List.map_map]
  refine List.map_congr_left fun session _ => ?_
  rcases hchanged session with heq | heq
  · exact (congrArg Session.files heq).trans (hfiles session)
  · exact congrArg Session.files heq

/-! ### Order on the workbench -/

/-- Whether all sessions are for the current fingerprint, and one of them, if there is any, is the current one. -/
structure Orderly (bench : Workbench) : Prop where
  few : bench.sessions.length ≤ capacity
  bound : ∀ session ∈ bench.sessions, session.fingerprint = bench.fingerprint
  used : bench.sessions ≠ [] → ∃ session, bench.current? = some session

theorem Orderly.of_nil (h : bench.sessions = []) : bench.Orderly where
  few := by simp [h]
  bound session hin := by
    rw [h] at hin
    cases hin
  used hsome := absurd h hsome

theorem mem_of_current? {session : Session} (h : bench.current? = some session) : session ∈ bench.sessions := by
  unfold current? at h
  obtain ⟨focus, -, hfind⟩ := Option.bind_eq_some_iff.mp h
  exact List.mem_of_find?_eq_some hfind

theorem Orderly.eq_nil_of_current? (h : bench.Orderly) (hnone : bench.current? = none) : bench.sessions = [] := by
  by_contra hsome
  obtain ⟨session, hcurrent⟩ := h.used hsome
  rw [hnone] at hcurrent
  cases hcurrent

/-- Binding a workbench to its fingerprint again changes nothing. -/
theorem Orderly.prepare_self (h : bench.Orderly) : bench.prepare bench.fingerprint = bench := by
  unfold Workbench.prepare
  split
  · rename_i session hcurrent
    exact if_pos (h.bound session (mem_of_current? hcurrent))
  · rfl

theorem Orderly.prepare (h : bench.Orderly) (fingerprint : String) : (bench.prepare fingerprint).Orderly := by
  unfold Workbench.prepare
  split
  · rename_i session hcurrent
    split
    · rename_i hsame
      have hbound := (h.bound session (mem_of_current? hcurrent)).symm.trans hsame
      exact ⟨h.few, fun other hin => (h.bound other hin).trans hbound, h.used⟩
    · exact Orderly.of_nil rfl
  · rename_i hnone
    exact Orderly.of_nil (h.eq_nil_of_current? hnone)

/-- Binding a workbench to another fingerprint drops all sessions. -/
theorem Orderly.sessions_prepare_of_ne (h : bench.Orderly) {fingerprint : String} (hother : fingerprint ≠ bench.fingerprint) :
    (bench.prepare fingerprint).sessions = [] := by
  unfold Workbench.prepare
  split
  · rename_i session hcurrent
    have hbound := h.bound session (mem_of_current? hcurrent)
    rw [if_neg fun hsame => hother (hsame.symm.trans hbound)]
    rfl
  · rename_i hnone
    exact h.eq_nil_of_current? hnone

theorem Orderly.update (h : bench.Orderly) {change : Session → Session}
    (hfiles : ∀ session, (change session).files = session.files)
    (hbound : ∀ session, (change session).fingerprint = session.fingerprint) : (bench.update change).Orderly := by
  obtain ⟨changed, hsessions, hchanged⟩ := sessions_update bench change
  refine ⟨?_, fun session hin => ?_, fun hsome => ?_⟩
  · rw [hsessions, List.length_map]
    exact h.few
  · rw [hsessions] at hin
    obtain ⟨old, hold, rfl⟩ := List.mem_map.mp hin
    rw [fingerprint_update]
    rcases hchanged old with heq | heq
    · rw [heq, hbound]
      exact h.bound old hold
    · rw [heq]
      exact h.bound old hold
  · have hold : bench.sessions ≠ [] := fun hnil => hsome (by rw [hsessions, hnil, List.map_nil])
    obtain ⟨session, hcurrent⟩ := h.used hold
    exact ⟨change session, by rw [current?_update hfiles, hcurrent]; rfl⟩

/-- The session for a set of files that has one. -/
theorem Orderly.focusOn_found (h : bench.Orderly) (directory : Path) {files : List String} {session : Session}
    (hfind : (bench.sessions.find? fun session => sameMembers session.files files) = some session) :
    bench.focusOn false directory files = { bench with focus := some session.files } := by
  unfold Workbench.focusOn
  simp only [Bool.false_eq_true, if_false, hfind]
  exact if_pos (h.bound session (List.mem_of_find?_eq_some hfind))

/-- A set of files without a session gets one after all others, and the oldest goes if there are too many. -/
theorem focusOn_missing (bench : Workbench) (directory : Path) {files : List String}
    (hfind : (bench.sessions.find? fun session => sameMembers session.files files) = none) :
    (bench.focusOn false directory files).sessions =
      (bench.sessions ++ [Session.new bench.fingerprint files directory]).drop (bench.sessions.length + 1 - capacity) := by
  have hmembers : ∀ file, file ∈ (Session.new bench.fingerprint files directory).files ↔ file ∈ files := mem_firsts files
  have hnone : (bench.sessions.any fun other =>
      sameMembers other.files (Session.new bench.fingerprint files directory).files) = false := by
    rw [sameMembers_congr hmembers, List.any_eq_false]
    exact fun other hin => List.find?_eq_none.mp hfind other hin
  unfold Workbench.focusOn keep
  simp only [Bool.false_eq_true, if_false, hfind, hnone, List.length_append, List.length_singleton]

/-- How many sessions there are after, about files other than `targets`, that no session was about before. -/
def created (targets : List String) (before after : Workbench) : Nat :=
  (after.subjects.filter fun files =>
    !sameMembers files targets && !before.subjects.any fun other => sameMembers other files).length

/-- It is a session that was not there before. -/
theorem created_missing (bench : Workbench) (directory : Path) {files targets : List String}
    (hfind : (bench.sessions.find? fun session => sameMembers session.files files) = none)
    (hother : sameMembers (Session.new bench.fingerprint files directory).files targets = false) :
    0 < created targets bench (bench.focusOn false directory files) := by
  refine List.length_pos_of_mem (a := (Session.new bench.fingerprint files directory).files)
    (List.mem_filter.mpr ⟨mem_subjects.mpr ⟨_, ?_, rfl⟩, ?_⟩)
  · rw [focusOn_missing bench directory hfind, List.drop_append_of_le_length]
    · exact List.mem_append_right _ (List.mem_singleton.mpr rfl)
    · unfold capacity
      omega
  · have hnew : (bench.subjects.any fun other =>
        sameMembers other (Session.new bench.fingerprint files directory).files) = false := by
      refine List.any_eq_false.mpr fun other hin => ?_
      obtain ⟨session, hsession, rfl⟩ := mem_subjects.mp hin
      have hcongr := congrFun (sameMembers_congr (mem_firsts files)) session
      exact fun hsame => List.find?_eq_none.mp hfind session hsession (hcongr.symm.trans hsame)
    rw [hother, hnew]
    rfl

/-- One session for all files is the only one. -/
theorem sessions_focusOn_shared (bench : Workbench) (directory : Path) (files : List String) :
    ∃ only, (bench.focusOn true directory files).sessions = [only] := by
  unfold Workbench.focusOn
  simp only [if_true]
  split
  · split <;> exact ⟨_, rfl⟩
  · exact ⟨_, rfl⟩

/-- Each session was there before, or it is new, or it is the one for all files, extended. -/
theorem mem_focusOn {shared : Bool} {directory : Path} {files : List String} {session : Session}
    (hin : session ∈ (bench.focusOn shared directory files).sessions) :
    session ∈ bench.sessions ∨ session = .new bench.fingerprint files directory ∨
      shared = true ∧ ∃ old ∈ bench.sessions, session = old.absorb files := by
  have hkept : session ∈ (bench.keep (.new bench.fingerprint files directory)).sessions →
      session ∈ bench.sessions ∨ session = .new bench.fingerprint files directory :=
    fun hkeep => (of_mem_keep hkeep).symm.imp_left And.left
  unfold Workbench.focusOn at hin
  cases shared with
  | true =>
      simp only [if_true] at hin
      split at hin
      · rename_i current hcurrent
        split at hin
        · exact Or.inr (Or.inr ⟨rfl, current, mem_of_current? hcurrent, List.mem_singleton.mp hin⟩)
        · exact Or.inr (Or.inl (List.mem_singleton.mp hin))
      · exact Or.inr (Or.inl (List.mem_singleton.mp hin))
  | false =>
      simp only [Bool.false_eq_true, if_false] at hin
      split at hin
      · split at hin
        · exact Or.inl hin
        · exact (hkept hin).imp_right Or.inl
      · exact (hkept hin).imp_right Or.inl

theorem Orderly.focusOn (h : bench.Orderly) (shared : Bool) (directory : Path) (files : List String) :
    (bench.focusOn shared directory files).Orderly := by
  obtain ⟨session, hfocused⟩ := focused h.few shared directory files
  refine ⟨?_, fun other hin => ?_, fun _ => ⟨session, hfocused.current⟩⟩
  · cases shared with
    | true =>
        obtain ⟨only, hsessions⟩ := sessions_focusOn_shared bench directory files
        simp [hsessions, capacity]
    | false =>
        cases hfind : bench.sessions.find? fun session => sameMembers session.files files with
        | some found =>
            rw [h.focusOn_found directory hfind]
            exact h.few
        | none =>
            rw [focusOn_missing bench directory hfind, List.length_drop, List.length_append, List.length_singleton]
            omega
  · rw [hfocused.bound]
    rcases mem_focusOn hin with hold | rfl | ⟨-, old, hold, rfl⟩
    · exact h.bound other hold
    · rfl
    · exact h.bound old hold

/-! ### The session for a set of files -/

/-- The session for all files after it was extended. -/
theorem current?_focusOn_shared {session : Session} (h : bench.current? = some session)
    (hbound : session.fingerprint = bench.fingerprint) (directory : Path) (files : List String) :
    (bench.focusOn true directory files).current? = some (session.absorb files) := by
  unfold focusOn
  simp only [if_true, h, hbound]
  exact current?_single rfl rfl

/-- Where the session for a set of files stands: it is the only one about them, and at most so many are newer. -/
structure Placed (bench : Workbench) (targets : List String) (count : Nat) (session : Session) : Prop where
  about : sameMembers session.files targets = true
  stands : ∃ older newer, bench.sessions = older ++ session :: newer ∧ newer.length ≤ count ∧
    ∀ other ∈ older, sameMembers other.files targets = false

variable {targets : List String} {count : Nat} {session : Session}

theorem Placed.find? (h : bench.Placed targets count session) :
    (bench.sessions.find? fun session => sameMembers session.files targets) = some session := by
  obtain ⟨older, newer, hsessions, -, holder⟩ := h.stands
  refine List.find?_eq_some_iff_append.mpr ⟨h.about, older, newer, hsessions, fun other hin => ?_⟩
  rw [holder other hin]
  rfl

theorem Placed.mono (h : bench.Placed targets count session) {more : Nat} (hle : count ≤ more) :
    bench.Placed targets more session := by
  obtain ⟨older, newer, hsessions, hnewer, holder⟩ := h.stands
  exact ⟨h.about, older, newer, hsessions, Nat.le_trans hnewer hle, holder⟩

/-- A change of the current session moves no session. -/
theorem Placed.update (h : bench.Placed targets count session) {change : Session → Session}
    (hfiles : ∀ session, (change session).files = session.files) :
    ∃ next, (bench.update change).Placed targets count next ∧ (next = change session ∨ next = session) := by
  obtain ⟨changed, hmap, hchanged⟩ := sessions_update bench change
  obtain ⟨older, newer, hsessions, hnewer, holder⟩ := h.stands
  have hkept : ∀ other, (changed other).files = other.files := by
    intro other
    rcases hchanged other with heq | heq
    · rw [heq, hfiles]
    · rw [heq]
  refine ⟨changed session, ⟨?_, older.map changed, newer.map changed, ?_, ?_, ?_⟩, hchanged session⟩
  · rw [hkept]
    exact h.about
  · rw [hmap, hsessions, List.map_append, List.map_cons]
  · rw [List.length_map]
    exact hnewer
  · intro other hin
    obtain ⟨old, hold, rfl⟩ := List.mem_map.mp hin
    rw [hkept]
    exact holder old hold

/-- A session for other files is put after it, and it goes only if there are too many newer ones. -/
theorem Placed.focusOn (h : bench.Placed targets count session) (horderly : bench.Orderly) (directory : Path)
    (files : List String) (hroom : count + created targets bench (bench.focusOn false directory files) < capacity) :
    (bench.focusOn false directory files).Placed targets
      (count + created targets bench (bench.focusOn false directory files)) session := by
  cases hfind : bench.sessions.find? fun session => sameMembers session.files files with
  | some found =>
      rw [horderly.focusOn_found directory hfind]
      obtain ⟨older, newer, hsessions, hnewer, holder⟩ := h.stands
      exact ⟨h.about, older, newer, hsessions, Nat.le_add_right_of_le hnewer, holder⟩
  | none =>
      obtain ⟨older, newer, hsessions, hnewer, holder⟩ := h.stands
      have hafter := focusOn_missing bench directory hfind
      have hother : sameMembers (Session.new bench.fingerprint files directory).files targets = false := by
        -- Otherwise the session that stands would be about the files.
        by_contra hsame
        have hfresh := (sameMembers_iff _ _).mp (Bool.of_not_eq_false hsame)
        have habout := (sameMembers_iff _ _).mp h.about
        have hfound : sameMembers session.files files = true :=
          (sameMembers_iff _ _).mpr fun file => ((habout file).trans (hfresh file).symm).trans (mem_firsts files file)
        have hin : session ∈ bench.sessions := hsessions ▸ List.mem_append_right _ List.mem_cons_self
        exact List.find?_eq_none.mp hfind session hin hfound
      have hmade := created_missing bench directory hfind hother
      have hlength : bench.sessions.length = older.length + (newer.length + 1) := by
        rw [hsessions, List.length_append, List.length_cons]
      have hgone : bench.sessions.length + 1 - capacity ≤ older.length := by omega
      refine ⟨h.about, older.drop (bench.sessions.length + 1 - capacity),
        newer ++ [Session.new bench.fingerprint files directory], ?_, ?_, fun other hin => ?_⟩
      · rw [hafter]
        generalize bench.sessions.length + 1 - capacity = gone at hgone
        rw [hsessions, List.append_assoc, List.drop_append_of_le_length hgone, List.cons_append]
      · rw [List.length_append, List.length_singleton]
        omega
      · exact holder other (List.mem_of_mem_drop hin)

end Workbench

/-! ### Calls -/

variable {τ σ : Type}

namespace Tool

/-- The workbench on which the session for files is the current one. -/
def focused (tool : Tool) (files : List String) (bench : Workbench) : Workbench :=
  bench.focusOn tool.kind.isPerFile (tool.cacheDirectory bench.fingerprint) files

/-- Where one session is for all files, it is extended. -/
theorem current?_focused_shared {tool : Tool} (hshared : tool.kind.isPerFile = true) {bench : Workbench} {session : Session}
    (h : bench.current? = some session) (hbound : session.fingerprint = bench.fingerprint) (files : List String) :
    (tool.focused files bench).current? = some (session.absorb files) := by
  unfold focused
  rw [hshared]
  exact Workbench.current?_focusOn_shared h hbound _ files

/-- What a call over files does to the sessions of a tool, by what came of it: the session for them becomes the
current one, and changes so that it knows what it knew.  After a result that is not cancelled, it knows the contents
that a check began with, if they are still the same, or that a fix left. -/
structure Tends (tool : Tool) (pass : Pass) (files : List String) (world : World τ σ)
    (run : Except Fault (EngineResult τ) × World τ σ) (targets : List String) (change : Session → Session) : Prop where
  normal : world.disk.normalizeAll files = .ok targets
  keeps : Session.Keeps tool.kind.isPerFile targets world.disk run.2.disk change
  bench : run.2.bench tool.name = (tool.focused targets (world.bench tool.name)).update change
  noted : ∀ result, run.1 = .ok result → result.cancelled = false →
    ∀ session, (tool.focused targets (world.bench tool.name)).current? = some session →
    ∀ file ∈ targets, (pass = .check → run.2.disk.digest file = world.disk.digest file) →
      (change session).contents file = some (run.2.disk.digest file)

variable [Quantity τ] {shell : Shell τ σ} {tool : Tool}

/-- What comes of noting the report of a tool that was asked about some files, where the others are known. -/
theorem note_tends {world : World τ σ} {session : Session} (hcurrent : (world.bench tool.name).current? = some session)
    (disk : Disk) {targets asked : List String} (hwhole : tool.kind.isPerFile = false → asked = targets)
    (hothers : ∀ file ∈ targets, file ∉ asked → session.contents file = some (disk.digest file))
    (completed : Completed) (started : τ) :
    let run := (tool.note targets (targets.map fun file => (file, disk.digest file)) asked completed started).on world
    ∃ change, Session.Keeps tool.kind.isPerFile targets disk run.2.disk change ∧
      run.2.bench tool.name = (world.bench tool.name).update change ∧ run.2.journal = world.journal ∧
      ∀ result, run.1 = .ok result → ∀ file ∈ targets, (change session).contents file = some (disk.digest file) := by
  intro run
  have hrun : run = (tool.note targets (targets.map fun file => (file, disk.digest file)) asked completed started).on
    world := rfl
  cases hissues : tool.checkIssues world.disk completed with
  | error fault =>
      rw [on_note_error hissues] at hrun
      rw [hrun]
      exact ⟨id, .nothing, (Workbench.update_id _).symm, rfl, fun result h => (by cases h)⟩
  | ok found =>
      rw [on_note hcurrent disk targets asked hissues started] at hrun
      rw [hrun]
      have hlooked : tool.kind.isPerFile = false → ∀ file ∈ targets, file ∈ targets.filter fun file => asked.contains file :=
        fun hown file hfile => List.mem_filter.mpr ⟨hfile, by simpa [hwhole hown] using hfile⟩
      refine ⟨_, .record (fun file hfile => (List.mem_filter.mp hfile).1) hlooked found,
        World.bench_put world tool.name _, rfl, fun result _ file hfile => ?_⟩
      refine (Session.contents_record ..).trans ?_
      split
      · rfl
      · rename_i hnot
        refine hothers file hfile fun hasked => hnot (List.mem_filter.mpr ⟨hfile, ?_⟩)
        simpa using hasked

/-- What comes of letting the tool look at files, where those that are not stale are known. -/
theorem look_tends (hspares : shell.Spares tool.name) {world : World τ σ} {session : Session}
    (hcurrent : (world.bench tool.name).current? = some session) {targets stale : List String}
    (hothers : ∀ file ∈ targets, file ∉ stale → session.contents file = some (world.disk.digest file))
    (caches : Path) (started : τ) (token : Nat) :
    let run := (tool.look shell targets (targets.map fun file => (file, world.disk.digest file)) caches stale started
      token).on world
    ∃ change, Session.Keeps tool.kind.isPerFile targets world.disk run.2.disk change ∧
      run.2.bench tool.name = (world.bench tool.name).update change ∧
      ∀ result, run.1 = .ok result → result.cancelled = false →
        ∀ file ∈ targets, (change session).contents file = some (world.disk.digest file) := by
  intro run
  have hrun : run = (tool.look shell targets (targets.map fun file => (file, world.disk.digest file)) caches stale started
    token).on world := rfl
  unfold look at hrun
  simp only at hrun
  generalize hasked : (if tool.kind.isPerFile = true then stale else targets) = asked at hrun
  obtain ⟨after, hapart, hcases⟩ := invoke_cases hspares (tool.checkCommand asked caches) token world
  have hafter : (after.bench tool.name).current? = some session := hapart ▸ hcurrent
  rcases hcases with ⟨completed, -, hon, -⟩ | hon | ⟨fault, hon⟩
  · have hknown : ∀ file ∈ targets, file ∉ asked → session.contents file = some (world.disk.digest file) := by
      intro file hfile hnot
      rw [← hasked] at hnot
      split at hnot
      · exact hothers file hfile hnot
      · exact absurd hfile hnot
    have hwhole : tool.kind.isPerFile = false → asked = targets := by
      intro hown
      rw [← hasked, hown]
      rfl
    obtain ⟨change, hkeeps, hbench, -, hnoted⟩ := note_tends hafter world.disk hwhole hknown completed started
    rw [Act.on_bind_of_ok hon] at hrun
    rw [hrun]
    exact ⟨change, hkeeps, hapart ▸ hbench, fun result h _ => hnoted result h⟩
  · rw [Act.on_bind_of_ok hon] at hrun
    simp only at hrun
    rw [Act.on_bind_of_ok (on_knownIssues hafter _), on_result] at hrun
    rw [hrun]
    refine ⟨id, .nothing, hapart.trans (Workbench.update_id _).symm, fun result h hc => ?_⟩
    cases h
    cases hc
  · rw [Act.on_bind, hon] at hrun
    rw [hrun]
    exact ⟨id, .nothing, hapart.trans (Workbench.update_id _).symm, fun result h => (by cases h)⟩

/-- A check of files whose names can be made normal: it makes the session for them the current one, and answers
from it alone, or lets the tool look. -/
theorem on_check_of_focused (shell : Shell τ σ) {world : World τ σ} {files targets : List String}
    (hn : world.disk.normalizeAll files = .ok targets) {session : Session}
    (hfocused : Workbench.Focused (world.bench tool.name) tool.kind.isPerFile targets
      (tool.focused targets (world.bench tool.name)) session) (token : Nat) :
    (tool.check shell files token).on world =
      (if (targets.filter fun file => !(session.contents file == some (world.disk.digest file))).isEmpty = true then
        tool.recollect targets world.clock.now
      else tool.look shell targets (targets.map fun file => (file, world.disk.digest file)) session.directory
        (targets.filter fun file => !(session.contents file == some (world.disk.digest file))) world.clock.now token).on
          { world with benches := world.benches.put tool.name (tool.focused targets (world.bench tool.name)) } := by
  unfold check
  rw [Act.on_bind_of_ok (Act.on_now world), Act.on_bind_of_ok (Act.on_get world), hn,
    Act.on_bind_of_ok (Act.on_ofExcept (Except.ok targets) world), Act.on_bind_of_ok (Act.on_get world),
    Act.on_bind_of_ok (on_focusOn_of_focused hfocused), world.disk.snapshot_of_nodup (nodup_normalizeAll hn),
    Session.stale_map]
  rfl

/-- Where there are not too many sessions, there is one for the files. -/
theorem on_check (shell : Shell τ σ) {world : World τ σ} (hfew : (world.bench tool.name).sessions.length ≤ Workbench.capacity)
    {files targets : List String} (hn : world.disk.normalizeAll files = .ok targets) (token : Nat) :
    ∃ session, Workbench.Focused (world.bench tool.name) tool.kind.isPerFile targets
        (tool.focused targets (world.bench tool.name)) session ∧
      (tool.check shell files token).on world =
        (if (targets.filter fun file => !(session.contents file == some (world.disk.digest file))).isEmpty = true then
          tool.recollect targets world.clock.now
        else tool.look shell targets (targets.map fun file => (file, world.disk.digest file)) session.directory
          (targets.filter fun file => !(session.contents file == some (world.disk.digest file))) world.clock.now token).on
            { world with benches := world.benches.put tool.name (tool.focused targets (world.bench tool.name)) } := by
  obtain ⟨session, hfocused⟩ := Workbench.focused hfew tool.kind.isPerFile
    (tool.cacheDirectory (world.bench tool.name).fingerprint) targets
  exact ⟨session, hfocused, on_check_of_focused shell hn hfocused token⟩

/-- What a check does to the sessions. -/
theorem check_tends (hspares : shell.Spares tool.name) {world : World τ σ}
    (hfew : (world.bench tool.name).sessions.length ≤ Workbench.capacity) (files : List String) (token : Nat) :
    (((tool.check shell files token).on world).2.bench tool.name = world.bench tool.name ∧
        ∀ result, ((tool.check shell files token).on world).1 ≠ .ok result) ∨
      ∃ targets change, tool.Tends .check files world ((tool.check shell files token).on world) targets change := by
  cases hn : world.disk.normalizeAll files with
  | error fault =>
      refine Or.inl ?_
      unfold check
      rw [Act.on_bind_of_ok (Act.on_now world), Act.on_bind_of_ok (Act.on_get world), hn, Act.on_bind, Act.on_ofExcept]
      exact ⟨rfl, fun result h => (by cases h)⟩
  | ok targets =>
      obtain ⟨session, hfocused, hon⟩ := on_check shell hfew hn token
      let opened : World τ σ := { world with
        benches := world.benches.put tool.name (tool.focused targets (world.bench tool.name)) }
      have hopened : opened.bench tool.name = tool.focused targets (world.bench tool.name) := World.bench_put world _ _
      have hfocus : (opened.bench tool.name).current? = some session := hopened ▸ hfocused.current
      have hknown : ∀ file ∈ targets, file ∉ (targets.filter fun file =>
          !(session.contents file == some (world.disk.digest file))) →
          session.contents file = some (world.disk.digest file) := by
        intro file hfile hnot
        simpa [List.mem_filter, hfile] using hnot
      rw [hon]
      split
      · rename_i hnone
        rw [on_recollect hfocus]
        refine Or.inr ⟨targets, _, hn, .reuse, ?_, fun result _ _ own hown file hfile _ => ?_⟩
        · rw [World.bench_put, hopened]
        · cases hfocused.current.symm.trans hown
          refine hknown file hfile ?_
          rw [List.isEmpty_iff.mp hnone]
          exact List.not_mem_nil
      · obtain ⟨change, hkeeps, hbench, hnoted⟩ := look_tends hspares hfocus hknown session.directory world.clock.now token
        refine Or.inr ⟨targets, change, hn, hkeeps, hbench.trans (congrArg (·.update change) hopened),
          fun result h hc own hown file hfile hsame => ?_⟩
        cases hfocused.current.symm.trans hown
        rw [hsame rfl]
        exact hnoted result h hc file hfile

/-- What comes of settling a fix, where `disk` is the one before it. -/
theorem settle_tends (hshared : tool.kind.isPerFile = true) (disk : Disk) {targets : List String} (hnodup : targets.Nodup)
    (completed : Option Completed) (started : τ) (world : World τ σ) :
    let run := (tool.settle targets (targets.map fun file => (file, disk.digest file)) completed started).on world
    ∃ change, Session.Keeps tool.kind.isPerFile targets disk run.2.disk change ∧
      run.2.bench tool.name = (world.bench tool.name).update change ∧
      ∀ result, run.1 = .ok result → result.cancelled = false →
        ∀ session file, file ∈ targets → (change session).contents file = some (run.2.disk.digest file) := by
  intro run
  have hrun : run = (tool.settle targets (targets.map fun file => (file, disk.digest file)) completed started).on
    world := rfl
  unfold settle at hrun
  rw [Act.on_bind_of_ok (Act.on_get world)] at hrun
  cases hissues : tool.fixIssues world.disk completed with
  | error fault =>
      rw [hissues, Act.on_bind, Act.on_ofExcept] at hrun
      rw [hrun]
      exact ⟨id, .nothing, (Workbench.update_id _).symm, fun result h => (by cases h)⟩
  | ok found =>
      rw [hissues, Act.on_bind_of_ok (Act.on_ofExcept (Except.ok found) world), Act.on_bind_of_ok (Act.on_get world),
        world.disk.snapshot_of_nodup hnodup, Act.on_bind_of_ok (Act.on_onBench _ _ world), on_result] at hrun
      have hmodified : ∀ file ∈ targets.filter fun file =>
          Keyed.get? (targets.map fun file => (file, disk.digest file)) file !=
            Keyed.get? (targets.map fun file => (file, world.disk.digest file)) file,
          world.disk.digest file ≠ disk.digest file := by
        intro file hin hsame
        obtain ⟨hfile, hchanged⟩ := List.mem_filter.mp hin
        rw [Keyed.get?_map_of_mem _ hfile, Keyed.get?_map_of_mem _ hfile, hsame] at hchanged
        simp at hchanged
      rw [hrun]
      cases completed with
      | none =>
          refine ⟨_, .settle hshared hmodified (fun file hin => absurd hin List.not_mem_nil) found,
            World.bench_put world _ _, fun result h hc => ?_⟩
          cases h
          cases hc
      | some process =>
          refine ⟨_, .settle hshared hmodified (fun _ hin => hin) found, World.bench_put world _ _,
            fun result _ _ session file hfile => ?_⟩
          exact (Session.contents_record ..).trans (if_pos hfile)

/-- What a fix does to the sessions. -/
theorem fix_tends (hspares : shell.Spares tool.name) {world : World τ σ}
    (hfew : (world.bench tool.name).sessions.length ≤ Workbench.capacity) (files : List String) (token : Nat) :
    (((tool.fix shell files token).on world).2.bench tool.name = world.bench tool.name ∧
        ∀ result, ((tool.fix shell files token).on world).1 ≠ .ok result) ∨
      ∃ targets change, tool.Tends .fix files world ((tool.fix shell files token).on world) targets change := by
  unfold fix
  by_cases hcan : tool.kind.canFix = true
  · simp only [hcan, Bool.not_true, Bool.false_eq_true, if_false]
    rw [Act.on_bind_of_ok (Act.on_now world), Act.on_bind_of_ok (Act.on_get world)]
    cases hn : world.disk.normalizeAll files with
    | error fault =>
        rw [Act.on_bind, Act.on_ofExcept]
        exact Or.inl ⟨rfl, fun result h => (by cases h)⟩
    | ok targets =>
        obtain ⟨session, hfocus, hfocused⟩ := on_focusOn hfew targets
        let opened : World τ σ := { world with
          benches := world.benches.put tool.name (tool.focused targets (world.bench tool.name)) }
        have hopened : opened.bench tool.name = tool.focused targets (world.bench tool.name) := World.bench_put world _ _
        rw [Act.on_bind_of_ok (Act.on_ofExcept (Except.ok targets) world), Act.on_bind_of_ok hfocus,
          Act.on_bind_of_ok (Act.on_get _), world.disk.snapshot_of_nodup (nodup_normalizeAll hn)]
        -- Where the fix comes to nothing, the session for the files is the current one.
        have hnothing : ∀ (fault : Fault) (after : World τ σ), after.bench tool.name = opened.bench tool.name →
            tool.Tends .fix files world (.error fault, after) targets id := by
          intro fault after hafter
          refine ⟨hn, .nothing, ?_, fun result h => (by cases h)⟩
          rw [hafter, hopened, Workbench.update_id]
        cases hcommand : tool.fixCommand targets with
        | error fault =>
            rw [Act.on_bind, Act.on_ofExcept]
            exact Or.inr ⟨targets, id, hnothing fault _ rfl⟩
        | ok command =>
            rw [Act.on_bind_of_ok (Act.on_ofExcept (Except.ok command) _)]
            obtain ⟨after, hapart, hcases⟩ := invoke_cases hspares command token opened
            let settling (completed : Option Completed) : Act τ σ (EngineResult τ) :=
              tool.settle targets (targets.map fun file => (file, world.disk.digest file)) completed world.clock.now
            have hsettled : ∀ completed, (unlessCancelled (tool.invoke shell command token)).on opened = (.ok completed, after) →
                ∃ change, tool.Tends .fix files world
                  ((unlessCancelled (tool.invoke shell command token) >>= settling).on opened) targets change := by
              intro completed hon
              obtain ⟨change, hkeeps, hbench, hnoted⟩ :=
                settle_tends (Kind.isPerFile_of_canFix hcan) world.disk (nodup_normalizeAll hn) completed world.clock.now after
              rw [Act.on_bind_of_ok hon]
              refine ⟨change, hn, hkeeps, ?_, fun result h hc own _ file hfile _ => hnoted result h hc own file hfile⟩
              rw [hbench, hapart, hopened]
            rcases hcases with ⟨completed, -, hon, -⟩ | hon | ⟨fault, hon⟩
            · exact Or.inr ⟨targets, hsettled _ hon⟩
            · exact Or.inr ⟨targets, hsettled _ hon⟩
            · have hfails : (unlessCancelled (tool.invoke shell command token) >>= settling).on opened =
                  (.error fault, after) := by
                rw [Act.on_bind, hon]
              exact Or.inr ⟨targets, id, hfails ▸ hnothing fault after hapart⟩
  · simp only [hcan, Bool.not_false, if_true]
    rw [Act.on_bind, Act.on_throw]
    exact Or.inl ⟨rfl, fun result h => (by cases h)⟩

/-- What a tool does when it is called. -/
def work (shell : Shell τ σ) (tool : Tool) : Pass → List String → Nat → Act τ σ (EngineResult τ)
  | .check => tool.check shell
  | .fix => tool.fix shell

/-- What a call does to the sessions. -/
theorem call_tends (hspares : shell.Spares tool.name) {world : World τ σ}
    (hfew : (world.bench tool.name).sessions.length ≤ Workbench.capacity) (pass : Pass) (files : List String)
    (token : Nat) :
    (((tool.work shell pass files token).on world).2.bench tool.name = world.bench tool.name ∧
        ∀ result, ((tool.work shell pass files token).on world).1 ≠ .ok result) ∨
      ∃ targets change, tool.Tends pass files world ((tool.work shell pass files token).on world) targets change := by
  cases pass with
  | check => exact check_tends hspares hfew files token
  | fix => exact fix_tends hspares hfew files token

end Tool

/-- What comes of a call of a tool as an engine. -/
theorem Engine.on_call [Quantity τ] (shell : Shell τ σ) (tool : Tool) (pass : Pass) (files : List String) (token : Nat)
    (world : World τ σ) :
    Change.on ((Engine.ofTool shell tool).call pass files token) world =
      (match ((tool.work shell pass files token).on world).1 with
        | .ok value => .result value
        | .error fault => .fault fault, ((tool.work shell pass files token).on world).2) := by
  cases pass <;> rfl

/-- A call of a tool as an engine that came to a result. -/
theorem Engine.on_work_of_call [Quantity τ] {shell : Shell τ σ} {tool : Tool} {pass : Pass} {files : List String}
    {token : Nat} {world after : World τ σ} {result : EngineResult τ}
    (h : Change.on ((Engine.ofTool shell tool).call pass files token) world = (.result result, after)) :
    (tool.work shell pass files token).on world = (.ok result, after) := by
  rw [Engine.on_call] at h
  rcases hwork : (tool.work shell pass files token).on world with ⟨outcome, last⟩
  rw [hwork] at h
  cases outcome <;> cases h
  rfl

end FixFirst
