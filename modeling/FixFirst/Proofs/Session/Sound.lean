import Mathlib.Data.List.Basic
import FixFirst.Session

/-!
# Sessions that hold the truth

What a tool finds in a file is taken to be a function of the fingerprint of its settings, of the
contents of all files that it looks at together, and of the file.  A session is sound if every entry
holds what the tool finds, given the contents that the session was made for; a workbench is sound if
all of its sessions are.  Everything that is done to a workbench keeps it sound.

## Main definitions

* `Truth` — what is found, by fingerprint, contents and file.
* `Session.contents` — the digests that a session was made for.
* `Session.Sound`, `Workbench.Sound` — every entry holds the truth.

## Main statements

* `Session.Sound.record`, `Session.Sound.forget` — what is noted and dropped.
* `Workbench.Sound.focusOn` — the session for a set of files.
* `Workbench.Sound.update` — changes of the current session.
-/

namespace FixFirst

/-- What is found in a file: by the fingerprint of the settings, the digests of all files that are
looked at together, and the file. -/
abbrev Truth := String → (String → Option String) → String → List Issue

/-- Whether what is found in a file depends on the contents of that file only. -/
def Truth.Alone (truth : Truth) : Prop :=
  ∀ fingerprint contents contents' file, contents file = contents' file →
    truth fingerprint contents file = truth fingerprint contents' file

/-! ### Snapshots -/

namespace Keyed

variable {α : Type}

theorem put_of_notMem {entries : Keyed α} {key : String} (value : α) (h : key ∉ entries.keys) :
    entries.put key value = entries ++ [(key, value)] := by
  induction entries with
  | nil => rfl
  | cons entry rest ih =>
      simp only [keys, List.map_cons, List.mem_cons, not_or] at h
      unfold put
      rw [if_neg fun e => h.1 e.symm, ih h.2]
      rfl

theorem foldl_put_of_nodup (pairs : List (String × α)) (entries : Keyed α)
    (h : (entries.keys ++ pairs.map (·.1)).Nodup) :
    pairs.foldl (fun entries pair => entries.put pair.1 pair.2) entries = entries ++ pairs := by
  induction pairs generalizing entries with
  | nil => simp
  | cons pair rest ih =>
      have hnew : pair.1 ∉ entries.keys := by
        intro hin
        rw [List.nodup_append] at h
        exact h.2.2 pair.1 hin pair.1 List.mem_cons_self rfl
      rw [List.foldl_cons, put_of_notMem pair.2 hnew, ih, List.append_assoc]
      · rfl
      · simpa [keys] using h

theorem ofPairs_of_nodup {pairs : List (String × α)} (h : (pairs.map (·.1)).Nodup) : ofPairs pairs = pairs := by
  rw [ofPairs, foldl_put_of_nodup pairs [] (by simpa [keys] using h), List.nil_append]

end Keyed

namespace Disk

/-- The snapshot of files, each named once. -/
theorem snapshot_of_nodup (disk : Disk) {files : List String} (h : files.Nodup) :
    disk.snapshot files = files.map fun file => (file, disk.digest file) := by
  rw [snapshot, Keyed.ofPairs_of_nodup]
  rw [List.map_map]
  exact (List.map_id'' (fun _ => rfl) files).symm ▸ h

/-- The digests of some files, and of no others. -/
def contentsOf (disk : Disk) (files : List String) (file : String) : Option String :=
  if file ∈ files then some (disk.digest file) else none

end Disk

namespace Session

/-! ### Entries -/

/-- The digests that the entries of a session were made for. -/
def contents (session : Session) (file : String) : Option String := (session.entries.get? file).map (·.digest)

/-- Whether every entry holds the truth, and is about one of the files of the session. -/
structure Sound (truth : Truth) (session : Session) : Prop where
  entries : ∀ file entry, session.entries.get? file = some entry →
    entry.issues = truth session.fingerprint session.contents file
  within : ∀ file, session.contents file ≠ none → file ∈ session.files

theorem sound_new (truth : Truth) (fingerprint : String) (files : List String) (directory : Path) :
    Sound truth (new fingerprint files directory) where
  entries file entry h := by cases h
  within file h := absurd rfl h

theorem get?_record (session : Session) (files : List String) (digest : String → String) (issues : List Issue)
    (file : String) :
    (session.record (files.map fun file => (file, digest file)) issues).entries.get? file =
      if file ∈ files then some ⟨digest file, issues.filter fun issue => issue.file == file⟩
      else session.entries.get? file := by
  unfold record
  simp only
  generalize session.entries = entries
  induction files generalizing entries with
  | nil => simp
  | cons first rest ih =>
      rw [List.map_cons, List.foldl_cons, ih]
      by_cases hrest : file ∈ rest
      · simp [hrest]
      · rw [if_neg hrest, Keyed.get?_put]
        by_cases h : first = file
        · simp [h]
        · have haway : file ≠ first := fun e => h e.symm
          simp [h, haway, hrest]

theorem get?_forget (session : Session) (files : List String) (file : String) :
    (session.forget files).entries.get? file = if file ∈ files then none else session.entries.get? file := by
  unfold forget
  simp only
  generalize session.entries = entries
  induction files generalizing entries with
  | nil => simp
  | cons first rest ih =>
      rw [List.foldl_cons, ih]
      by_cases hrest : file ∈ rest
      · simp [hrest]
      · rw [if_neg hrest, Keyed.get?_erase]
        by_cases h : first = file
        · simp [h]
        · have haway : file ≠ first := fun e => h e.symm
          simp [h, haway, hrest]

/-- What is noted about files: the contents are the ones of the files, and the others stay. -/
theorem contents_record (session : Session) (files : List String) (digest : String → String) (issues : List Issue)
    (file : String) :
    (session.record (files.map fun file => (file, digest file)) issues).contents file =
      if file ∈ files then some (digest file) else session.contents file := by
  unfold contents
  rw [get?_record]
  by_cases h : file ∈ files <;> simp [h]

/-- What is dropped: nothing is known of the files, and the others stay. -/
theorem contents_forget (session : Session) (files : List String) (file : String) :
    (session.forget files).contents file = if file ∈ files then none else session.contents file := by
  unfold contents
  rw [get?_forget]
  by_cases h : file ∈ files <;> simp [h]

/-- A sound session stays sound when the truth is noted: about any of its files if each is looked at
alone, else about all of them. -/
theorem Sound.record {truth : Truth} {session : Session} (h : session.Sound truth) {files : List String}
    {digest : String → String} {issues : List Issue}
    (hshape : truth.Alone ∨ ∀ file ∈ session.files, file ∈ files) (hfiles : ∀ file ∈ files, file ∈ session.files)
    (hissues : ∀ file ∈ files, issues.filter (fun issue => issue.file == file) =
      truth session.fingerprint (fun file => if file ∈ files then some (digest file) else none) file) :
    (session.record (files.map fun file => (file, digest file)) issues).Sound truth := by
  have hcontents := contents_record session files digest issues
  refine ⟨fun file entry hentry => ?_, fun file hfile => ?_⟩
  · rw [get?_record] at hentry
    by_cases hin : file ∈ files
    · rw [if_pos hin] at hentry
      rw [← Option.some.inj hentry]
      refine (hissues file hin).trans ?_
      rcases hshape with halone | hall
      · refine halone _ _ _ file ?_
        rw [hcontents, if_pos hin, if_pos hin]
      · -- Nothing is left of what was known before, so the contents are the new ones.
        have hsame : (fun file => if file ∈ files then some (digest file) else none) =
            (session.record (files.map fun file => (file, digest file)) issues).contents := by
          funext other
          rw [hcontents]
          by_cases hother : other ∈ files
          · simp [hother]
          · have hnone : session.contents other = none := by
              by_cases hn : session.contents other = none
              · exact hn
              · exact absurd (hall other (h.within other hn)) hother
            simp [hother, hnone]
        rw [hsame]
        rfl
    · rw [if_neg hin] at hentry
      rcases hshape with halone | hall
      · refine (h.entries file entry hentry).trans (halone _ _ _ file ?_)
        rw [hcontents, if_neg hin]
      · have hsome : session.contents file ≠ none := by simp [contents, hentry]
        exact absurd (hall file (h.within file hsome)) hin
  · rw [hcontents] at hfile
    by_cases hin : file ∈ files
    · exact hfiles file hin
    · rw [if_neg hin] at hfile
      exact h.within file hfile

/-- Where each file is looked at alone, a session stays sound when something is dropped. -/
theorem Sound.forget {truth : Truth} {session : Session} (h : session.Sound truth) (halone : truth.Alone)
    (files : List String) : (session.forget files).Sound truth := by
  have hcontents := contents_forget session files
  refine ⟨fun file entry hentry => ?_, fun file hfile => ?_⟩
  · rw [get?_forget] at hentry
    by_cases hin : file ∈ files
    · rw [if_pos hin] at hentry
      cases hentry
    · rw [if_neg hin] at hentry
      refine (h.entries file entry hentry).trans (halone _ _ _ file ?_)
      rw [hcontents, if_neg hin]
  · rw [hcontents] at hfile
    by_cases hin : file ∈ files
    · rw [if_pos hin] at hfile
      exact absurd rfl hfile
    · rw [if_neg hin] at hfile
      exact h.within file hfile

theorem Sound.absorb {truth : Truth} {session : Session} (h : session.Sound truth) (files : List String) :
    (session.absorb files).Sound truth where
  entries := h.entries
  within file hfile := by
    simp only [Session.absorb, mem_firsts, List.mem_append]
    exact Or.inl (h.within file hfile)

/-- What a sound session answers for files whose contents it was made for. -/
theorem Sound.cached {truth : Truth} {session : Session} (h : session.Sound truth) {contents : String → Option String}
    (hshape : truth.Alone ∨ session.contents = contents) {files : List String}
    (hknown : ∀ file ∈ files, session.contents file = contents file ∧ contents file ≠ none) :
    session.cached files = files.flatMap (truth session.fingerprint contents) := by
  unfold Session.cached
  refine List.flatMap_congr fun file hfile => ?_
  obtain ⟨hsame, hsome⟩ := hknown file hfile
  cases hentry : session.entries.get? file with
  | none =>
      rw [← hsame] at hsome
      exact absurd (by simp [Session.contents, hentry]) hsome
  | some entry =>
      refine (h.entries file entry hentry).trans ?_
      rcases hshape with halone | hall
      · exact halone _ _ _ file hsame
      · rw [hall]

/-- What a sound session answers when it was made for the contents of all files that are asked for. -/
theorem Sound.answer {truth : Truth} {session : Session} (h : session.Sound truth) (disk : Disk) {targets : List String}
    (hshape : truth.Alone ∨ ∀ file ∈ session.files, file ∈ targets)
    (hknown : ∀ file ∈ targets, session.contents file = some (disk.digest file)) :
    session.cached targets = targets.flatMap (truth session.fingerprint (disk.contentsOf targets)) := by
  have hof : ∀ file ∈ targets, disk.contentsOf targets file = some (disk.digest file) := fun file hfile => if_pos hfile
  refine h.cached ?_ fun file hfile => ⟨(hknown file hfile).trans (hof file hfile).symm, by simp [hof file hfile]⟩
  rcases hshape with halone | hall
  · exact Or.inl halone
  · refine Or.inr (funext fun file => ?_)
    by_cases hin : file ∈ targets
    · rw [hknown file hin, hof file hin]
    · have hnone : session.contents file = none := by
        by_cases hn : session.contents file = none
        · exact hn
        · exact absurd (hall file (h.within file hn)) hin
      rw [hnone, Disk.contentsOf, if_neg hin]

/-- What a sound session answers for those files whose contents it was made for. -/
theorem Sound.answer_known {truth : Truth} {session : Session} (h : session.Sound truth) (halone : truth.Alone)
    (disk : Disk) (targets : List String) :
    session.cached (targets.filter fun file => session.contents file == some (disk.digest file)) =
      (targets.filter fun file => session.contents file == some (disk.digest file)).flatMap
        (truth session.fingerprint (disk.contentsOf targets)) := by
  refine h.cached (Or.inl halone) fun file hfile => ?_
  obtain ⟨hin, hknown⟩ := List.mem_filter.mp hfile
  have hof : disk.contentsOf targets file = some (disk.digest file) := if_pos hin
  rw [hof]
  exact ⟨by simpa using hknown, by simp⟩

theorem isStale_eq (session : Session) (file digest : String) :
    session.isStale file digest = !(session.contents file == some digest) := by
  unfold isStale contents
  cases session.entries.get? file with
  | none => rfl
  | some entry => simp [bne]

theorem stale_map (session : Session) (files : List String) (digest : String → String) :
    session.stale (files.map fun file => (file, digest file)) =
      files.filter fun file => !(session.contents file == some (digest file)) := by
  unfold stale
  rw [List.filter_map, List.map_map]
  simp only [Function.comp_def, isStale_eq, List.map_id']

end Session

theorem sameMembers_iff (first second : List String) :
    sameMembers first second = true ↔ ∀ file, file ∈ first ↔ file ∈ second := by
  simp only [sameMembers, Bool.and_eq_true, List.all_eq_true, List.contains_eq_mem, decide_eq_true_eq]
  constructor
  · rintro ⟨hleft, hright⟩ file
    exact ⟨hleft file, hright file⟩
  · intro h
    exact ⟨fun file hfile => (h file).mp hfile, fun file hfile => (h file).mpr hfile⟩

theorem sameMembers_refl (files : List String) : sameMembers files files = true :=
  (sameMembers_iff files files).mpr fun _ => Iff.rfl

theorem sameMembers_comm (first second : List String) : sameMembers first second = sameMembers second first :=
  Bool.and_comm ..

/-- Sets of files with the same members are the same to all others. -/
theorem sameMembers_congr {first second : List String} (h : ∀ file, file ∈ first ↔ file ∈ second) :
    (fun session : Session => sameMembers session.files first) = fun session => sameMembers session.files second := by
  funext other
  rw [Bool.eq_iff_iff, sameMembers_iff, sameMembers_iff]
  exact forall_congr' fun file => iff_congr Iff.rfl (h file)

theorem find?_of_unique {α : Type} {items : List α} {test : α → Bool} {item : α} (hin : item ∈ items)
    (htest : test item = true) (honly : ∀ other ∈ items, test other = true → other = item) :
    items.find? test = some item := by
  cases hfind : items.find? test with
  | none => exact absurd htest (List.find?_eq_none.mp hfind item hin)
  | some other => rw [honly other (List.mem_of_find?_eq_some hfind) (List.find?_some hfind)]

namespace Workbench

/-- Whether all sessions are sound.  Sessions about the same files have the same fingerprint, and
there are not too many. -/
structure Sound (truth : Truth) (bench : Workbench) : Prop where
  sessions : ∀ session ∈ bench.sessions, session.Sound truth
  agree : ∀ first ∈ bench.sessions, ∀ second ∈ bench.sessions,
    sameMembers first.files second.files = true → first.fingerprint = second.fingerprint
  few : bench.sessions.length ≤ capacity

/-- A workbench without sessions, bound to a fingerprint. -/
def fresh (fingerprint : String) : Workbench := ⟨fingerprint, [], none⟩

variable {truth : Truth} {bench : Workbench}

theorem Sound.of_nil (h : bench.sessions = []) : bench.Sound truth where
  sessions session hs := by
    rw [h] at hs
    cases hs
  agree first hf := by
    rw [h] at hf
    cases hf
  few := by simp [h]

theorem Sound.prepare (h : bench.Sound truth) (fingerprint : String) : (bench.prepare fingerprint).Sound truth := by
  unfold Workbench.prepare
  split
  · split
    · exact ⟨h.sessions, h.agree, h.few⟩
    · exact Sound.of_nil rfl
  · exact ⟨h.sessions, h.agree, h.few⟩

theorem Sound.single {session : Session} (h : session.Sound truth) (hs : bench.sessions = [session]) :
    bench.Sound truth where
  sessions other hother := by
    rw [hs] at hother
    rw [List.mem_singleton.mp hother]
    exact h
  agree first hfirst second hsecond _ := by
    rw [hs] at hfirst hsecond
    rw [List.mem_singleton.mp hfirst, List.mem_singleton.mp hsecond]
  few := by simp [hs, capacity]

/-! ### Keeping a session -/

/-- What is kept is the new session, and of the others only ones about other files. -/
theorem of_mem_keep {bench : Workbench} {session other : Session} (hother : other ∈ (bench.keep session).sessions) :
    other = session ∨ (other ∈ bench.sessions ∧ sameMembers other.files session.files = false) := by
  unfold keep at hother
  by_cases hany : (bench.sessions.any fun other => sameMembers other.files session.files) = true
  · simp only [hany, if_true] at hother
    obtain ⟨old, hold, rfl⟩ := List.mem_map.mp (List.mem_of_mem_drop hother)
    by_cases hsame : sameMembers old.files session.files = true
    · rw [if_pos hsame]
      exact Or.inl rfl
    · rw [if_neg hsame]
      exact Or.inr ⟨hold, by simpa using hsame⟩
  · simp only [hany, Bool.false_eq_true, if_false] at hother
    rcases List.mem_append.mp (List.mem_of_mem_drop hother) with hold | hnew
    · refine Or.inr ⟨hold, ?_⟩
      have hnone : ¬ ∃ known ∈ bench.sessions, sameMembers known.files session.files = true := by
        simpa using hany
      cases hsame : sameMembers other.files session.files with
      | false => rfl
      | true => exact absurd ⟨other, hold, hsame⟩ hnone
    · exact Or.inl (List.mem_singleton.mp hnew)

/-- The new session is kept, and there are not too many. -/
theorem mem_keep (bench : Workbench) (session : Session) (hfew : bench.sessions.length ≤ capacity) :
    session ∈ (bench.keep session).sessions ∧ (bench.keep session).sessions.length ≤ capacity := by
  unfold keep
  by_cases hany : (bench.sessions.any fun other => sameMembers other.files session.files) = true
  · simp only [hany, if_true]
    have hdrop : (bench.sessions.map fun other =>
        if sameMembers other.files session.files then session else other).length - capacity = 0 := by
      rw [List.length_map]
      omega
    rw [hdrop, List.drop_zero]
    refine ⟨?_, by simpa using hfew⟩
    obtain ⟨other, hother, hsame⟩ := List.any_eq_true.mp hany
    exact List.mem_map.mpr ⟨other, hother, if_pos hsame⟩
  · simp only [hany, Bool.false_eq_true, if_false]
    refine ⟨?_, ?_⟩
    · rw [List.drop_append_of_le_length]
      · exact List.mem_append_right _ (List.mem_singleton.mpr rfl)
      · rw [List.length_append, List.length_singleton]
        unfold capacity
        omega
    · rw [List.length_drop]
      omega

/-- A kept session is the only one about its files. -/
theorem eq_of_current?_keep {bench : Workbench} {session other : Session}
    (hcurrent : (bench.keep session).current? = some other) : other = session := by
  have hfind : (bench.keep session).sessions.find? (fun known => sameMembers known.files session.files) = some other :=
    hcurrent
  rcases of_mem_keep (List.mem_of_find?_eq_some hfind) with heq | ⟨-, haway⟩
  · exact heq
  · rw [List.find?_some hfind] at haway
    cases haway

theorem Sound.keep (h : bench.Sound truth) {session : Session} (hs : session.Sound truth) :
    (bench.keep session).Sound truth := by
  refine ⟨fun other hother => ?_, fun first hfirst second hsecond hsame => ?_, (mem_keep bench session h.few).2⟩
  · rcases of_mem_keep hother with rfl | ⟨hold, -⟩
    · exact hs
    · exact h.sessions other hold
  · rcases of_mem_keep hfirst with rfl | ⟨hold, haway⟩
    · rcases of_mem_keep hsecond with rfl | ⟨-, haway⟩
      · rfl
      · -- The new session is about other files than the ones that stayed.
        rw [sameMembers_comm, haway] at hsame
        cases hsame
    · rcases of_mem_keep hsecond with rfl | ⟨hold', -⟩
      · rw [haway] at hsame
        cases hsame
      · exact h.agree first hold second hold' hsame

/-- The session that was kept last is the current one. -/
theorem current?_keep (bench : Workbench) (session : Session) (hfew : bench.sessions.length ≤ capacity) :
    (bench.keep session).current? = some session := by
  have hfocus : (bench.keep session).focus = some session.files := rfl
  unfold current?
  rw [hfocus]
  refine find?_of_unique (mem_keep bench session hfew).1 (sameMembers_refl session.files) fun other hother hsame => ?_
  rcases of_mem_keep hother with rfl | ⟨-, haway⟩
  · rfl
  · rw [haway] at hsame
    cases hsame

/-! ### The session for a set of files -/

/-- The digests that are known in the current session, if it belongs to the current fingerprint. -/
def contents (bench : Workbench) (file : String) : Option String :=
  match bench.current? with
  | some session => if session.fingerprint = bench.fingerprint then session.contents file else none
  | none => none

/-- What the current session is when it was made for a set of files. -/
structure Focused (bench : Workbench) (shared : Bool) (files : List String) (next : Workbench) (session : Session) :
    Prop where
  current : next.current? = some session
  bound : next.fingerprint = bench.fingerprint
  fingerprint : session.fingerprint = bench.fingerprint
  covers : ∀ file ∈ files, file ∈ session.files
  exact : shared = false → ∀ file ∈ session.files, file ∈ files
  known : shared = true → session.contents = bench.contents

theorem current?_single {session : Session} (hs : bench.sessions = [session]) (hf : bench.focus = some session.files) :
    bench.current? = some session := by
  unfold current?
  rw [hf, hs]
  exact find?_of_unique (List.mem_singleton.mpr rfl) (sameMembers_refl _) fun other hother _ =>
    List.mem_singleton.mp hother

theorem Sound.of_current? (h : bench.Sound truth) {session : Session} (hcurrent : bench.current? = some session) :
    session.Sound truth := by
  unfold current? at hcurrent
  obtain ⟨focus, -, hfind⟩ := Option.bind_eq_some_iff.mp hcurrent
  exact h.sessions session (List.mem_of_find?_eq_some hfind)

theorem contents_of_current? {session : Session} (h : bench.current? = some session)
    (hf : session.fingerprint = bench.fingerprint) : bench.contents = session.contents := by
  funext file
  unfold contents
  rw [h]
  exact if_pos hf

/-- One session for all files: it is extended, or made anew. -/
theorem focused_shared (bench : Workbench) (directory : Path) (files : List String) :
    ∃ session, Focused bench true files (bench.focusOn true directory files) session := by
  have hfresh : (∀ file, bench.contents file = none) →
      Focused bench true files ⟨bench.fingerprint, [Session.new bench.fingerprint files directory],
        some (Session.new bench.fingerprint files directory).files⟩ (Session.new bench.fingerprint files directory) := by
    intro hnone
    refine ⟨current?_single rfl rfl, rfl, rfl, ?_, fun hc => (Bool.noConfusion hc), fun _ => ?_⟩
    · intro file hfile
      exact (mem_firsts files file).mpr hfile
    · funext file
      rw [hnone]
      rfl
  unfold focusOn
  simp only [if_true]
  cases hcurrent : bench.current? with
  | none =>
      refine ⟨_, hfresh fun file => ?_⟩
      unfold contents
      rw [hcurrent]
  | some session =>
      by_cases hf : session.fingerprint = bench.fingerprint
      · simp only [hf, if_true]
        refine ⟨session.absorb files, current?_single rfl rfl, rfl, hf, ?_, fun hc => (Bool.noConfusion hc), fun _ => ?_⟩
        · intro file hfile
          simp only [Session.absorb, mem_firsts, List.mem_append]
          exact Or.inr hfile
        · rw [contents_of_current? hcurrent hf]
          rfl
      · simp only [hf, if_false]
        refine ⟨_, hfresh fun file => ?_⟩
        unfold contents
        rw [hcurrent]
        exact if_neg hf

/-- A session for each set of files: it is found, or made anew. -/
theorem focused_own (hfew : bench.sessions.length ≤ capacity) (directory : Path) (files : List String) :
    ∃ session, Focused bench false files (bench.focusOn false directory files) session := by
  have hfresh : Focused bench false files (bench.keep (Session.new bench.fingerprint files directory))
      (Session.new bench.fingerprint files directory) := by
    refine ⟨current?_keep bench _ hfew, rfl, rfl, ?_, fun _ => ?_, fun hc => (Bool.noConfusion hc)⟩
    · intro file hfile
      exact (mem_firsts files file).mpr hfile
    · intro file hfile
      exact (mem_firsts files file).mp hfile
  unfold focusOn
  simp only [Bool.false_eq_true, if_false]
  cases hfind : bench.sessions.find? fun session => sameMembers session.files files with
  | none => exact ⟨_, hfresh⟩
  | some session =>
      by_cases hf : session.fingerprint = bench.fingerprint
      · simp only [hf, if_true]
        have hfound := List.find?_some hfind
        have hsame := (sameMembers_iff _ _).mp hfound
        refine ⟨session, ?_, rfl, hf, fun file hfile => (hsame file).mpr hfile,
          fun _ file hfile => (hsame file).mp hfile, fun hc => (Bool.noConfusion hc)⟩
        unfold current?
        simp only [Option.bind_eq_bind, Option.bind_some, sameMembers_congr hsame]
        exact hfind
      · simp only [hf, if_false]
        exact ⟨_, hfresh⟩

theorem fingerprint_prepare (bench : Workbench) (fingerprint : String) :
    (bench.prepare fingerprint).fingerprint = fingerprint := by
  unfold prepare
  split
  · split <;> rfl
  · rfl

/-- Whatever session a workbench comes to use for files is one for its fingerprint. -/
theorem fingerprint_focusOn {shared : Bool} {directory : Path} {files : List String}
    {session : Session} (h : (bench.focusOn shared directory files).current? = some session) :
    session.fingerprint = bench.fingerprint := by
  cases shared with
  | true =>
      obtain ⟨focused, hfocused⟩ := focused_shared bench directory files
      cases hfocused.current.symm.trans h
      exact hfocused.fingerprint
  | false =>
      unfold focusOn at h
      simp only [Bool.false_eq_true, if_false] at h
      split at h
      · rename_i known hknown
        split at h
        · rename_i hbound
          have hfound := List.find?_some hknown
          have hsame := (sameMembers_iff _ _).mp hfound
          unfold current? at h
          simp only [Option.bind_eq_bind, Option.bind_some, sameMembers_congr hsame] at h
          cases hknown.symm.trans h
          exact hbound
        · rw [eq_of_current?_keep h]
          rfl
      · rw [eq_of_current?_keep h]
        rfl

/-- Focusing makes a session for the files the current one. -/
theorem focused (hfew : bench.sessions.length ≤ capacity) (shared : Bool) (directory : Path) (files : List String) :
    ∃ session, Focused bench shared files (bench.focusOn shared directory files) session := by
  cases shared with
  | true => exact focused_shared bench directory files
  | false => exact focused_own hfew directory files

/-- Extending the session for all files keeps a workbench sound, and so does making it anew. -/
theorem Sound.focusOn_shared (h : bench.Sound truth) (directory : Path) (files : List String) :
    (bench.focusOn true directory files).Sound truth := by
  have hfresh := Session.sound_new truth bench.fingerprint files directory
  unfold Workbench.focusOn
  simp only [if_true]
  cases hcurrent : bench.current? with
  | none => exact Sound.single hfresh rfl
  | some session =>
      by_cases hf : session.fingerprint = bench.fingerprint
      · simp only [hf, if_true]
        exact Sound.single ((h.of_current? hcurrent).absorb files) rfl
      · simp only [hf, if_false]
        exact Sound.single hfresh rfl

/-- Finding the session for a set of files keeps a workbench sound, and so does making it anew. -/
theorem Sound.focusOn_own (h : bench.Sound truth) (directory : Path) (files : List String) :
    (bench.focusOn false directory files).Sound truth := by
  have hfresh := h.keep (Session.sound_new truth bench.fingerprint files directory)
  unfold Workbench.focusOn
  simp only [Bool.false_eq_true, if_false]
  cases bench.sessions.find? fun session => sameMembers session.files files with
  | none => exact hfresh
  | some session =>
      by_cases hf : session.fingerprint = bench.fingerprint
      · simp only [hf, if_true]
        exact ⟨h.sessions, h.agree, h.few⟩
      · simp only [hf, if_false]
        exact hfresh

/-- Focusing keeps a workbench sound and makes a session for the files the current one. -/
theorem Sound.focusOn (h : bench.Sound truth) (shared : Bool) (directory : Path) (files : List String) :
    (bench.focusOn shared directory files).Sound truth ∧
      ∃ session, Focused bench shared files (bench.focusOn shared directory files) session := by
  refine ⟨?_, focused h.few shared directory files⟩
  cases shared with
  | true => exact h.focusOn_shared directory files
  | false => exact h.focusOn_own directory files

/-! ### Changing the current session -/

/-- A change of the current session that leaves its files alone. -/
theorem current?_update {change : Session → Session} (hfiles : ∀ session, (change session).files = session.files) :
    (bench.update change).current? = bench.current?.map change := by
  unfold update
  cases hfocus : bench.focus with
  | none => simp [current?, hfocus]
  | some files =>
      simp only [current?, hfocus, Option.bind_eq_bind, Option.bind_some]
      rw [List.find?_map]
      have htest : ((fun session : Session => sameMembers session.files files) ∘
          fun session => if sameMembers session.files files then change session else session) =
          fun session => sameMembers session.files files := by
        funext session
        by_cases hs : sameMembers session.files files = true
        · simp [hs, hfiles]
        · simp [hs]
      rw [htest]
      cases hfind : bench.sessions.find? fun session => sameMembers session.files files with
      | none => rfl
      | some session => simp [List.find?_some hfind]

/-- A workbench stays sound when every session about the files of the current one does. -/
theorem Sound.update (h : bench.Sound truth) {session : Session} (hcurrent : bench.current? = some session)
    {change : Session → Session} (hfiles : ∀ session, (change session).files = session.files)
    (hbound : ∀ session, (change session).fingerprint = session.fingerprint)
    (hchange : ∀ other : Session, other.Sound truth → other.fingerprint = session.fingerprint →
      (∀ file, file ∈ other.files ↔ file ∈ session.files) → (change other).Sound truth) :
    (bench.update change).Sound truth := by
  unfold current? at hcurrent
  obtain ⟨focus, hfocus, hfind⟩ := Option.bind_eq_some_iff.mp hcurrent
  have hhere : session ∈ bench.sessions := List.mem_of_find?_eq_some hfind
  have hfound := List.find?_some hfind
  have hmine := (sameMembers_iff _ _).mp hfound
  have hsessions : (bench.update change).sessions = bench.sessions.map fun other =>
      if sameMembers other.files focus then change other else other := by
    unfold Workbench.update
    rw [hfocus]
  have hkept : ∀ other : Session,
      (if sameMembers other.files focus then change other else other).files = other.files ∧
      (if sameMembers other.files focus then change other else other).fingerprint = other.fingerprint := by
    intro other
    by_cases hs : sameMembers other.files focus = true
    · rw [if_pos hs]
      exact ⟨hfiles other, hbound other⟩
    · rw [if_neg hs]
      exact ⟨rfl, rfl⟩
  refine ⟨fun other hother => ?_, fun first hfirst second hsecond hsame => ?_, ?_⟩
  · rw [hsessions] at hother
    obtain ⟨old, hold, rfl⟩ := List.mem_map.mp hother
    by_cases hs : sameMembers old.files focus = true
    · rw [if_pos hs]
      have hmembers : ∀ file, file ∈ old.files ↔ file ∈ session.files := fun file =>
        ((sameMembers_iff _ _).mp hs file).trans (hmine file).symm
      exact hchange old (h.sessions old hold)
        (h.agree old hold session hhere ((sameMembers_iff _ _).mpr hmembers)) hmembers
    · rw [if_neg hs]
      exact h.sessions old hold
  · rw [hsessions] at hfirst hsecond
    obtain ⟨old, hold, rfl⟩ := List.mem_map.mp hfirst
    obtain ⟨old', hold', rfl⟩ := List.mem_map.mp hsecond
    rw [(hkept old).1, (hkept old').1] at hsame
    rw [(hkept old).2, (hkept old').2]
    exact h.agree old hold old' hold' hsame
  · rw [hsessions, List.length_map]
    exact h.few

end Workbench

end FixFirst
