import Mathlib
import FixFirst.Disk

/-!
# Rewriting files

What a path resolves to depends on where files, links and directories are, and not on what is
written in files.  So paths mean the same before and after files are rewritten.

## Main definitions

* `Disk.SamePlaces` — two disks with files, links and directories in the same places.
* `Disk.Alike` — two disks on which all paths mean the same.
* `Disk.Unlimited` — a disk on which every name can be looked up.

## Main statements

* `Disk.normalizeAll_ok`, `Disk.normalizeAll_of_fixed` — what lists of paths normalise to.
* `Disk.SamePlaces.alike` — paths mean the same where places are the same.
* `Disk.alike_write` — rewriting a file that is there changes the meaning of no path.
* `Disk.normalize_looped` — a path that normalises to another one when it is normalised again.
-/

namespace FixFirst

namespace Disk

/-- Whether two disks have files, links and directories in the same places, the same users, and the same
limits. -/
structure SamePlaces (before after : Disk) : Prop where
  files : after.files.keys = before.files.keys
  links : after.links = before.links
  directories : after.directories = before.directories
  locked : after.locked = before.locked
  cwd : after.cwd = before.cwd
  home : after.home = before.home
  users : after.users = before.users
  longestName : after.longestName = before.longestName
  longestPath : after.longestPath = before.longestPath
  nesting : after.nesting = before.nesting

/-- Whether all paths mean the same on two disks. -/
def Alike (before after : Disk) : Prop := ∀ text, after.normalize text = before.normalize text

theorem Alike.refl (disk : Disk) : disk.Alike disk := fun _ => rfl

theorem Alike.trans {first second third : Disk} (h : first.Alike second) (h' : second.Alike third) :
    first.Alike third := fun text => (h' text).trans (h text)

theorem Alike.normalizeAll {before after : Disk} (h : before.Alike after) (texts : List String) :
    after.normalizeAll texts = before.normalizeAll texts := by
  have hsame : after.normalize = before.normalize := funext h
  unfold Disk.normalizeAll
  rw [hsame]

/-- What a list of paths normalises to: what each of them does, without repetitions. -/
theorem normalizeAll_ok {disk : Disk} {texts files : List String} (h : disk.normalizeAll texts = .ok files) :
    ∃ all, List.Forall₂ (fun text file => disk.normalize text = .ok file) texts all ∧ files = firsts all := by
  have hmap : ∀ all, texts.mapM disk.normalize = .ok all →
      List.Forall₂ (fun text file => disk.normalize text = .ok file) texts all := by
    clear h
    induction texts with
    | nil =>
        intro all hall
        cases hall
        exact .nil
    | cons first rest ih =>
        intro all hall
        rw [List.mapM_cons] at hall
        cases hfirst : disk.normalize first with
        | error fault =>
            rw [hfirst] at hall
            cases hall
        | ok file =>
            cases hrest : rest.mapM disk.normalize with
            | error fault =>
                rw [hfirst, hrest] at hall
                cases hall
            | ok others =>
                rw [hfirst, hrest] at hall
                cases hall
                exact .cons hfirst (ih others hrest)
  unfold Disk.normalizeAll at h
  cases hall : texts.mapM disk.normalize with
  | error fault =>
      rw [hall] at h
      cases h
  | ok all =>
      rw [hall] at h
      exact ⟨all, hmap all hall, (Except.ok.inj h).symm⟩

/-- What a list of paths normalises to has what each of them normalises to. -/
theorem exists_normalize {disk : Disk} {texts files : List String} (h : disk.normalizeAll texts = .ok files)
    {text : String} (hin : text ∈ texts) : ∃ file ∈ files, disk.normalize text = .ok file := by
  obtain ⟨all, hall, rfl⟩ := normalizeAll_ok h
  have hfound : ∃ file ∈ all, disk.normalize text = .ok file := by
    clear h
    induction hall with
    | nil => cases hin
    | @cons first file texts all head tail ih =>
        rcases List.mem_cons.mp hin with rfl | hrest
        · exact ⟨file, List.mem_cons_self, head⟩
        · obtain ⟨other, hother, heq⟩ := ih hrest
          exact ⟨other, List.mem_cons_of_mem _ hother, heq⟩
  obtain ⟨file, hfile, heq⟩ := hfound
  exact ⟨file, (mem_firsts all file).mpr hfile, heq⟩

/-- What a list of paths normalises to has nothing but what some of them normalise to. -/
theorem exists_of_mem_normalizeAll {disk : Disk} {texts files : List String} (h : disk.normalizeAll texts = .ok files)
    {file : String} (hin : file ∈ files) : ∃ text ∈ texts, disk.normalize text = .ok file := by
  obtain ⟨all, hall, rfl⟩ := normalizeAll_ok h
  rw [mem_firsts] at hin
  clear h
  induction hall with
  | nil => cases hin
  | @cons first own texts all head tail ih =>
      rcases List.mem_cons.mp hin with rfl | hrest
      · exact ⟨first, List.mem_cons_self, head⟩
      · obtain ⟨text, htext, heq⟩ := ih hrest
        exact ⟨text, List.mem_cons_of_mem _ htext, heq⟩

theorem firsts_of_nodup {files : List String} (h : files.Nodup) : firsts files = files := by
  have hfold : ∀ (rest seen : List String), (seen ++ rest).Nodup →
      rest.foldl (fun seen item => if seen.contains item then seen else seen ++ [item]) seen = seen ++ rest := by
    intro rest
    induction rest with
    | nil => intro seen _; simp
    | cons first rest ih =>
        intro seen hnodup
        have hnew : first ∉ seen := fun hin =>
          (List.nodup_append.mp hnodup).2.2 first hin first List.mem_cons_self rfl
        rw [List.foldl_cons, if_neg (by simpa using hnew), ih _ (by simpa using hnodup), List.append_assoc]
        rfl
  exact hfold files [] h

/-- Files that are normalised already, each one named once, stay as they are. -/
theorem normalizeAll_of_fixed {disk : Disk} {texts files : List String} (h : disk.normalizeAll texts = .ok files)
    (hnodup : texts.Nodup) (hfixed : ∀ text ∈ texts, disk.normalize text = .ok text) : files = texts := by
  obtain ⟨all, hall, rfl⟩ := normalizeAll_ok h
  have hsame : all = texts := by
    clear h hnodup
    induction hall with
    | nil => rfl
    | @cons first own texts all head tail ih =>
        rw [hfixed first List.mem_cons_self] at head
        rw [Except.ok.inj head, ih fun text hin => hfixed text (List.mem_cons_of_mem _ hin)]
  rw [hsame, firsts_of_nodup hnodup]

namespace SamePlaces

variable {before after : Disk}

theorem isDirectory (h : before.SamePlaces after) (names : List String) :
    after.isDirectory names = before.isDirectory names := by
  unfold Disk.isDirectory Disk.entries
  rw [h.files, h.links, h.directories, h.cwd, h.home]

theorem link? (h : before.SamePlaces after) (names : List String) : after.link? names = before.link? names := by
  unfold Disk.link?
  rw [h.links]

theorem present (h : before.SamePlaces after) (names : List String) : after.present names = before.present names := by
  have hfile : (after.file? names).isSome = (before.file? names).isSome := by
    rw [Bool.eq_iff_iff]
    refine (Keyed.holds_iff after.files _).trans ?_
    rw [h.files]
    exact (Keyed.holds_iff before.files _).symm
  unfold Disk.present
  rw [hfile, h.isDirectory]

theorem refusal? (h : before.SamePlaces after) (here : List String) (name : String) :
    after.refusal? here name = before.refusal? here name := by
  unfold Disk.refusal? Disk.isLocked
  rw [h.isDirectory, h.locked, h.cwd, h.longestName]

theorem walk (h : before.SamePlaces after) (through : Bool) (links : Nat) (here names : List String) :
    after.walk through links here names = before.walk through links here names := by
  induction links generalizing here names with
  | zero =>
      induction names generalizing here with
      | nil => rw [Disk.walk, Disk.walk]
      | cons name rest ih =>
          conv => lhs; rw [Disk.walk]
          conv => rhs; rw [Disk.walk]
          simp only [h.refusal?, h.isDirectory, h.link?, h.present, ih]
  | succ left ihleft =>
      induction names generalizing here with
      | nil => rw [Disk.walk, Disk.walk]
      | cons name rest ih =>
          conv => lhs; rw [Disk.walk]
          conv => rhs; rw [Disk.walk]
          simp only [h.refusal?, h.isDirectory, h.link?, h.present, ih, ihleft]

theorem namesFrom (h : before.SamePlaces after) (path : Path) : after.namesFrom path = before.namesFrom path := by
  unfold Disk.namesFrom
  rw [h.cwd]

theorem lead (h : before.SamePlaces after) (through : Bool) (path : Path) :
    after.lead through path = before.lead through path := by
  unfold Disk.lead
  rw [h.walk, h.namesFrom, h.longestPath]

theorem linkAt? (h : before.SamePlaces after) (path : Path) : after.linkAt? path = before.linkAt? path := by
  unfold Disk.linkAt?
  rw [h.lead]

theorem resolveFrom (h : before.SamePlaces after) (depth : Nat) (trail : Trail) (here : Path) (names : List String) :
    after.resolveFrom depth trail here names = before.resolveFrom depth trail here names := by
  induction depth generalizing trail here names with
  | zero =>
      induction names generalizing trail here with
      | nil => rw [Disk.resolveFrom, Disk.resolveFrom]
      | cons name rest ih =>
          conv => lhs; rw [Disk.resolveFrom]
          conv => rhs; rw [Disk.resolveFrom]
          simp only [h.linkAt?, ih]
  | succ left ihleft =>
      induction names generalizing trail here with
      | nil => rw [Disk.resolveFrom, Disk.resolveFrom]
      | cons name rest ih =>
          conv => lhs; rw [Disk.resolveFrom]
          conv => rhs; rw [Disk.resolveFrom]
          simp only [h.linkAt?, ih, ihleft]

theorem settle (h : before.SamePlaces after) (path : Path) : after.settle path = before.settle path := by
  unfold Disk.settle Disk.follow Disk.absolute
  simp only [h.lead, h.cwd]

theorem resolve (h : before.SamePlaces after) (path : Path) : after.resolve path = before.resolve path := by
  unfold Disk.resolve Disk.resolveNames
  simp only [h.resolveFrom, h.settle, h.nesting]

/-- Paths mean the same where places are the same. -/
theorem alike (h : before.SamePlaces after) : before.Alike after := by
  intro text
  unfold Disk.normalize Disk.normalizePath Disk.expandHome Disk.absolute
  simp only [h.resolve, h.home, h.users, h.cwd]

end SamePlaces

/-- Rewriting a file that is there changes the meaning of no path. -/
theorem alike_write {disk : Disk} {path : String} (hthere : path ∈ disk.files.keys) (bytes : List UInt8) :
    disk.Alike (disk.write path (some bytes)) := by
  refine SamePlaces.alike ⟨?_, rfl, rfl, rfl, rfl, rfl, rfl, rfl, rfl, rfl⟩
  exact (Keyed.keys_put disk.files path bytes).trans (if_pos hthere)

/-! ### Disks on which every name can be looked up -/

/-- Whether no directory is locked, and names and paths may have any length. -/
structure Unlimited (disk : Disk) : Prop where
  locked : disk.locked = []
  longestName : disk.longestName = none
  longestPath : disk.longestPath = none

theorem unlimited_empty (cwd home : List String) : (Disk.empty cwd home).Unlimited := ⟨rfl, rfl, rfl⟩

theorem unlimited_write {disk : Disk} (h : disk.Unlimited) (path : String) (bytes : Option (List UInt8)) :
    (disk.write path bytes).Unlimited := by
  cases bytes <;> exact ⟨h.locked, h.longestName, h.longestPath⟩

namespace Unlimited

variable {disk : Disk}

theorem refusal? (h : disk.Unlimited) (here : List String) (name : String) : disk.refusal? here name = none := by
  unfold Disk.refusal? Disk.isLocked
  rw [h.locked, h.longestName]
  simp

theorem lead (h : disk.Unlimited) (through : Bool) (path : Path) :
    disk.lead through path = disk.walk through linkLimit [] (disk.namesFrom path) := by
  unfold Disk.lead
  rw [h.longestPath]
  exact if_neg Bool.false_ne_true

theorem walk_ne (h : disk.Unlimited) (through : Bool) (links : Nat) (here names : List String) (refusal : Refusal) :
    disk.walk through links here names ≠ .refused refusal := by
  fun_induction disk.walk through links here names with
  | case2 links here name rest known hrefused => exact absurd ((h.refusal? here name).symm.trans hrefused) nofun
  | case3 links here rest hopen hdirectory ih => exact ih
  | case5 links here name rest hopen hup hlink hpresent ih => exact ih
  | case9 here name rest hopen hup known hlink hlast left path ih => exact ih
  | _ => exact nofun

/-- Where every name can be looked up, there is an answer to what a path leads to. -/
theorem leadsTo (h : disk.Unlimited) (kind : List String → Bool) (path : Path) :
    disk.leadsTo kind path = .ok (!path.hasNul && (disk.locate? path).any kind) := by
  unfold Disk.leadsTo Disk.locate? Disk.follow
  cases path.hasNul with
  | true => rfl
  | false =>
      rw [h.lead]
      cases hwalk : disk.walk true linkLimit [] (disk.namesFrom path) with
      | refused refusal => exact absurd hwalk (h.walk_ne true linkLimit [] _ refusal)
      | _ => rfl

end Unlimited

/-! ### Normalising again -/

/-- A disk with a link that leads to itself, and a link that leads to a file. -/
def looped : Disk :=
  { Disk.empty [] [] with files := [("/c", [])], links := [("/loop", "loop"), ("/b", "c")], nesting := 40 }

-- What names hold, and what a disk holds, is evaluated by equations: unfolding texts is slow.
attribute [local irreducible] Path.hasNul Disk.isDirectory Disk.present

/-- What a path normalises to may normalise to another path: names after a link that cannot be resolved are kept
as they are written, be they links or not. -/
theorem normalize_looped : looped.normalize "/loop/../b" = .ok "/b" ∧ looped.normalize "/b" = .ok "/c" := by
  constructor <;> cbv

end Disk

end FixFirst
