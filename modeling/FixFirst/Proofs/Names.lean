import FixFirst.Proofs.Range

/-!
# Paths that can be read

A NUL cannot be part of a name, of the target of a link, or of a directory.  On disks where that is
so, a text without NULs denotes a path that can be normalised, and what it normalises to is such a
text again, unless it starts with the home directory of a user who does not exist.

## Main definitions

* `Legible` — a text without NULs; `Disk.Legible` — a disk without them.
* `Nameable` — a text that denotes a path on every such disk with given users.

## Main statements

* `Disk.legible_resolveFrom` — resolving names brings no NUL in.
* `Disk.normalizePath_ok_iff` — which paths without NULs can be made absolute.
* `Disk.normalize_nameable` — a nameable text normalises to a nameable text.
-/

namespace FixFirst

/-- Whether a text has no NUL. -/
def Legible (text : String) : Prop := Char.ofNat 0 ∉ text.toList

instance : DecidablePred Legible := fun _ => inferInstanceAs (Decidable (_ ∉ _))

/-- Whether no name of a path has a NUL. -/
def Path.Legible (path : Path) : Prop := ∀ name ∈ path.names, FixFirst.Legible name

/-- Whether links and directories are named without NULs. -/
structure Disk.Legible (disk : Disk) : Prop where
  links : ∀ link ∈ disk.links, FixFirst.Legible link.2
  cwd : ∀ name ∈ disk.cwd, FixFirst.Legible name
  home : ∀ name ∈ disk.home, FixFirst.Legible name
  users : ∀ user ∈ disk.users, ∀ name ∈ user.2, FixFirst.Legible name

variable {users : Keyed (List String)}

/-- Whether a relative path does not start with the home directory of a user who does not exist. -/
def Path.Known (users : Keyed (List String)) (path : Path) : Prop :=
  path.isAbsolute = false → ∀ name ∈ path.names.head?, name.toList.head? = some '~' →
    name = "~" ∨ users.holds (String.ofList name.toList.tail) = true

/-- Whether a text denotes a path on every disk without NULs that has certain users: it has no NUL itself, and does
not start with the home directory of another user than these. -/
structure Nameable (users : Keyed (List String)) (text : String) : Prop where
  legible : FixFirst.Legible text
  known : (Path.ofText text).Known users

/-- In an absolute directory the home directory of no user is needed. -/
theorem Path.known_under {base : Path} (h : base.isAbsolute = true) (path : Path) : (base.under path).Known users := by
  intro hrelative
  have habsolute : (base.under path).isAbsolute = true := by
    unfold Path.under
    split
    · assumption
    · exact h
  exact absurd habsolute (by simp [hrelative])

/-- An absolute path without NULs can be named wherever. -/
theorem nameable_absolute {text : String} (h : Legible text) (habsolute : (Path.ofText text).isAbsolute = true) :
    Nameable users text := ⟨h, fun hrelative => by cases habsolute.symm.trans hrelative⟩

/-- An empty disk has no links. -/
theorem Disk.legible_empty {cwd home : List String} (hcwd : ∀ name ∈ cwd, FixFirst.Legible name)
    (hhome : ∀ name ∈ home, FixFirst.Legible name) : (Disk.empty cwd home).Legible :=
  ⟨List.forall_mem_nil _, hcwd, hhome, List.forall_mem_nil _⟩

/-! ### Texts -/

theorem legible_append {first second : String} (h : Legible first) (h' : Legible second) : Legible (first ++ second) := by
  unfold Legible at *
  simp [h, h']

theorem mem_intercalate {sep : List Char} {texts : List (List Char)} {c : Char} (h : c ∈ sep.intercalate texts) :
    c ∈ sep ∨ ∃ text ∈ texts, c ∈ text := by
  induction texts with
  | nil => simp [List.intercalate] at h
  | cons first rest ih =>
      cases rest with
      | nil =>
          rw [List.intercalate_singleton] at h
          exact Or.inr ⟨first, List.mem_cons_self, h⟩
      | cons second others =>
          have hsplit : sep.intercalate (first :: second :: others) = first ++ (sep ++ sep.intercalate (second :: others)) := by
            simp [List.intercalate]
          rw [hsplit, List.mem_append, List.mem_append] at h
          rcases h with hfirst | hsep | hrest
          · exact Or.inr ⟨first, List.mem_cons_self, hfirst⟩
          · exact Or.inl hsep
          · exact (ih hrest).imp_right fun ⟨text, htext, hin⟩ => ⟨text, List.mem_cons_of_mem _ htext, hin⟩

theorem legible_intercalate {texts : List String} (h : ∀ text ∈ texts, Legible text) : Legible ("/".intercalate texts) := by
  unfold Legible at *
  rw [String.toList_intercalate]
  intro hin
  rcases mem_intercalate hin with hsep | ⟨chars, hchars, hnul⟩
  · exact absurd hsep (by decide)
  · obtain ⟨text, htext, rfl⟩ := List.mem_map.mp hchars
    exact h text htext hnul

theorem mem_fields {sep c : Char} {text field : List Char} (hfield : field ∈ Text.fields sep text) (hin : c ∈ field) :
    c ∈ text := by
  induction text generalizing field with
  | nil =>
      simp only [Text.fields, List.mem_singleton] at hfield
      subst hfield
      exact hin
  | cons first rest ih =>
      unfold Text.fields at hfield
      split at hfield
      · rcases List.mem_cons.mp hfield with rfl | hrest
        · cases hin
        · exact List.mem_cons_of_mem _ (ih hrest hin)
      · split at hfield
        · rename_i hnone
          exact absurd hnone (Text.fields_ne_nil sep rest)
        · rename_i start others hsome
          rcases List.mem_cons.mp hfield with rfl | hrest
          · rcases List.mem_cons.mp hin with rfl | hstart
            · exact List.mem_cons_self
            · exact List.mem_cons_of_mem _ (ih (hsome ▸ List.mem_cons_self) hstart)
          · exact List.mem_cons_of_mem _ (ih (hsome ▸ List.mem_cons_of_mem _ hrest) hin)

namespace Path

theorem hasNul_eq_false {path : Path} : path.hasNul = false ↔ path.Legible := by
  unfold hasNul Legible FixFirst.Legible
  simp

theorem legible_partsOf {text : String} (h : FixFirst.Legible text) : ∀ part ∈ partsOf text, FixFirst.Legible part := by
  intro part hin
  obtain ⟨field, hfield, rfl⟩ := List.mem_map.mp hin
  unfold FixFirst.Legible
  rw [String.toList_ofList]
  exact fun hnul => h (mem_fields hfield hnul)

theorem legible_ofText {text : String} (h : FixFirst.Legible text) : (ofText text).Legible :=
  fun name hin => legible_partsOf h name (List.mem_filter.mp hin).1

theorem legible_text {path : Path} (h : path.Legible) : FixFirst.Legible path.text := by
  unfold text
  split
  · unfold FixFirst.Legible
    decide
  · refine legible_append ?_ (legible_intercalate h)
    unfold FixFirst.Legible
    rw [String.toList_ofList]
    intro hin
    exact absurd (List.eq_of_mem_replicate hin) (by decide)

theorem legible_joinTexts {base rest : String} (h : FixFirst.Legible base) (h' : FixFirst.Legible rest) :
    FixFirst.Legible (joinTexts base rest) := by
  have hslash : FixFirst.Legible "/" := by
    unfold FixFirst.Legible
    decide
  unfold joinTexts
  split
  · exact h'
  · split
    · exact legible_append h h'
    · exact legible_append (legible_append h hslash) h'

theorem legible_rooted {names : List String} (h : ∀ name ∈ names, FixFirst.Legible name) : (rooted names).Legible := h

theorem Legible.under {base path : Path} (h : base.Legible) (h' : path.Legible) : (base.under path).Legible := by
  unfold Path.under
  split
  · exact h'
  · intro name hin
    exact (List.mem_append.mp hin).elim (h name) (h' name)

theorem Legible.child {path : Path} (h : path.Legible) {name : String} (hname : FixFirst.Legible name) :
    (path.child name).Legible := by
  intro other hin
  rcases List.mem_append.mp hin with hold | hnew
  · exact h other hold
  · rw [List.mem_singleton.mp hnew]
    exact hname

theorem Legible.above {path : Path} (h : path.Legible) : path.above.Legible := by
  unfold Path.above
  split
  · refine h.child ?_
    unfold FixFirst.Legible
    decide
  · exact fun name hin => h name (List.dropLast_subset _ hin)

theorem mem_collapse {names : List String} {name : String} (hin : name ∈ collapse names) : name ∈ names := by
  have hfold : ∀ (rest done : List String),
      name ∈ rest.foldl (fun done name => if name = ".." then done.dropLast else done ++ [name]) done →
        name ∈ done ∨ name ∈ rest := by
    intro rest
    induction rest with
    | nil => exact fun done hdone => Or.inl hdone
    | cons first rest ih =>
        intro done hdone
        rcases ih _ hdone with hstep | hrest
        · simp only at hstep
          split at hstep
          · exact Or.inl (List.dropLast_subset _ hstep)
          · rcases List.mem_append.mp hstep with hold | hnew
            · exact Or.inl hold
            · exact Or.inr (List.mem_singleton.mp hnew ▸ List.mem_cons_self)
        · exact Or.inr (List.mem_cons_of_mem _ hrest)
  exact (hfold names [] hin).resolve_left List.not_mem_nil

theorem Legible.collapsed {path : Path} (h : path.Legible) : path.collapsed.Legible :=
  fun name hin => h name (mem_collapse hin)

end Path

theorem isAbsolute_ofText_text {path : Path} (h : path.isAbsolute = true) : (Path.ofText path.text).isAbsolute = true := by
  obtain ⟨slashes, names⟩ := path
  cases slashes with
  | zero => cases h
  | succ more =>
      unfold Path.ofText Path.isAbsolute Path.text
      simp [List.replicate_succ]
      split <;> simp

/-- The text of an absolute path without NULs. -/
theorem nameable_text {path : Path} (h : path.Legible) (habsolute : path.isAbsolute = true) : Nameable users path.text := by
  refine ⟨Path.legible_text h, fun hrelative => ?_⟩
  have hsame : (Path.ofText path.text).isAbsolute = true := isAbsolute_ofText_text habsolute
  cases hsame.symm.trans hrelative

/-! ### Disks -/

namespace Disk

variable {disk : Disk}

/-- A value that is looked up is that of an entry. -/
theorem exists_mem_of_get? {α : Type} {entries : Keyed α} {key : String} {value : α} (h : entries.get? key = some value) :
    ∃ entry ∈ entries, entry.2 = value := by
  obtain ⟨entry, hentry, hvalue⟩ := Option.map_eq_some_iff.mp h
  exact ⟨entry, List.mem_of_find?_eq_some hentry, hvalue⟩

theorem legible_link? (h : disk.Legible) {names : List String} {target : String} (hlink : disk.link? names = some target) :
    FixFirst.Legible target := by
  obtain ⟨entry, hentry, rfl⟩ := exists_mem_of_get? hlink
  exact h.links entry hentry

/-- The target of a link that names lead to. -/
theorem legible_walk (h : disk.Legible) {through : Bool} {links : Nat} {here names : List String} {target : String}
    (hwalk : disk.walk through links here names = .link target) : FixFirst.Legible target := by
  fun_induction disk.walk through links here names with
  | case1 => cases hwalk
  | case2 => cases hwalk
  | case3 links here rest hopen hdirectory ih => exact ih hwalk
  | case4 => cases hwalk
  | case5 links here name rest hopen hup hlink hpresent ih => exact ih hwalk
  | case6 => cases hwalk
  | case7 links here name rest hopen hup known hlink hlast =>
      cases hwalk
      exact legible_link? h hlink
  | case8 => cases hwalk
  | case9 here name rest hopen hup known hlink hlast left path ih => exact ih hwalk

theorem Legible.linkAt? (h : disk.Legible) {path : Path} {target : String} (hlink : disk.linkAt? path = some target) :
    FixFirst.Legible target := by
  unfold Disk.linkAt? Disk.lead at hlink
  split at hlink
  · rename_i known hlead
    cases hlink
    split at hlead
    · cases hlead
    · exact legible_walk h hlead
  · cases hlink

end Disk

/-- Whether a trail leads to paths without NULs. -/
def Trail.Legible (trail : Trail) : Prop := ∀ text known, trail.get? text = some (some known) → known.Legible

/-- Whether what names resolve to has no NUL. -/
def Resolved.Legible : Resolved → Prop
  | .path found trail => found.Legible ∧ Trail.Legible trail
  | .stuck text => FixFirst.Legible text
  | .deep => True
  | .unusable => False

theorem Trail.Legible.cons {trail : Trail} (h : trail.Legible) {text : String} {known : Option Path}
    (hknown : ∀ path ∈ known, path.Legible) : Trail.Legible ((text, known) :: trail) := by
  intro other path hget
  rw [Keyed.get?_cons] at hget
  split at hget
  · exact hknown path (Option.some.inj hget)
  · exact h other path hget

namespace Disk

variable {disk : Disk}

theorem isAbsolute_absolute (disk : Disk) (path : Path) : (disk.absolute path).isAbsolute = true := by
  unfold absolute Path.under
  split
  · rename_i habsolute
    exact habsolute
  · rfl

theorem legible_start {here : Path} (h : here.Legible) (target : String) :
    (if target.startsWith "/" then Path.rooted [] else here).Legible := by
  split
  · exact fun name hin => absurd hin List.not_mem_nil
  · exact h

/-- Where the home directories are known, a path without NULs stays one when they are filled in. -/
theorem expandHome_known (h : disk.Legible) {path : Path} (hpath : path.Legible) (hknown : path.Known disk.users) :
    ∃ expanded, disk.expandHome path = .ok expanded ∧ expanded.Legible := by
  unfold expandHome
  split
  · exact ⟨_, rfl, hpath⟩
  · rename_i hrelative
    split
    · rename_i name rest hnames
      have hrest : ∀ other ∈ rest, FixFirst.Legible other := fun other hin => hpath other (hnames ▸ List.mem_cons_of_mem _ hin)
      split
      · exact ⟨_, rfl, hpath⟩
      · rename_i htilde
        split
        · exact ⟨_, rfl, List.forall_mem_append.mpr ⟨h.home, hrest⟩⟩
        · rename_i hother
          have hnul : name.contains '\x00' = false := by
            simpa [FixFirst.Legible] using hpath name (hnames ▸ List.mem_cons_self)
          obtain ⟨place, hplace⟩ : ∃ place, disk.users.get? (String.ofList name.toList.tail) = some place :=
            Option.isSome_iff_exists.mp <|
              (hknown (by simpa using hrelative) name (by rw [hnames]; rfl) (by simpa using htilde)).resolve_left hother
          have hlegible : ∀ part ∈ place, FixFirst.Legible part := by
            obtain ⟨entry, hentry, rfl⟩ := exists_mem_of_get? hplace
            exact h.users entry hentry
          rw [hnul, if_neg Bool.false_ne_true, hplace]
          exact ⟨_, rfl, List.forall_mem_append.mpr ⟨hlegible, hrest⟩⟩
    · exact ⟨_, rfl, hpath⟩

theorem known_of_expandHome {path expanded : Path} (h : disk.expandHome path = .ok expanded) :
    path.Known disk.users := by
  intro hrelative name hname htilde
  by_cases hhome : name = "~"
  · exact Or.inl hhome
  · unfold expandHome at h
    rw [if_neg (by simp [hrelative])] at h
    cases hnames : path.names with
    | nil => simp [hnames] at hname
    | cons first rest =>
        have hfirst : first = name := by simpa [hnames] using hname
        subst hfirst
        simp only [hnames, htilde, hhome, if_false, bne_self_eq_false, Bool.false_eq_true] at h
        split at h
        · cases h
        · cases hplace : disk.users.get? (String.ofList first.toList.tail) with
          | some place => exact Or.inr (Option.isSome_iff_exists.mpr ⟨place, hplace⟩)
          | none =>
              rw [hplace] at h
              cases h

/-- Resolving names brings no NUL in. -/
theorem legible_resolveFrom (h : disk.Legible) {depth : Nat} {trail : Trail} {here : Path} {names : List String}
    (htrail : trail.Legible) (hhere : here.Legible) (hnames : ∀ name ∈ names, FixFirst.Legible name) :
    (disk.resolveFrom depth trail here names).Legible := by
  fun_induction disk.resolveFrom depth trail here names with
  | case1 => exact ⟨hhere, htrail⟩
  | case2 depth trail here name rest hskip ih => exact ih htrail hhere fun other hin => hnames other (List.mem_cons_of_mem _ hin)
  | case3 depth trail here rest hskip ih =>
      exact ih htrail hhere.above fun other hin => hnames other (List.mem_cons_of_mem _ hin)
  | case4 depth trail here name rest hskip hup place hnul =>
      have hplace : (here.child name).Legible := hhere.child (hnames name List.mem_cons_self)
      cases (Path.hasNul_eq_false.mpr hplace).symm.trans hnul
  | case5 depth trail here name rest hskip hup place hnul hlink ih =>
      exact ih htrail (hhere.child (hnames name List.mem_cons_self)) fun other hin => hnames other (List.mem_cons_of_mem _ hin)
  | case6 depth trail here name rest hskip hup place hnul target hlink known hknown ih =>
      exact ih htrail (htrail _ known hknown) fun other hin => hnames other (List.mem_cons_of_mem _ hin)
  | case7 depth trail here name rest hskip hup place hnul target hlink hknown =>
      have hplace : (here.child name).Legible := hhere.child (hnames name List.mem_cons_self)
      exact Path.legible_joinTexts (Path.legible_text hplace)
        (legible_intercalate fun other hin => hnames other (List.mem_cons_of_mem _ hin))
  | case8 => trivial
  | case9 trail here name rest hskip hup place hnul target hlink hnew left start known inner hinner ihinner ih =>
      have hfound := ihinner (htrail.cons (by simp)) (legible_start hhere target) (Path.legible_partsOf (h.linkAt? hlink))
      rw [hinner] at hfound
      refine ih (hfound.2.cons fun path hpath => ?_) hfound.1 fun other hin => hnames other (List.mem_cons_of_mem _ hin)
      cases hpath
      exact hfound.1
  | case10 trail here name rest hskip hup place hnul target hlink hnew left start text hinner ihinner =>
      have hstuck := ihinner (htrail.cons (by simp)) (legible_start hhere target) (Path.legible_partsOf (h.linkAt? hlink))
      rw [hinner] at hstuck
      exact Path.legible_joinTexts hstuck (legible_intercalate fun other hin => hnames other (List.mem_cons_of_mem _ hin))
  | case11 trail here name rest hskip hup place hnul target hlink hnew left start hpath hstuck ihinner =>
      have hfailed := ihinner (htrail.cons (by simp)) (legible_start hhere target) (Path.legible_partsOf (h.linkAt? hlink))
      exact hfailed

/-- What settles is a path without NULs, or a link that never ends. -/
theorem legible_settle (h : disk.Legible) {path : Path} (hpath : path.Legible) :
    (∃ place : Path, disk.settle path = .ok place ∧ place.Legible ∧ place.isAbsolute = true) ∨
      ∃ message, disk.settle path = .error (.runtime message) := by
  have hplace : ((disk.absolute path).collapsed).Legible := ((Path.legible_rooted h.cwd).under hpath).collapsed
  have habsolute : ((disk.absolute path).collapsed).isAbsolute = true := isAbsolute_absolute disk path
  unfold settle
  simp only [Path.hasNul_eq_false.mpr hplace, Bool.false_eq_true, if_false]
  split
  · exact Or.inr ⟨_, rfl⟩
  · exact Or.inl ⟨_, rfl, hplace, habsolute⟩

/-- What resolves is a path without NULs, or links that never end or nest too deeply. -/
theorem legible_resolve (h : disk.Legible) {path : Path} (hpath : path.Legible) :
    (∃ place : Path, disk.resolve path = .ok place ∧ place.Legible ∧ place.isAbsolute = true) ∨
      ∃ message, disk.resolve path = .error (.runtime message) ∨ disk.resolve path = .error (.nesting message) := by
  have hresolved : (disk.resolveNames path).Legible := by
    refine legible_resolveFrom h (fun text known hget => by cases hget) ?_ hpath
    split
    · exact fun name hin => absurd hin List.not_mem_nil
    · exact fun name hin => absurd hin List.not_mem_nil
  unfold resolve
  cases hfound : disk.resolveNames path with
  | path found trail =>
      rw [hfound] at hresolved
      exact (legible_settle h hresolved.1).imp_right fun ⟨message, hsettle⟩ => ⟨message, .inl hsettle⟩
  | stuck text =>
      rw [hfound] at hresolved
      exact (legible_settle h (Path.legible_ofText hresolved)).imp_right fun ⟨message, hsettle⟩ => ⟨message, .inl hsettle⟩
  | deep => exact .inr ⟨_, .inr rfl⟩
  | unusable =>
      rw [hfound] at hresolved
      exact absurd hresolved id

/-- Where the home directories are known, a path without NULs normalises to a text that is nameable wherever. -/
theorem normalizePath_known (h : disk.Legible) {path : Path} (hpath : path.Legible) (hknown : path.Known disk.users) :
    ∃ file, disk.normalizePath path = .ok file ∧ Nameable users file := by
  obtain ⟨expanded, hexpanded, hlegible⟩ := expandHome_known h hpath hknown
  have hfallback : Nameable users (disk.absolute expanded).text :=
    nameable_text ((Path.legible_rooted h.cwd).under hlegible) (isAbsolute_absolute disk expanded)
  unfold normalizePath
  simp only [hexpanded, bind, Except.bind]
  rcases legible_resolve h hlegible with ⟨place, hplace, hclean, habsolute⟩ | ⟨message, hlooped | hdeep⟩
  · rw [hplace]
    exact ⟨place.text, rfl, nameable_text hclean habsolute⟩
  · rw [hlooped]
    exact ⟨_, rfl, hfallback⟩
  · rw [hdeep]
    exact ⟨_, rfl, hfallback⟩

/-- A path without NULs can be made absolute if the home directory that it starts with is known. -/
theorem normalizePath_ok_iff (h : disk.Legible) {path : Path} (hpath : path.Legible) :
    (∃ file, disk.normalizePath path = .ok file) ↔ path.Known disk.users := by
  constructor
  · rintro ⟨file, hfile⟩
    cases hexpanded : disk.expandHome path with
    | ok expanded => exact known_of_expandHome hexpanded
    | error fault => simp [normalizePath, hexpanded, bind, Except.bind] at hfile
  · intro hknown
    obtain ⟨file, hfile, -⟩ : ∃ file, disk.normalizePath path = .ok file ∧ Nameable disk.users file :=
      normalizePath_known h hpath hknown
    exact ⟨file, hfile⟩

/-- A nameable text normalises to a text that is nameable wherever. -/
theorem normalize_nameable (h : disk.Legible) {text : String} (htext : Nameable disk.users text) :
    ∃ file, disk.normalize text = .ok file ∧ Nameable users file :=
  normalizePath_known h (Path.legible_ofText htext.legible) htext.known

/-- A list of texts that denote paths can be normalised. -/
theorem exists_normalizeAll (h : disk.Legible) {texts : List String} (htexts : ∀ text ∈ texts, Nameable disk.users text) :
    ∃ files, disk.normalizeAll texts = .ok files := by
  have hnone : Confined (fun _ => False) (disk.normalizeAll texts) := by
    refine Confined.normalizeAll fun text htext fault hfault => ?_
    obtain ⟨file, hfile, -⟩ : ∃ file, disk.normalize text = .ok file ∧ Nameable disk.users file :=
      normalize_nameable h (htexts text htext)
    cases hfile.symm.trans hfault
  cases hfiles : disk.normalizeAll texts with
  | ok files => exact ⟨files, rfl⟩
  | error fault => exact (hnone fault hfiles).elim

/-! ### Names that lead through no link -/

/-- Whether names, seen from the root, lead through no link. -/
def Clear (disk : Disk) (names : List String) : Prop :=
  ∀ front name, front ++ [name] <+: names → disk.link? (front ++ [name]) = none

theorem clear_nil (disk : Disk) : disk.Clear [] := by
  intro front name hfront
  simp at hfront

theorem Clear.of_prefix {front names : List String} (h : disk.Clear names) (hfront : front <+: names) :
    disk.Clear front := fun start name hstart => h start name (hstart.trans hfront)

theorem Clear.concat {names : List String} {name : String} (h : disk.Clear names)
    (hlink : disk.link? (names ++ [name]) = none) : disk.Clear (names ++ [name]) := by
  intro front last hfront
  rcases List.prefix_concat_iff.mp hfront with heq | hshort
  · rw [heq]
    exact hlink
  · exact h front last hshort

theorem clear_of_linkless (h : disk.links = []) (names : List String) : disk.Clear names := by
  intro front name _
  rw [Disk.link?, h, Keyed.get?_nil]

/-- Names that lead down through no link lead to what they say, if they lead anywhere. -/
theorem walk_clear (here : List String) {names : List String} (h : disk.Clear (here ++ names)) (hdown : ".." ∉ names) (through : Bool)
    (links : Nat) : disk.walk through links here names = .reached (here ++ names) ∨
      disk.walk through links here names = .lost ∨ ∃ refusal, disk.walk through links here names = .refused refusal := by
  induction names generalizing here with
  | nil => exact Or.inl (by rw [walk, List.append_nil])
  | cons name rest ih =>
      obtain ⟨hup, hrest⟩ : ".." ≠ name ∧ ".." ∉ rest := by simpa using hdown
      have hsplit : here ++ name :: rest = here ++ [name] ++ rest := by simp
      have hlink : disk.link? (here ++ [name]) = none := h here name (hsplit ▸ List.prefix_append _ _)
      rw [walk]
      cases disk.refusal? here name with
      | some refusal => exact Or.inr (Or.inr ⟨refusal, rfl⟩)
      | none =>
          rw [if_neg hup.symm, hlink, hsplit]
          by_cases hpresent : disk.present (here ++ [name]) = true
          · simpa only [hpresent, if_true] using ih (here ++ [name]) (hsplit ▸ h) hrest
          · exact Or.inr (Or.inl (by simp only [hpresent, Bool.false_eq_true, if_false]))

/-- An absolute path that leads down through no link leads to no link, and to no end of links. -/
theorem lead_clear {path : Path} (habsolute : path.isAbsolute = true) (h : disk.Clear path.names)
    (hdown : ".." ∉ path.names) (through : Bool) :
    disk.lead through path ≠ .endless ∧ ∀ target, disk.lead through path ≠ .link target := by
  unfold Disk.lead Disk.namesFrom
  rw [if_pos habsolute]
  split
  · simp
  · rcases walk_clear [] h hdown through linkLimit with hwalk | hwalk | ⟨refusal, hwalk⟩ <;> simp [hwalk]

theorem linkAt?_clear {path : Path} (habsolute : path.isAbsolute = true) (h : disk.Clear path.names)
    (hdown : ".." ∉ path.names) : disk.linkAt? path = none := by
  unfold Disk.linkAt?
  split
  · rename_i target hlead
    exact absurd hlead ((lead_clear habsolute h hdown false).2 target)
  · rfl

theorem follow_clear {path : Path} (habsolute : path.isAbsolute = true) (h : disk.Clear path.names)
    (hdown : ".." ∉ path.names) : disk.follow path ≠ .endless :=
  (lead_clear habsolute h hdown true).1

/-- Whether a name leads one directory down. -/
structure Downward (name : String) : Prop where
  filled : name ≠ ""
  here : name ≠ "."
  up : name ≠ ".."
  legible : FixFirst.Legible name

instance : DecidablePred Downward := fun name =>
  decidable_of_iff (name ≠ "" ∧ name ≠ "." ∧ name ≠ ".." ∧ FixFirst.Legible name)
    ⟨fun ⟨hfilled, hhere, hup, hlegible⟩ => ⟨hfilled, hhere, hup, hlegible⟩,
      fun h => ⟨h.filled, h.here, h.up, h.legible⟩⟩

theorem not_mem_downward {names : List String} (h : ∀ name ∈ names, Downward name) : ".." ∉ names :=
  fun hin => (h _ hin).up rfl

/-- Names that lead down through no link resolve to themselves. -/
theorem resolveFrom_clear (here : Path) {names : List String} (hnames : ∀ name ∈ names, Downward name)
    (habsolute : here.isAbsolute = true) (hhere : ∀ name ∈ here.names, Downward name)
    (hclear : disk.Clear (here.names ++ names)) (depth : Nat) (trail : Trail) :
    disk.resolveFrom depth trail here names = .path { here with names := here.names ++ names } trail := by
  induction names generalizing here with
  | nil => rw [resolveFrom, List.append_nil]
  | cons name rest ih =>
      obtain ⟨hname, hrest⟩ := List.forall_mem_cons.mp hnames
      have hsplit : here.names ++ name :: rest = here.names ++ [name] ++ rest := by simp
      have hchild : ∀ part ∈ (here.child name).names, Downward part :=
        List.forall_mem_append.mpr ⟨hhere, List.forall_mem_singleton.mpr hname⟩
      have hlegible : (here.child name).Legible := fun part hin => (hchild part hin).legible
      have hlink : disk.linkAt? (here.child name) = none :=
        linkAt?_clear habsolute (hclear.of_prefix (hsplit ▸ List.prefix_append _ _)) (not_mem_downward hchild)
      rw [resolveFrom]
      simp only [hname.filled, hname.here, hname.up, decide_false, Bool.or_self, Bool.false_eq_true, if_false,
        Path.hasNul_eq_false.mpr hlegible, hlink]
      rw [ih (here.child name) hrest habsolute hchild (hsplit ▸ hclear), hsplit]
      rfl

theorem collapse_concat (names : List String) (name : String) : Path.collapse (names ++ [name]) =
    if name = ".." then (Path.collapse names).dropLast else Path.collapse names ++ [name] := by
  simp only [Path.collapse, List.foldl_append, List.foldl_cons, List.foldl_nil]

/-- Where no name leads up, nothing is removed. -/
theorem collapse_append {names : List String} (hdown : ".." ∉ names) (front : List String) :
    Path.collapse (front ++ names) = Path.collapse front ++ names := by
  induction names generalizing front with
  | nil => rw [List.append_nil, List.append_nil]
  | cons name rest ih =>
      obtain ⟨hname, hrest⟩ : ".." ≠ name ∧ ".." ∉ rest := by simpa using hdown
      rw [List.append_cons, ih hrest, collapse_concat, if_neg hname.symm, ← List.append_cons]

theorem collapse_down {names : List String} (hdown : ".." ∉ names) : Path.collapse names = names :=
  collapse_append hdown []

/-- A place that is reached through no link settles as it is. -/
theorem settle_clear {path : Path} (hlegible : (disk.absolute path).collapsed.Legible)
    (hclear : disk.Clear (disk.absolute path).collapsed.names) (hdown : ".." ∉ (disk.absolute path).collapsed.names) :
    disk.settle path = .ok (disk.absolute path).collapsed := by
  have hfollow : disk.follow (disk.absolute path).collapsed ≠ .endless :=
    follow_clear (isAbsolute_absolute disk path) hclear hdown
  unfold settle
  simp only [Path.hasNul_eq_false.mpr hlegible, Bool.false_eq_true, if_false]

/-- An absolute path that leads down through no link normalises to itself. -/
theorem normalizePath_clear {path : Path} (habsolute : path.isAbsolute = true)
    (hnames : ∀ name ∈ path.names, Downward name) (hclear : disk.Clear path.names) :
    disk.normalizePath path = .ok (Path.rootedText path.names) := by
  have hplace : (disk.absolute (Path.rooted path.names)).collapsed = Path.rooted path.names :=
    congrArg (Path.mk 1) (collapse_down (not_mem_downward hnames))
  have hsettle : disk.settle (Path.rooted path.names) = .ok (Path.rooted path.names) := by
    rw [settle_clear, hplace] <;> rw [hplace]
    · exact fun name hin => (hnames name hin).legible
    · exact hclear
    · exact not_mem_downward hnames
  have hresolve : disk.resolve path = .ok (Path.rooted path.names) := by
    unfold Disk.resolve Disk.resolveNames
    rw [if_pos habsolute, resolveFrom_clear (.rooted []) hnames rfl (List.forall_mem_nil _) hclear]
    exact hsettle
  unfold normalizePath
  simp only [Disk.expandHome, habsolute, if_true, bind, Except.bind, hresolve, Path.rootedText]

/-- On a disk without links, an absolute path that only leads down is its own. -/
theorem normalizePath_downward (h : disk.links = []) {path : Path} (habsolute : path.isAbsolute = true)
    (hnames : ∀ name ∈ path.names, Downward name) : disk.normalizePath path = .ok (Path.rootedText path.names) :=
  normalizePath_clear habsolute hnames (clear_of_linkless h _)

end Disk

end FixFirst
