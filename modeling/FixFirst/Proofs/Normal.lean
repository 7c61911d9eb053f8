import FixFirst.Proofs.Disk
import FixFirst.Proofs.Fault
import FixFirst.Proofs.Names
import FixFirst.Proofs.Path
import Mathlib.Data.List.Induction

/-!
# Normal paths

A path that leads down through no link normalises to itself.  So normalising a second time changes nothing where
the first time led to such a path, and it does wherever all links on the way could be resolved: every step of
resolving keeps to paths whose names, once the `..` are followed, lead through no link.

A link that is met again while it is being resolved is an exception.  The names behind it are kept as they are
written and their `..` are followed afterwards, which may end at a link that was never looked at; see
`Disk.normalize_looped`.

## Main definitions

* `Disk.WellNamed` — the names of the working directory and of the home directories are names.
* `Disk.standing` — the place of a path, if no name on the way is a link.
* `Disk.Direct` — a path that reaches its place through no link.
* `Disk.Resolves` — every link on the way of a text is resolved.
* `Disk.Straight` — what a text resolves to leads through no link, or the text cannot be resolved at all.

## Main statements

* `Disk.preserved_resolveFrom` — what the steps of resolving preserve holds of what is resolved.
* `Disk.straight_of_resolves` — resolved links leave no link in the way.
* `normalize_projects` — normalising gives absolute tidy paths, and changes them no more.
-/

namespace FixFirst

namespace Disk

variable {disk : Disk}

/-- Whether a disk has no NULs, and the names of its working directory and of all home directories are names; the
working directory leads down from the root. -/
structure WellNamed (disk : Disk) : Prop extends disk.Legible where
  tidy_cwd : (Path.rooted disk.cwd).Tidy
  down_cwd : ".." ∉ disk.cwd
  tidy_home : (Path.rooted disk.home).Tidy
  tidy_users : ∀ user ∈ disk.users, (Path.rooted user.2).Tidy

end Disk

/-! ### Tidy paths -/

namespace Path

variable {path base : Path}

theorem Tidy.under (hbase : base.Tidy) (h : path.Tidy) : (base.under path).Tidy := by
  unfold Path.under
  split
  · exact h
  · exact ⟨hbase.slashes, List.forall_mem_append.mpr ⟨hbase.names, h.names⟩⟩

theorem Tidy.child (h : path.Tidy) {name : String} (hname : name ≠ "" ∧ name ≠ "." ∧ '/' ∉ name.toList) :
    (path.child name).Tidy :=
  ⟨h.slashes, List.forall_mem_append.mpr ⟨h.names, List.forall_mem_singleton.mpr hname⟩⟩

theorem Tidy.above (h : path.Tidy) : path.above.Tidy := by
  unfold Path.above
  split
  · exact h.child (by decide)
  · exact ⟨h.slashes, fun name hin => h.names name (List.dropLast_subset _ hin)⟩

theorem Tidy.collapsed (h : path.Tidy) : path.collapsed.Tidy :=
  ⟨h.slashes, fun name hin => h.names name (mem_collapse hin)⟩

theorem tidy_root : (rooted []).Tidy := ⟨Nat.le_succ 1, List.forall_mem_nil _⟩

theorem not_mem_collapse (names : List String) : ".." ∉ collapse names := by
  induction names using List.reverseRecOn with
  | nil => exact List.not_mem_nil
  | append_singleton names name ih =>
      rw [Disk.collapse_concat]
      split
      · exact fun hin => ih (List.dropLast_subset _ hin)
      · rename_i hname
        simpa [ih] using Ne.symm hname

theorem collapse_replicate (names : List String) (hdown : ".." ∉ names) (ups : Nat) :
    collapse (names ++ List.replicate ups "..") = names.take (names.length - ups) := by
  induction ups with
  | zero => simp [Disk.collapse_down hdown]
  | succ ups ih =>
      rw [List.replicate_succ', ← List.append_assoc, Disk.collapse_concat, if_pos rfl, ih, List.dropLast_eq_take, List.take_take,
        List.length_take]
      congr 1
      omega

/-- What is above a path: the path with a further `..`, the root, or the path without its last name. -/
theorem above_cases (path : Path) :
    (path.above = path.child ".." ∧ (path.names.getLast? = some ".." ∨ path.names = [] ∧ path.isAbsolute = false)) ∨
    (path.names = [] ∧ path.isAbsolute = true ∧ path.above = path) ∨
    ∃ front name, path.names = front ++ [name] ∧ name ≠ ".." ∧ path.above = { path with names := front } := by
  unfold Path.above
  split
  · rename_i hup
    exact Or.inl ⟨rfl, by simpa using hup⟩
  · rename_i hkept
    obtain ⟨hlast, hroot⟩ : path.names.getLast? ≠ some ".." ∧ ¬(path.names = [] ∧ path.isAbsolute = false) := by
      simpa using hkept
    rcases List.eq_nil_or_concat' path.names with hnil | ⟨front, name, hnames⟩
    · refine Or.inr (Or.inl ⟨hnil, by simpa [hnil] using hroot, ?_⟩)
      rw [hnil, List.dropLast_nil, ← hnil]
    · refine Or.inr (Or.inr ⟨front, name, hnames, ?_, ?_⟩)
      · rintro rfl
        simp [hnames] at hlast
      · rw [hnames, List.dropLast_concat]

end Path

/-! ### What resolving preserves -/

/-- Whether what names resolve to, and what the links on the way resolve to, has a property. -/
def Resolved.All (P : Path → Prop) : Resolved → Prop
  | .path found trail => P found ∧ ∀ text known, trail.get? text = some (some known) → P known
  | _ => True

namespace Disk

variable {disk : Disk}

theorem trail_cons {P : Path → Prop} {trail : Trail} (h : ∀ text known, trail.get? text = some (some known) → P known)
    {text : String} {resolved : Option Path} (hresolved : ∀ known ∈ resolved, P known) :
    ∀ other known, Keyed.get? ((text, resolved) :: trail) other = some (some known) → P known := by
  intro other known hget
  rw [Keyed.get?_cons] at hget
  split at hget
  · exact hresolved known (Option.some.inj hget)
  · exact h other known hget

/-- The parts of the target of a link have no NULs and no slashes. -/
theorem part_of_linkAt? (h : disk.Legible) {path : Path} {target : String} (hlink : disk.linkAt? path = some target) :
    ∀ name ∈ Path.partsOf target, FixFirst.Legible name ∧ '/' ∉ name.toList := by
  intro name hname
  refine ⟨Path.legible_partsOf (h.linkAt? hlink) name hname, ?_⟩
  obtain ⟨field, hfield, rfl⟩ := List.mem_map.mp hname
  rw [String.toList_ofList]
  exact Text.not_mem_fields hfield

/-- What holds of the root and is preserved by each step, up or down, holds of what names resolve to. -/
theorem preserved_resolveFrom (hdisk : disk.Legible) {P : Path → Prop} (hroot : P (.rooted []))
    (habove : ∀ path, P path → P path.above)
    (hchild : ∀ path name, P path → Downward name → '/' ∉ name.toList → disk.linkAt? (path.child name) = none →
      P (path.child name))
    {depth : Nat} {trail : Trail} {here : Path} {names : List String}
    (htrail : ∀ text known, trail.get? text = some (some known) → P known) (hhere : P here)
    (hnames : ∀ name ∈ names, FixFirst.Legible name ∧ '/' ∉ name.toList) :
    Resolved.All P (disk.resolveFrom depth trail here names) := by
  fun_induction disk.resolveFrom depth trail here names with
  | case1 => exact ⟨hhere, htrail⟩
  | case2 depth trail here name rest hskip ih => exact ih htrail hhere (List.forall_mem_cons.mp hnames).2
  | case3 depth trail here rest hskip ih => exact ih htrail (habove here hhere) (List.forall_mem_cons.mp hnames).2
  | case4 => trivial
  | case5 depth trail here name rest hskip hup place hnul hlink ih =>
      obtain ⟨⟨hlegible, hslash⟩, hrest⟩ := List.forall_mem_cons.mp hnames
      obtain ⟨hfilled, hdot⟩ : name ≠ "" ∧ name ≠ "." := by simpa using hskip
      exact ih htrail (hchild here name hhere ⟨hfilled, hdot, hup, hlegible⟩ hslash hlink) hrest
  | case6 depth trail here name rest hskip hup place hnul target hlink known hknown ih =>
      exact ih htrail (htrail _ known hknown) (List.forall_mem_cons.mp hnames).2
  | case7 => trivial
  | case8 => trivial
  | case9 trail here name rest hskip hup place hnul target hlink hnew left start known inner hinner ihinner ih =>
      have hstart : P start := by
        simp only [start]
        split
        · exact hroot
        · exact hhere
      have hfound := ihinner (trail_cons htrail (by simp)) hstart (part_of_linkAt? hdisk hlink)
      rw [hinner] at hfound
      refine ih (trail_cons hfound.2 ?_) hfound.1 (List.forall_mem_cons.mp hnames).2
      rintro path ⟨⟩
      exact hfound.1
  | case10 => trivial
  | case11 trail here name rest hskip hup place hnul target hlink hnew left start hpath hstuck ihinner =>
      cases hresult : disk.resolveFrom left ((place.text, none) :: trail) start (Path.partsOf target) with
      | path known inner => exact absurd hresult (hpath known inner)
      | _ => trivial

/-- Where all links were resolved, what holds of the starting point and is preserved by each step holds of the
result. -/
theorem preserved_resolveNames (hdisk : disk.Legible) {P : Path → Prop} (hroot : P (.rooted [])) (hnone : P ⟨0, []⟩)
    (habove : ∀ path, P path → P path.above)
    (hchild : ∀ path name, P path → Downward name → '/' ∉ name.toList → disk.linkAt? (path.child name) = none →
      P (path.child name))
    {path found : Path} {trail : Trail} (hpath : path.Legible) (htidy : path.Tidy)
    (hfound : disk.resolveNames path = .path found trail) : P found := by
  have hstart : P (if path.isAbsolute then .rooted [] else ⟨0, []⟩) := by
    split
    · exact hroot
    · exact hnone
  have hall : Resolved.All P (disk.resolveNames path) :=
    preserved_resolveFrom hdisk hroot habove hchild (fun text known hget => by cases hget) hstart
      fun name hin => ⟨hpath name hin, (htidy.names name hin).2.2⟩
  rw [hfound] at hall
  exact hall.1

/-! ### Tidy results -/

theorem settle_ok {path place : Path} (h : disk.settle path = .ok place) : place = (disk.absolute path).collapsed := by
  unfold settle at h
  simp only at h
  split at h
  · cases h
  · split at h
    · cases h
    · exact (Except.ok.inj h).symm

theorem tidy_absolute (h : disk.WellNamed) {path : Path} (htidy : path.Tidy) : (disk.absolute path).Tidy :=
  h.tidy_cwd.under htidy

/-- What a tidy path resolves to is tidy and leads down from the root. -/
theorem tidy_resolve (h : disk.WellNamed) {path place : Path} (hpath : path.Legible) (htidy : path.Tidy)
    (hplace : disk.resolve path = .ok place) : place.Tidy ∧ ".." ∉ place.names := by
  have hsettled : ∀ {path : Path}, path.Tidy → disk.settle path = .ok place → place.Tidy ∧ ".." ∉ place.names := by
    intro path htidy hsettle
    rw [settle_ok hsettle]
    exact ⟨(tidy_absolute h htidy).collapsed, Path.not_mem_collapse _⟩
  unfold Disk.resolve at hplace
  split at hplace
  · rename_i found trail hfound
    refine hsettled ?_ hplace
    refine preserved_resolveNames (P := Path.Tidy) h.toLegible Path.tidy_root ⟨Nat.zero_le 2, List.forall_mem_nil _⟩
      (fun path => Path.Tidy.above) ?_ hpath htidy hfound
    exact fun path name hold hname hslash _ => hold.child ⟨hname.filled, hname.here, hslash⟩
  · exact hsettled (Path.tidy_ofText _) hplace
  · cases hplace
  · cases hplace

theorem tidy_expandHome (h : disk.WellNamed) {path expanded : Path} (htidy : path.Tidy)
    (hexpanded : disk.expandHome path = .ok expanded) : expanded.Tidy := by
  have hbelow : ∀ {name : String} {rest place : List String}, path.names = name :: rest → (Path.rooted place).Tidy →
      (Path.rooted (place ++ rest)).Tidy := fun hnames hplace =>
    ⟨Nat.le_succ 1, List.forall_mem_append.mpr
      ⟨hplace.names, fun other hin => htidy.names other (hnames ▸ List.mem_cons_of_mem _ hin)⟩⟩
  unfold expandHome at hexpanded
  split at hexpanded
  · exact Except.ok.inj hexpanded ▸ htidy
  · split at hexpanded
    · rename_i name rest hnames
      split at hexpanded
      · exact Except.ok.inj hexpanded ▸ htidy
      · split at hexpanded
        · exact Except.ok.inj hexpanded ▸ hbelow hnames h.tidy_home
        · split at hexpanded
          · cases hexpanded
          · split at hexpanded
            · rename_i place hplace
              obtain ⟨user, huser, rfl⟩ := exists_mem_of_get? hplace
              exact Except.ok.inj hexpanded ▸ hbelow hnames (h.tidy_users user huser)
            · cases hexpanded
    · exact Except.ok.inj hexpanded ▸ htidy

/-- A path without NULs normalises to the text of an absolute tidy path: the one that it resolves to, or, if it cannot
be resolved, the one that it is from the working directory. -/
theorem normalizePath_place (h : disk.WellNamed) {path expanded : Path} (hpath : expanded.Legible) (htidy : path.Tidy)
    (hexpanded : disk.expandHome path = .ok expanded) : ∃ place : Path, disk.normalizePath path = .ok place.text ∧
      place.isAbsolute = true ∧ place.Tidy ∧ place.Legible ∧
      (disk.resolve expanded = .ok place ∨ (∃ fault, disk.resolve expanded = .error fault) ∧ place = disk.absolute expanded) := by
  have htidy' : expanded.Tidy := tidy_expandHome h htidy hexpanded
  unfold normalizePath
  simp only [hexpanded, bind, Except.bind]
  rcases legible_resolve h.toLegible hpath with ⟨place, hplace, hlegible, habsolute⟩ | ⟨message, hfault⟩
  · refine ⟨place, ?_, habsolute, (tidy_resolve h hpath htidy' hplace).1, hlegible, Or.inl hplace⟩
    rw [hplace]
  · refine ⟨disk.absolute expanded, ?_, isAbsolute_absolute disk expanded, tidy_absolute h htidy',
      (Path.legible_rooted h.cwd).under hpath, Or.inr ⟨?_, rfl⟩⟩
    · rcases hfault with hlooped | hdeep
      · rw [hlooped]
      · rw [hdeep]
    · exact hfault.elim (fun hlooped => ⟨_, hlooped⟩) fun hdeep => ⟨_, hdeep⟩

/-! ### Straight texts -/

/-- Whether what a text resolves to leads through no link, or the text cannot be resolved, neither as it is nor from
the root. -/
def Straight (disk : Disk) (text : String) : Prop :=
  ∃ expanded, disk.expandHome (Path.ofText text) = .ok expanded ∧
    ((∃ names, disk.resolve expanded = .ok (.rooted names) ∧ disk.Clear names) ∨
      ((∃ fault, disk.resolve expanded = .error fault) ∧ ∃ fault, disk.resolve (disk.absolute expanded) = .error fault))

/-- An absolute path that cannot be resolved stays as it is. -/
theorem normalizePath_unresolved (h : disk.Legible) {path : Path} (hpath : path.Legible) (habsolute : path.isAbsolute = true)
    {fault : Fault} (hfault : disk.resolve path = .error fault) : disk.normalizePath path = .ok path.text := by
  have hsame : disk.absolute path = path := if_pos habsolute
  unfold normalizePath
  simp only [expandHome, habsolute, if_true, bind, Except.bind]
  rcases legible_resolve h hpath with ⟨place, hplace, -⟩ | ⟨message, hlooped | hdeep⟩
  · cases hplace.symm.trans hfault
  · rw [hlooped, hsame]
  · rw [hdeep, hsame]

theorem legible_expandHome (h : disk.Legible) {text : String} (htext : Nameable disk.users text) {expanded : Path}
    (hexpanded : disk.expandHome (Path.ofText text) = .ok expanded) : expanded.Legible := by
  obtain ⟨other, hother, hlegible⟩ := expandHome_known h (Path.legible_ofText htext.legible) htext.known
  rw [Except.ok.inj (hexpanded.symm.trans hother)]
  exact hlegible

/-- What a straight text normalises to normalises to itself. -/
theorem normalize_straight (h : disk.WellNamed) {text file : String} (htext : Nameable disk.users text) (hstraight : disk.Straight text)
    (hfile : disk.normalize text = .ok file) : disk.normalize file = .ok file := by
  obtain ⟨expanded, hexpanded, hcase⟩ := hstraight
  have hlegible : expanded.Legible := legible_expandHome h.toLegible htext hexpanded
  obtain ⟨place, hplace, habsolute, htidy, hplace', hresolved⟩ :=
    normalizePath_place h hlegible (Path.tidy_ofText text) hexpanded
  obtain rfl : file = place.text := Except.ok.inj (hfile.symm.trans hplace)
  unfold Disk.normalize
  rw [Path.ofText_text htidy]
  rcases hcase with ⟨names, hnames, hclear⟩ | ⟨⟨fault, hfault⟩, other, hother⟩
  · obtain hsame | ⟨⟨fault, hfault⟩, -⟩ := hresolved
    · obtain rfl : place = Path.rooted names := Except.ok.inj (hsame.symm.trans hnames)
      have hdown := (tidy_resolve h hlegible (tidy_expandHome h (Path.tidy_ofText text) hexpanded) hsame).2
      refine normalizePath_clear habsolute (fun name hin => ?_) hclear
      obtain ⟨hfilled, hdot, -⟩ := htidy.names name hin
      exact ⟨hfilled, hdot, fun hup => hdown (hup ▸ hin), hplace' name hin⟩
    · cases hnames.symm.trans hfault
  · obtain hsame | ⟨-, rfl⟩ := hresolved
    · cases hsame.symm.trans hfault
    · exact normalizePath_unresolved h.toLegible hplace' habsolute hother

/-! ### Places that exist -/

/-- The directories above an entry exist. -/
theorem isDirectory_above {names rest : List String} {name : String} (htidy : (Path.rooted (names ++ name :: rest)).Tidy)
    (hentry : Path.rootedText (names ++ name :: rest) ∈ disk.entries) : disk.isDirectory names = true := by
  have hparts : Path.namesOf (Path.rootedText (names ++ name :: rest)) = names ++ name :: rest :=
    congrArg Path.names (Path.ofText_text htidy)
  have hany : (disk.entries.any fun entry =>
      names.isPrefixOf (Path.namesOf entry) && (Path.namesOf entry).length != names.length) = true := by
    refine List.any_eq_true.mpr ⟨_, hentry, ?_⟩
    rw [hparts]
    simp
  unfold isDirectory
  rw [hany, Bool.or_true]

theorem present_of_isDirectory {names : List String} (h : disk.isDirectory names = true) : disk.present names = true := by
  rw [present, h, Bool.or_true]

/-- The directories above the working directory exist, and so does it. -/
theorem isDirectory_cwd (h : disk.WellNamed) {front : List String} (hfront : front <+: disk.cwd) :
    disk.isDirectory front = true := by
  obtain ⟨rest, hrest⟩ := hfront
  cases rest with
  | nil =>
      rw [List.append_nil] at hrest
      unfold isDirectory
      simp [hrest]
  | cons name rest =>
      have hentry : Path.rootedText (front ++ name :: rest) ∈ disk.entries := by
        rw [hrest]
        simp [entries]
      exact isDirectory_above (hrest ▸ h.tidy_cwd) hentry

/-- The directories above a link exist. -/
theorem isDirectory_link {names front : List String} {name target : String} (htidy : (Path.rooted (names ++ [name])).Tidy)
    (hlink : disk.link? (names ++ [name]) = some target) (hfront : front <+: names) : disk.isDirectory front = true := by
  obtain ⟨rest, rfl⟩ := hfront
  have hkey : Path.rootedText (front ++ rest ++ [name]) ∈ disk.links.keys :=
    (Keyed.holds_iff disk.links _).mp (Option.isSome_iff_exists.mpr ⟨target, hlink⟩)
  have hentry : Path.rootedText (front ++ rest ++ [name]) ∈ disk.entries := by
    simp only [entries, List.mem_append, hkey, or_true, true_or]
  rw [List.append_assoc] at hentry htidy
  cases rest with
  | nil => exact isDirectory_above htidy hentry
  | cons next rest => exact isDirectory_above htidy hentry

/-- Names of directories, none of them a link, lead there. -/
theorem walk_directories (hunlimited : disk.Unlimited) (here : List String) {names : List String} (hdown : ".." ∉ names) (hclear : disk.Clear (here ++ names))
    (hpresent : ∀ front, front <+: here ++ names → disk.isDirectory front = true) (through : Bool) (links : Nat)
    (rest : List String) :
    disk.walk through links here (names ++ rest) = disk.walk through links (here ++ names) rest := by
  induction names generalizing here with
  | nil => rw [List.nil_append, List.append_nil]
  | cons name names ih =>
      obtain ⟨hup, hrest⟩ : ".." ≠ name ∧ ".." ∉ names := by simpa using hdown
      have hsplit : here ++ name :: names = here ++ [name] ++ names := by simp
      have hfront : here ++ [name] <+: here ++ name :: names := hsplit ▸ List.prefix_append _ _
      have hstep : disk.present (here ++ [name]) = true := present_of_isDirectory (hpresent _ hfront)
      rw [List.cons_append, walk, hunlimited.refusal?]
      simp only
      rw [if_neg hup.symm, hclear here name hfront]
      simp only [hstep, if_true]
      rw [hsplit] at hclear hpresent ⊢
      exact ih (here ++ [name]) hrest hclear hpresent

/-- `..` leads up from a directory. -/
theorem walk_up (hunlimited : disk.Unlimited) {here : List String} (hdirectory : ∀ front, front <+: here → disk.isDirectory front = true)
    (through : Bool) (links ups : Nat) (rest : List String) :
    disk.walk through links here (List.replicate ups ".." ++ rest) =
      disk.walk through links (here.take (here.length - ups)) rest := by
  induction ups generalizing here with
  | zero => simp
  | succ ups ih =>
      have habove : ∀ front, front <+: here.dropLast → disk.isDirectory front = true :=
        fun front hfront => hdirectory front (hfront.trans (List.dropLast_prefix here))
      have htake : here.dropLast.take (here.dropLast.length - ups) = here.take (here.length - (ups + 1)) := by
        rw [List.dropLast_eq_take, List.take_take, List.length_take]
        congr 1
        omega
      rw [List.replicate_succ, List.cons_append, walk, hunlimited.refusal?]
      simp only [if_true]
      rw [if_pos (hdirectory here (List.prefix_refl here)), ih habove, htake]

/-! ### Direct paths -/

/-- The place of a path, if no name on the way is a link. -/
def standing (disk : Disk) (path : Path) : List String := Path.collapse (disk.namesFrom path)

/-- Whether a path reaches its place through no link.  Its `..`, if it has any, lead up from the working directory,
before all other names. -/
structure Direct (disk : Disk) (path : Path) : Prop where
  tidy : path.Tidy
  legible : path.Legible
  slashes : path.slashes ≤ 1
  shape : ∃ ups down, path.names = List.replicate ups ".." ++ down ∧ ".." ∉ down ∧ (path.isAbsolute = true → ups = 0)
  clear : disk.Clear (disk.standing path)

theorem namesFrom_child (disk : Disk) (path : Path) (name : String) :
    disk.namesFrom (path.child name) = disk.namesFrom path ++ [name] := by
  have hsame : (path.child name).isAbsolute = path.isAbsolute := rfl
  unfold namesFrom
  rw [hsame]
  split
  · rfl
  · exact (List.append_assoc _ _ _).symm

theorem standing_child {name : String} (hup : name ≠ "..") (disk : Disk) (path : Path) :
    disk.standing (path.child name) = disk.standing path ++ [name] := by
  rw [standing, namesFrom_child, collapse_concat, if_neg hup, standing]

/-- The place above is the directory above the place. -/
theorem standing_above (disk : Disk) (path : Path) : disk.standing path.above = (disk.standing path).dropLast := by
  rcases Path.above_cases path with ⟨hchild, -⟩ | ⟨hnone, habsolute, hsame⟩ | ⟨front, name, hnames, hdown, hfront⟩
  · rw [hchild, standing, namesFrom_child, collapse_concat, if_pos rfl, standing]
  · rw [hsame, standing, namesFrom, if_pos habsolute, hnone]
    rfl
  · have hpath : path = Path.child { path with names := front } name := by
      rw [Path.child, ← hnames]
    rw [hfront]
    conv => rhs; rw [hpath]
    rw [standing_child hdown, List.dropLast_concat]

namespace Direct

variable {path : Path}

theorem root (disk : Disk) : disk.Direct (.rooted []) where
  tidy := Path.tidy_root
  legible := List.forall_mem_nil _
  slashes := le_rfl
  shape := ⟨0, [], rfl, List.not_mem_nil, fun _ => rfl⟩
  clear := disk.clear_nil

theorem cwd (h : disk.WellNamed) (hcwd : disk.Clear disk.cwd) : disk.Direct ⟨0, []⟩ where
  tidy := ⟨Nat.zero_le 2, List.forall_mem_nil _⟩
  legible := List.forall_mem_nil _
  slashes := Nat.zero_le 1
  shape := ⟨0, [], rfl, List.not_mem_nil, fun _ => rfl⟩
  clear := by
    have hstanding : disk.standing ⟨0, []⟩ = disk.cwd := by
      rw [standing, namesFrom, if_neg (by decide), List.append_nil, collapse_down h.down_cwd]
    rw [hstanding]
    exact hcwd

theorem above (h : disk.Direct path) : disk.Direct path.above where
  tidy := h.tidy.above
  legible := h.legible.above
  slashes := by
    unfold Path.above
    split
    · exact h.slashes
    · exact h.slashes
  shape := by
    obtain ⟨ups, down, hnames, hdown, habsolute⟩ := h.shape
    rcases Path.above_cases path with ⟨hchild, hup⟩ | ⟨-, -, hsame⟩ | ⟨front, name, hfront, hname, habove⟩
    · -- All names lead up, so one more does.
      obtain rfl : down = [] := by
        rcases List.eq_nil_or_concat' down with hnil | ⟨others, last, rfl⟩
        · exact hnil
        · rw [hnames, ← List.append_assoc] at hup
          simp_all
      rw [hchild]
      refine ⟨ups + 1, [], ?_, List.not_mem_nil, fun hroot => ?_⟩
      · rw [Path.child, hnames, List.append_nil, List.append_nil, List.replicate_succ']
      · have hnone : ups = 0 := habsolute hroot
        have hroot' : path.isAbsolute = true := hroot
        simp [hnames, hnone, hroot'] at hup
    · rw [hsame]
      exact ⟨ups, down, hnames, hdown, habsolute⟩
    · rw [habove]
      rcases List.eq_nil_or_concat' down with rfl | ⟨others, last, rfl⟩
      · have hlast : name ∈ List.replicate ups ".." := by
          rw [← List.append_nil (List.replicate ups ".."), ← hnames, hfront]
          simp
        exact absurd (List.eq_of_mem_replicate hlast) hname
      · rw [hfront, ← List.append_assoc] at hnames
        refine ⟨ups, others, (List.append_inj' hnames rfl).1, fun hin => hdown ?_, habsolute⟩
        exact List.mem_append_left _ hin
  clear := by
    rw [standing_above]
    exact h.clear.of_prefix (List.dropLast_prefix _)

/-- Walking along a direct path is walking along the names of its place. -/
theorem walk_namesFrom (h : disk.WellNamed) (hunlimited : disk.Unlimited) (hcwd : disk.Clear disk.cwd) (hpath : disk.Direct path) (through : Bool)
    (links : Nat) {rest : List String} (hplace : ∀ front, front <+: disk.standing path → disk.isDirectory front = true) :
    disk.walk through links [] (disk.namesFrom path ++ rest) = disk.walk through links (disk.standing path) rest := by
  obtain ⟨ups, down, hnames, hdown, habsolute⟩ := hpath.shape
  by_cases hroot : path.isAbsolute = true
  · obtain rfl : ups = 0 := habsolute hroot
    have hsame : disk.namesFrom path = disk.standing path := by
      rw [standing, namesFrom, if_pos hroot, hnames, List.replicate_zero, List.nil_append, collapse_down hdown]
    rw [hsame]
    exact walk_directories hunlimited [] (Path.not_mem_collapse _) hpath.clear hplace through links rest
  · have hstart : disk.namesFrom path = disk.cwd ++ (List.replicate ups ".." ++ down) := by
      rw [namesFrom, if_neg hroot, hnames]
    have hstanding : disk.standing path = disk.cwd.take (disk.cwd.length - ups) ++ down := by
      rw [standing, hstart, ← List.append_assoc, collapse_append hdown, Path.collapse_replicate _ h.down_cwd]
    rw [hstart, List.append_assoc, List.append_assoc,
      walk_directories hunlimited [] h.down_cwd hcwd (fun front => isDirectory_cwd h), List.nil_append,
      walk_up hunlimited (fun front => isDirectory_cwd h)]
    rw [hstanding] at hplace ⊢
    exact walk_directories hunlimited _ hdown (hstanding ▸ hpath.clear) hplace through links rest

theorem mem_standing (hpath : disk.Direct path) (h : disk.WellNamed) {name : String} (hin : name ∈ disk.standing path) :
    name ≠ "" ∧ name ≠ "." ∧ '/' ∉ name.toList := by
  have hsource : name ∈ disk.namesFrom path := Path.mem_collapse hin
  unfold namesFrom at hsource
  split at hsource
  · exact hpath.tidy.names name hsource
  · exact (List.mem_append.mp hsource).elim (h.tidy_cwd.names name) (hpath.tidy.names name)

/-- A direct path stays direct with a name that leads to no link. -/
theorem child (h : disk.WellNamed) (hunlimited : disk.Unlimited) (hcwd : disk.Clear disk.cwd) (hpath : disk.Direct path) {name : String}
    (hname : Downward name) (hslash : '/' ∉ name.toList) (hlink : disk.linkAt? (path.child name) = none) :
    disk.Direct (path.child name) where
  tidy := hpath.tidy.child ⟨hname.filled, hname.here, hslash⟩
  legible := hpath.legible.child hname.legible
  slashes := hpath.slashes
  shape := by
    obtain ⟨ups, down, hnames, hdown, habsolute⟩ := hpath.shape
    refine ⟨ups, down ++ [name], ?_, ?_, habsolute⟩
    · rw [Path.child, hnames, List.append_assoc]
    · simpa [hdown] using hname.up.symm
  clear := by
    rw [standing_child hname.up]
    refine hpath.clear.concat ?_
    by_contra hsome
    obtain ⟨target, htarget⟩ := Option.ne_none_iff_exists'.mp hsome
    have htidy : (Path.rooted (disk.standing path ++ [name])).Tidy :=
      ⟨Nat.le_succ 1, List.forall_mem_append.mpr ⟨fun other => hpath.mem_standing h,
        List.forall_mem_singleton.mpr ⟨hname.filled, hname.here, hslash⟩⟩⟩
    have hlead : disk.lead false (path.child name) = .link target := by
      rw [hunlimited.lead, namesFrom_child,
        hpath.walk_namesFrom h hunlimited hcwd false linkLimit fun front => isDirectory_link htidy htarget,
        walk, hunlimited.refusal?]
      simp only
      rw [if_neg hname.up, htarget]
      rfl
    rw [Disk.linkAt?, hlead] at hlink
    cases hlink

/-- A direct path settles at its place. -/
theorem settle (h : disk.WellNamed) (hpath : disk.Direct path) : disk.settle path = .ok (.rooted (disk.standing path)) := by
  have hplace : (disk.absolute path).collapsed = .rooted (disk.standing path) := by
    unfold Disk.absolute Path.under standing namesFrom
    split
    · rename_i hroot
      have hslashes : path.slashes = 1 := by
        have hslashes := hpath.slashes
        have hsome : path.slashes ≠ 0 := by simpa [Path.isAbsolute] using hroot
        omega
      rw [Path.collapsed, hslashes, Path.rooted]
    · rfl
  have hdown : ".." ∉ (Path.rooted (disk.standing path)).names := Path.not_mem_collapse _
  have hlegible : (Path.rooted (disk.standing path)).Legible := by
    rw [← hplace]
    exact ((Path.legible_rooted h.cwd).under hpath.legible).collapsed
  rw [settle_clear, hplace] <;> rw [hplace]
  · exact hlegible
  · exact hpath.clear
  · exact hdown

end Direct

/-- Whether every link on the way of a text is resolved: none is met again while it is being resolved, and they do not
lead to one another too often. -/
def Resolves (disk : Disk) (text : String) : Prop :=
  ∃ expanded found trail, disk.expandHome (Path.ofText text) = .ok expanded ∧ disk.resolveNames expanded = .path found trail

/-- Where all links were resolved, none is left in the way, if every name can be looked up. -/
theorem straight_of_resolves (h : disk.WellNamed) (hunlimited : disk.Unlimited) (hcwd : disk.Clear disk.cwd) {text : String} (htext : Nameable disk.users text)
    (hresolves : disk.Resolves text) : disk.Straight text := by
  obtain ⟨expanded, found, trail, hexpanded, hfound⟩ := hresolves
  have hlegible : expanded.Legible := legible_expandHome h.toLegible htext hexpanded
  have hdirect : disk.Direct found :=
    preserved_resolveNames h.toLegible (Direct.root disk) (Direct.cwd h hcwd) (fun path => Direct.above)
      (fun path name hpath => hpath.child h hunlimited hcwd) hlegible (tidy_expandHome h (Path.tidy_ofText text) hexpanded) hfound
  refine ⟨expanded, hexpanded, Or.inl ⟨disk.standing found, ?_, hdirect.clear⟩⟩
  rw [Disk.resolve, hfound]
  exact hdirect.settle h

/-- Distinct files that normalise to themselves are all that they normalise to. -/
theorem normalizeAll_fixed {files : List String} (hnodup : files.Nodup)
    (hfixed : ∀ file ∈ files, disk.normalize file = .ok file) : disk.normalizeAll files = .ok files := by
  have hmap : files.mapM disk.normalize = .ok (files.map id) := mapM_ok hfixed
  rw [normalizeAll, hmap, List.map_id]
  exact congrArg Except.ok (firsts_of_nodup hnodup)

end Disk

/-- Normalising is a projection wherever the links on the way can be resolved.  On every disk, each text that denotes a
path normalises to the text of an absolute path whose names are neither empty nor dots; if the text is straight, that
one normalises to itself.  Where every name can be looked up, a text is straight if every link on its way is resolved, in
a working directory that is named by its real path.  So a list of straight texts, once normalised, is changed by no further normalising. -/
theorem normalize_projects {disk : Disk} (h : disk.WellNamed) {texts : List String} (htexts : ∀ text ∈ texts, Nameable disk.users text) :
    (∀ text ∈ texts, ∃ place : Path, disk.normalize text = .ok place.text ∧ place.isAbsolute = true ∧ place.Tidy ∧
      (disk.Straight text → disk.normalize place.text = .ok place.text)) ∧
    (disk.Unlimited → disk.Clear disk.cwd → ∀ text ∈ texts, disk.Resolves text → disk.Straight text) ∧
    ∃ files, disk.normalizeAll texts = .ok files ∧
      ((∀ text ∈ texts, disk.Straight text) → disk.normalizeAll files = .ok files) := by
  refine ⟨fun text htext => ?_, fun hunlimited hcwd text htext => Disk.straight_of_resolves h hunlimited hcwd (htexts text htext), ?_⟩
  · have hnameable : Nameable disk.users text := htexts text htext
    obtain ⟨expanded, hexpanded, hlegible⟩ :=
      Disk.expandHome_known h.toLegible (Path.legible_ofText hnameable.legible) hnameable.known
    obtain ⟨place, hplace, habsolute, htidy, -, -⟩ :=
      Disk.normalizePath_place h hlegible (Path.tidy_ofText text) hexpanded
    exact ⟨place, hplace, habsolute, htidy, fun hstraight => Disk.normalize_straight h hnameable hstraight hplace⟩
  · obtain ⟨files, hfiles⟩ := Disk.exists_normalizeAll h.toLegible htexts
    have hnodup : files.Nodup := by
      obtain ⟨all, -, rfl⟩ := Disk.normalizeAll_ok hfiles
      exact nodup_firsts all
    refine ⟨files, hfiles, fun hstraight => Disk.normalizeAll_fixed hnodup fun file hfile => ?_⟩
    obtain ⟨text, htext, hnormal⟩ := Disk.exists_of_mem_normalizeAll hfiles hfile
    exact Disk.normalize_straight h (htexts text htext) (hstraight text htext) hnormal

theorem wellNamed_looped : Disk.looped.WellNamed where
  links := by decide
  cwd := List.forall_mem_nil _
  home := List.forall_mem_nil _
  tidy_cwd := Path.tidy_root
  down_cwd := List.not_mem_nil
  tidy_home := Path.tidy_root
  users := List.forall_mem_nil _
  tidy_users := List.forall_mem_nil _

-- What names hold, and what a disk holds, is evaluated by equations: unfolding texts is slow.
attribute [local irreducible] Path.hasNul Disk.isDirectory Disk.present

theorem resolve_looped : Disk.looped.resolve (.rooted ["b"]) = .ok (.rooted ["c"]) ∧
    Disk.looped.resolve (.rooted ["loop", "x"]) = .error (.runtime "Symlink loop from '/loop/x'") := by
  constructor <;> cbv

/-- A link to a file, and a link that leads to itself: both are straight. -/
theorem normalize_projects_looped :
    Disk.looped.WellNamed ∧ (∀ text ∈ ["/b", "/loop/x"], Nameable [] text) ∧
      (∀ text ∈ ["/b", "/loop/x"], Disk.looped.Straight text) ∧
      ∃ files, Disk.looped.normalizeAll ["/b", "/loop/x"] = .ok files ∧ Disk.looped.normalizeAll files = .ok files := by
  have htexts : ∀ text ∈ ["/b", "/loop/x"], Nameable [] text :=
    List.forall_mem_cons.mpr ⟨nameable_absolute (by decide) (by decide),
      List.forall_mem_singleton.mpr (nameable_absolute (by decide) (by decide))⟩
  have hstraight : ∀ text ∈ ["/b", "/loop/x"], Disk.looped.Straight text := by
    refine List.forall_mem_cons.mpr ⟨⟨.rooted ["b"], by decide, Or.inl ⟨["c"], resolve_looped.1, ?_⟩⟩,
      List.forall_mem_singleton.mpr ⟨.rooted ["loop", "x"], by decide, Or.inr ⟨⟨_, resolve_looped.2⟩, _, resolve_looped.2⟩⟩⟩
    exact Disk.looped.clear_nil.concat (by decide)
  obtain ⟨-, -, files, hfiles, hfixed⟩ := normalize_projects wellNamed_looped htexts
  exact ⟨wellNamed_looped, htexts, hstraight, files, hfiles, hfixed hstraight⟩

/-- The place behind a link that leads to itself normalises to a link, and that to the file. -/
theorem unresolved_not_fixed :
    Disk.looped.WellNamed ∧ Disk.looped.Clear Disk.looped.cwd ∧ Nameable [] "/loop/../b" ∧
      ∃ file, Disk.looped.normalize "/loop/../b" = .ok file ∧ Disk.looped.normalize file ≠ .ok file :=
  ⟨wellNamed_looped, Disk.looped.clear_nil, nameable_absolute (by decide) (by decide), "/b", Disk.normalize_looped.1, by
    rw [Disk.normalize_looped.2]
    decide⟩

end FixFirst
