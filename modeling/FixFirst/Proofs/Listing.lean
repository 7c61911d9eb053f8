import FixFirst.Proofs.Act
import FixFirst.Proofs.Disk
import FixFirst.Proofs.Names
import FixFirst.Proofs.Text.Bytes
import FixFirst.Proofs.Text.Lines

/-!
# The files of a commit

The version control system lists the paths of a commit one to a line.  A path with a byte that is not a
printable character of ASCII, or with a double quote or a backslash, is put between double quotes, with an
escape for each such byte.  The reader of the listing takes each line for the name it looks for, without the
blanks around it: a path in quotes is looked for with its quotes and escapes, and a path that starts or ends
with a space is looked for without it.  Such a file is missing from the answer, with no word about it.
Where the system refuses to look for a name, as it does for one that is too long with its quotes and
escapes, there is no answer at all.

## Main definitions

* `Text.listed` — a path as a listing has it; `Text.seen` — the name that is looked for.
* `Text.Plain` — a path that is looked for by its own name.
* `Disk.existing` — the normalised paths of those names that exist below a directory.
* `Disk.obstacle?` — why a name below a directory cannot be looked for.
* `Shell.Commits` — a version control system that has a commit with given paths.

## Main statements

* `Text.seen_eq_iff` — which paths are looked for by their own names.
* `stagedFiles_commits` — the answer for every commit, if no lookup is refused; of plain paths, all that exist and
  no other.
* `commit_file_lost` — a file of a commit that is not in the answer.
-/

namespace FixFirst

namespace Text

/-! ### Listings -/

/-- Whether a byte is a printable character of ASCII. -/
def isVisible (byte : UInt8) : Bool := 32 ≤ byte.toNat && byte.toNat < 127

/-- Whether a listing has a byte as it is. -/
def isShown (byte : UInt8) : Bool := isVisible byte && byte.toNat != '"'.toNat && byte.toNat != '\\'.toNat

/-- What stands for a byte behind the backslash of its escape: a letter, the byte itself, or three octal digits. -/
def escapeOf (byte : UInt8) : List Char :=
  match byte.toNat with
  | 7 => ['a']
  | 8 => ['b']
  | 9 => ['t']
  | 10 => ['n']
  | 11 => ['v']
  | 12 => ['f']
  | 13 => ['r']
  | 34 => ['"']
  | 92 => ['\\']
  | other => [Nat.digitChar (other / 64), Nat.digitChar (other / 8 % 8), Nat.digitChar (other % 8)]

/-- A byte between quotes. -/
def quotedByte (byte : UInt8) : List Char :=
  if isShown byte then [Char.ofNat byte.toNat] else '\\' :: escapeOf byte

/-- A path between quotes. -/
def inQuotes (path : String) : List Char := '"' :: (Digest.textBytes path).flatMap quotedByte ++ ['"']

/-- A path as a listing has it. -/
def listed (path : String) : List Char :=
  if (Digest.textBytes path).all isShown then path.toList else inQuotes path

/-- A listing: a line for each path. -/
def listing (paths : List String) : String := String.ofList (paths.flatMap fun path => listed path ++ ['\n'])

/-- The name that is looked for where a listing has a path. -/
def seen (path : String) : String := String.ofList (trim (listed path))

/-- Whether a path is looked for by its own name. -/
structure Plain (path : String) : Prop where
  filled : path ≠ ""
  shown : ∀ byte ∈ Digest.textBytes path, isShown byte = true
  edges : trimmed path = path

instance : DecidablePred Plain := fun path =>
  decidable_of_iff (path ≠ "" ∧ (∀ byte ∈ Digest.textBytes path, isShown byte = true) ∧ trimmed path = path)
    ⟨fun ⟨hfilled, hshown, hedges⟩ => ⟨hfilled, hshown, hedges⟩, fun h => ⟨h.filled, h.shown, h.edges⟩⟩

/-- Whether a character is a printable one of ASCII. -/
def Printable (c : Char) : Prop := 32 ≤ c.toNat ∧ c.toNat < 127

instance : DecidablePred Printable := fun _ => inferInstanceAs (Decidable (_ ∧ _))

theorem Printable.isLineBreak {c : Char} (h : Printable c) : isLineBreak c = false := by
  obtain ⟨hlow, hhigh⟩ := h
  by_contra hbreak
  simp only [Text.isLineBreak, lineBreaks, within_cons, within_nil, Bool.not_eq_false, Bool.or_eq_true, Bool.and_eq_true,
    decide_eq_true_eq, Bool.false_eq_true, or_false] at hbreak
  omega

theorem printable_digitChar : ∀ digit < 8, Printable (Nat.digitChar digit) := by decide

theorem printable_escapeOf (byte : UInt8) : ∀ c ∈ escapeOf byte, Printable c := by
  have hbyte : byte.toNat < 256 := byte.toNat_lt
  unfold escapeOf
  split
  case h_10 =>
    intro c hc
    simp only [List.mem_cons, List.not_mem_nil, or_false] at hc
    rcases hc with rfl | rfl | rfl <;> exact printable_digitChar _ (by omega)
  all_goals
    intro c hc
    rw [List.mem_singleton.mp hc]
    decide

theorem printable_quotedByte (byte : UInt8) : ∀ c ∈ quotedByte byte, Printable c := by
  unfold quotedByte
  split
  · rename_i hshown
    have hbyte : 32 ≤ byte.toNat ∧ byte.toNat < 127 := by
      simp only [isShown, isVisible, Bool.and_eq_true, decide_eq_true_eq] at hshown
      exact hshown.1.1
    intro c hc
    rw [List.mem_singleton.mp hc, Printable, Char.toNat_ofNat, if_pos (Or.inl (by omega))]
    exact hbyte
  · intro c hc
    rcases List.mem_cons.mp hc with rfl | hescape
    · decide
    · exact printable_escapeOf byte c hescape

theorem printable_inQuotes (path : String) : ∀ c ∈ inQuotes path, Printable c := by
  have hquote : Printable '"' := by decide
  intro c hc
  simp only [inQuotes, List.cons_append, List.mem_cons, List.mem_append, List.mem_flatMap, List.not_mem_nil, or_false] at hc
  rcases hc with rfl | ⟨byte, -, hbyte⟩ | rfl
  · exact hquote
  · exact printable_quotedByte byte c hbyte
  · exact hquote

theorem printable_of_shown {path : String} (h : ∀ byte ∈ Digest.textBytes path, isShown byte = true) :
    ∀ c ∈ path.toList, Printable c := by
  intro c hc
  have hbytes : ∀ byte ∈ String.utf8EncodeChar c, 32 ≤ byte.toNat ∧ byte.toNat < 127 := by
    intro byte hbyte
    have hshown := h byte (Digest.textBytes_eq path ▸ List.mem_flatMap.mpr ⟨c, hc, hbyte⟩)
    simp only [isShown, isVisible, Bool.and_eq_true, decide_eq_true_eq] at hshown
    exact hshown.1.1
  have hsmall : c.toNat < 128 := by
    by_contra hlarge
    obtain ⟨byte, hbyte, hbig⟩ := Digest.exists_large_byte (Nat.not_lt.mp hlarge)
    have := (hbytes byte hbyte).2
    omega
  have hself := hbytes (UInt8.ofNat c.toNat) (Digest.utf8EncodeChar_small hsmall ▸ List.mem_singleton_self _)
  rw [UInt8.toNat_ofNat_of_lt' (Nat.lt_trans hsmall (by decide))] at hself
  exact hself

/-- A listing has printable characters only. -/
theorem printable_listed (path : String) : ∀ c ∈ listed path, Printable c := by
  unfold listed
  split
  · rename_i hshown
    exact printable_of_shown (List.all_eq_true.mp hshown)
  · exact printable_inQuotes path

/-- A line of a listing is a path, and a path is a line. -/
theorem lines_listing (paths : List String) : lines (listing paths).toList = paths.map listed := by
  have hparts : ∀ part ∈ paths.map listed, ∀ c ∈ part, isLineBreak c = false := by
    intro part hpart c hc
    obtain ⟨path, -, rfl⟩ := List.mem_map.mp hpart
    exact (printable_listed path c hc).isLineBreak
  rw [listing, String.toList_ofList, ← lines_written hparts, List.flatMap_map]

/-! ### Names that are looked for -/

theorem listed_of_shown {path : String} (h : ∀ byte ∈ Digest.textBytes path, isShown byte = true) :
    listed path = path.toList :=
  if_pos (List.all_eq_true.mpr h)

theorem listed_of_not_shown {path : String} (h : ¬ ∀ byte ∈ Digest.textBytes path, isShown byte = true) :
    listed path = inQuotes path :=
  if_neg fun hall => h (List.all_eq_true.mp hall)

theorem trim_inQuotes (path : String) : trim (inQuotes path) = inQuotes path := by
  refine trim_eq_self_iff.mpr ⟨fun c hc => ?_, fun c hc => ?_⟩
  · cases hc
    decide
  · rw [inQuotes, List.getLast?_append_of_ne_nil _ (List.cons_ne_nil _ _)] at hc
    cases hc
    decide

theorem length_lt_length_inQuotes (path : String) : path.toList.length < (inQuotes path).length := by
  have hbyte : ∀ byte, 1 ≤ (quotedByte byte).length := by
    intro byte
    unfold quotedByte
    split <;> simp
  have hbytes : (Digest.textBytes path).length ≤ ((Digest.textBytes path).flatMap quotedByte).length := by
    induction Digest.textBytes path with
    | nil => exact Nat.le_refl 0
    | cons byte rest ih =>
        rw [List.flatMap_cons, List.length_append, List.length_cons]
        have := hbyte byte
        omega
  have hlength := Digest.length_le_length_textBytes path
  simp only [inQuotes, List.length_append, List.length_cons, List.length_nil, String.length_toList]
  omega

/-- A path is looked for by its own name if it is listed without quotes and has no blank around it. -/
theorem seen_eq_iff {path : String} :
    seen path = path ↔ (∀ byte ∈ Digest.textBytes path, isShown byte = true) ∧ trimmed path = path := by
  by_cases hshown : ∀ byte ∈ Digest.textBytes path, isShown byte = true
  · rw [seen, listed_of_shown hshown]
    exact (and_iff_right hshown).symm
  · rw [seen, listed_of_not_shown hshown, trim_inQuotes]
    refine iff_of_false (fun hsame => ?_) fun h => hshown h.1
    have hlength := length_lt_length_inQuotes path
    have hchars := congrArg String.toList hsame
    rw [String.toList_ofList] at hchars
    rw [hchars] at hlength
    exact Nat.lt_irrefl _ hlength

theorem Plain.seen {path : String} (h : Plain path) : seen path = path := seen_eq_iff.mpr ⟨h.shown, h.edges⟩

end Text

/-! ### Files that are found -/

/-- The path of a name below a directory. -/
def below (base : Path) (name : String) : Path := base.under (Path.ofText name)

/-- The normalised paths of those names that exist below a directory. -/
def Disk.existing (disk : Disk) (base : Path) (names : List String) : Except Fault (List String) :=
  ((names.map (below base)).filter fun path => disk.pathExists path = .ok true).mapM disk.normalizePath

/-- Why the first name that cannot be looked for below a directory cannot, if there is one. -/
def Disk.obstacle? (disk : Disk) (base : Path) (names : List String) : Option Fault :=
  (names.map (below base)).findSome? fun path => match disk.pathExists path with
    | .ok _ => none
    | .error fault => some fault

/-- The names of a listing that are looked for are those of its paths that are not blank. -/
theorem listedFiles_listing (disk : Disk) (base : Path) (paths : List String) :
    listedFiles disk base (Text.listing paths) =
      disk.found (((paths.map Text.seen).filter (· != "")).map (below base)) := by
  have hfilled : ∀ entry : List Char, (!entry.isEmpty) = (String.ofList entry != "") := by
    intro entry
    cases entry with
    | nil => rfl
    | cons c rest => simp
  unfold listedFiles
  simp only [Text.lines_listing, List.map_map, List.filter_map]
  have hsame : paths.filter ((fun entry : List Char => !entry.isEmpty) ∘ Text.trim ∘ Text.listed) =
      paths.filter ((· != "") ∘ Text.seen) :=
    List.filter_congr fun path _ => hfilled (Text.trim (Text.listed path))
  rw [hsame]
  rfl

/-- A path that exists has no NUL. -/
theorem Disk.legible_of_pathExists {disk : Disk} {path : Path} (h : disk.pathExists path = .ok true) : path.Legible := by
  rw [← Path.hasNul_eq_false]
  unfold Disk.pathExists Disk.leadsTo at h
  split at h
  · cases h
  · exact Bool.eq_false_of_not_eq_true ‹_›

/-- Names below an absolute directory that exist can be normalised. -/
theorem Disk.existing_ok {disk : Disk} (hdisk : disk.Legible) {base : Path} (hbase : base.isAbsolute = true)
    (names : List String) : ∃ files, disk.existing base names = .ok files := by
  have hnormal : ∀ path ∈ (names.map (below base)).filter fun path => disk.pathExists path = .ok true,
      ∃ file, disk.normalizePath path = .ok file := by
    intro path hpath
    obtain ⟨hin, hexists⟩ := List.mem_filter.mp hpath
    obtain ⟨name, -, rfl⟩ := List.mem_map.mp hin
    exact (normalizePath_ok_iff hdisk (legible_of_pathExists (of_decide_eq_true hexists))).mpr (Path.known_under hbase _)
  unfold Disk.existing
  generalize (names.map (below base)).filter _ = found at hnormal
  induction found with
  | nil => exact ⟨[], rfl⟩
  | cons path rest ih =>
      obtain ⟨file, hfile⟩ := hnormal path List.mem_cons_self
      obtain ⟨files, hfiles⟩ := ih fun other hother => hnormal other (List.mem_cons_of_mem _ hother)
      exact ⟨file :: files, by rw [List.mapM_cons, hfile, hfiles]; rfl⟩

/-- What is found of names below an absolute directory is what exists of them, unless one cannot be looked for. -/
theorem Disk.found_below {disk : Disk} (hdisk : disk.Legible) {base : Path} (hbase : base.isAbsolute = true)
    (names : List String) : disk.found (names.map (below base)) =
      (disk.obstacle? base names).elim (disk.existing base names) .error := by
  induction names with
  | nil => rfl
  | cons name rest ih =>
      unfold Disk.obstacle? Disk.existing at ih ⊢
      rw [List.map_cons, Disk.found, List.findSome?_cons, List.filter_cons]
      cases hexists : disk.pathExists (below base name) with
      | error fault => rfl
      | ok answer =>
          cases answer with
          | false => exact ih
          | true =>
              obtain ⟨file, hfile⟩ := (normalizePath_ok_iff hdisk (legible_of_pathExists hexists)).mpr
                (Path.known_under hbase (Path.ofText name))
              simp only [bind, Except.bind, pure, Except.pure, if_true, below] at hfile ih ⊢
              simp only [hfile, ih, decide_true, if_true, List.mapM_cons]
              generalize List.findSome? _ _ = obstacle
              cases obstacle <;> rfl

/-- Where every name can be looked up, every name can be looked for. -/
theorem Disk.obstacle?_eq_none {disk : Disk} (h : disk.Unlimited) (base : Path) (names : List String) :
    disk.obstacle? base names = none := by
  refine List.findSome?_eq_none_iff.mpr fun path _ => ?_
  rw [Disk.pathExists, h.leadsTo]

/-- Whether there is a file or a directory under each of some names, one below the other. -/
def Disk.leads (disk : Disk) (here : List String) : List String → Bool
  | [] => true
  | name :: rest => disk.present (here ++ [name]) && disk.leads (here ++ [name]) rest

theorem Disk.walk_leads {disk : Disk} (hunlimited : disk.Unlimited) (h : disk.links = []) {here names : List String} (hnames : ".." ∉ names)
    (through : Bool) (links : Nat) :
    disk.walk through links here names = if disk.leads here names then .reached (here ++ names) else .lost := by
  have hnone : ∀ names, disk.link? names = none := by
    intro names
    rw [Disk.link?, h, Keyed.get?_nil]
  induction names generalizing here with
  | nil => rw [walk, leads, List.append_nil]; rfl
  | cons name rest ih =>
      obtain ⟨hname, hrest⟩ : ".." ≠ name ∧ ".." ∉ rest := by simpa using hnames
      rw [walk, hunlimited.refusal?, if_neg (Ne.symm hname), hnone, leads]
      cases disk.present (here ++ [name]) with
      | true => simpa using @ih (here ++ [name]) hrest
      | false => rfl

/-- What exists on a disk without links. -/
theorem Disk.pathExists_leads {disk : Disk} (hunlimited : disk.Unlimited) (h : disk.links = []) {path : Path}
    (habsolute : path.isAbsolute = true) (hnames : ".." ∉ path.names) :
    disk.pathExists path = .ok (!path.hasNul && disk.leads [] path.names) := by
  unfold Disk.pathExists
  rw [hunlimited.leadsTo]
  unfold Disk.locate? Disk.follow
  rw [hunlimited.lead, Disk.namesFrom, if_pos habsolute, walk_leads hunlimited h hnames]
  cases disk.leads [] path.names <;> rfl

/-! ### Commits -/

variable {τ σ : Type}

/-- Whether a command exits with zero and prints a text, wherever the disk is a given one, and leaves the disk
alone. -/
def Shell.Prints (shell : Shell τ σ) (disk : Disk) (command : Command) (text : String) : Prop :=
  ∀ world : World τ σ, world.disk = disk → ∃ errors after,
    (shell command none).on world = (.ok ⟨0, text, errors⟩, after) ∧ after.disk = disk

/-- Whether the version control system has a commit with given paths in a work tree with a given top directory. -/
structure Shell.Commits (shell : Shell τ σ) (disk : Disk) (root : Path) (top : String) (paths : List String) : Prop where
  top : shell.Prints disk ⟨["git", "rev-parse", "--show-toplevel"], some root⟩ (top ++ "\n")
  paths : shell.Prints disk ⟨["git", "diff", "--cached", "--name-only", "--diff-filter=ACMR"], some root⟩
    (Text.listing paths)

theorem git_prints {shell : Shell τ σ} {disk : Disk} {root : Path} {arguments : List String} {text : String}
    (h : shell.Prints disk ⟨"git" :: arguments, some root⟩ text) {world : World τ σ} (hdisk : world.disk = disk) :
    ∃ errors after, (git shell root arguments).on world = (.ok ⟨0, text, errors⟩, after) ∧ after.disk = disk := by
  obtain ⟨errors, after, hprints, hafter⟩ := h (world.noted [.command ("git" :: arguments) (some root.text)]) hdisk
  have hrun : (shell.run ⟨"git" :: arguments, some root⟩ none).on world = (.ok ⟨0, text, errors⟩, after) := hprints
  refine ⟨errors, after, ?_, hafter⟩
  unfold git
  rw [Act.on_bind_of_ok (Act.on_attempt _ world), hrun]
  rfl

/-- What is answered for a commit. -/
theorem on_stagedFiles {shell : Shell τ σ} {world : World τ σ} {root : Path} {top : String} {paths : List String}
    (h : shell.Commits world.disk root top paths) :
    ∃ after, (stagedFiles shell root).on world =
        (world.disk.found (((paths.map Text.seen).filter (· != "")).map (below (Path.ofText (Text.trimmed top)))), after) ∧
      after.disk = world.disk := by
  obtain ⟨errors, middle, htop, hmiddle⟩ := git_prints h.top rfl
  obtain ⟨errors', after, hlisted, hafter⟩ := git_prints h.paths hmiddle
  have htrim : Text.trimmed (top ++ "\n") = Text.trimmed top := by
    have hfeed : ∀ c ∈ "\n".toList, Text.isBlank c = true := by simpa using (by decide : Text.isBlank '\n' = true)
    unfold Text.trimmed
    rw [String.toList_append, Text.trim_append_right top.toList hfeed]
  refine ⟨after, ?_, hafter⟩
  unfold stagedFiles
  rw [Act.on_bind_of_ok htop]
  simp only [ne_eq, not_true_eq_false, if_false]
  rw [Act.on_bind_of_ok hlisted]
  simp only [not_true_eq_false, if_false]
  rw [Act.on_bind_of_ok (Act.on_get after), Act.on_ofExcept, hafter, listedFiles_listing, htrim]

/-- The answer for a commit: what exists of the names that are looked for, unless one of them cannot be looked for;
then the fault of the first such name is all there is.  Where each path is looked for by its own name, these are the
files of the commit. -/
theorem stagedFiles_commits {shell : Shell τ σ} {world : World τ σ} {root : Path} {top : String} {paths : List String}
    (h : shell.Commits world.disk root top paths) (hdisk : world.disk.Legible)
    (habsolute : (Path.ofText (Text.trimmed top)).isAbsolute = true) :
    let names := (paths.map Text.seen).filter (· != "")
    let base := Path.ofText (Text.trimmed top)
    ∃ files after, world.disk.existing base names = .ok files ∧ after.disk = world.disk ∧
      (stagedFiles shell root).on world = ((world.disk.obstacle? base names).elim (.ok files) .error, after) ∧
      (Text.trimmed top = top → (∀ path ∈ paths, Text.Plain path) →
        world.disk.existing (Path.ofText top) paths = .ok files) := by
  intro names base
  obtain ⟨files, hfiles⟩ := Disk.existing_ok hdisk habsolute names
  obtain ⟨after, hanswer, hafter⟩ := on_stagedFiles h
  refine ⟨files, after, hfiles, hafter, ?_, fun hedges hplain => ?_⟩
  · rw [hanswer, Disk.found_below hdisk habsolute, hfiles]
  · have hseen : names = paths := by
      simp only [names]
      rw [List.map_congr_left fun path hpath => (hplain path hpath).seen, List.map_id']
      exact List.filter_eq_self.mpr fun path hpath => by simpa using (hplain path hpath).filled
    rwa [hseen, hedges] at hfiles

/-! ### Two commits -/

/-- A version control system that has one commit, in the directory `/proj`. -/
def Shell.committing (paths : List String) : Shell Rat Unit := fun command _ =>
  pure ⟨0, if command.arguments.contains "rev-parse" then "/proj" ++ "\n" else Text.listing paths, ""⟩

theorem Shell.commits_committing (disk : Disk) (root : Path) (paths : List String) :
    (Shell.committing paths).Commits disk root "/proj" paths where
  top world hdisk := ⟨"", world, rfl, hdisk⟩
  paths world hdisk := ⟨"", world, rfl, hdisk⟩

/-- A disk with two files in the directory `/proj`; the name of one has a character outside ASCII. -/
def Disk.accented : Disk :=
  ((Disk.empty ["proj"] []).write "/proj/a b.py" (some (Digest.textBytes "x = 1\n"))).write "/proj/é.py"
    (some (Digest.textBytes "y = 2\n"))

theorem Disk.legible_accented : Disk.accented.Legible := ⟨by decide, by decide, by decide, by decide⟩

theorem Disk.unlimited_accented : Disk.accented.Unlimited := ⟨rfl, rfl, rfl⟩

/-- What exists of a name in the directory `/proj`. -/
theorem Disk.existing_accented {name : String} (hname : Path.ofText name = ⟨0, [name]⟩) (hdown : Downward name) :
    Disk.accented.existing (Path.ofText "/proj") [name] =
      if Disk.accented.leads [] ["proj", name] then .ok [Path.rootedText ["proj", name]] else .ok [] := by
  have hpath : (Path.ofText "/proj").under (Path.ofText name) = Path.rooted ["proj", name] := by
    rw [hname]
    rfl
  have hnames : ∀ other ∈ ["proj", name], Downward other :=
    List.forall_mem_cons.mpr ⟨by decide, List.forall_mem_singleton.mpr hdown⟩
  have hexists : Disk.accented.pathExists (Path.rooted ["proj", name]) = .ok (Disk.accented.leads [] ["proj", name]) := by
    have hnul : (Path.rooted ["proj", name]).hasNul = false :=
      Path.hasNul_eq_false.mpr fun other hother => (hnames other hother).legible
    rw [Disk.pathExists_leads unlimited_accented rfl rfl fun hup => (hnames _ hup).up rfl, hnul]
    rfl
  have hnormal : Disk.accented.normalizePath (Path.rooted ["proj", name]) = .ok (Path.rootedText ["proj", name]) :=
    Disk.normalizePath_downward rfl rfl hnames
  unfold Disk.existing
  rw [List.map_singleton, below, hpath, List.filter_singleton, hexists]
  cases Disk.accented.leads [] ["proj", name] with
  | true => simp only [decide_true, cond_true, List.mapM_cons, hnormal]; rfl
  | false => rfl

/-- A file whose name has a space inside is found. -/
theorem stagedFiles_commits_spaced :
    ∃ after, (stagedFiles (Shell.committing ["a b.py"]) (Path.rooted ["proj"])).on (World.still Disk.accented ()) =
      (.ok ["/proj/a b.py"], after) := by
  have hcommits : (Shell.committing ["a b.py"]).Commits (World.still Disk.accented ()).disk (Path.rooted ["proj"])
      "/proj" ["a b.py"] := Shell.commits_committing _ _ _
  obtain ⟨files, after, -, -, hanswer, hplain⟩ := stagedFiles_commits hcommits Disk.legible_accented (by decide)
  have hfiles := hplain (by decide +kernel) (by decide +kernel)
  rw [show World.disk (World.still Disk.accented ()) = Disk.accented from rfl,
    Disk.existing_accented (by decide) (by decide), if_pos (by decide)] at hfiles
  cases hfiles
  refine ⟨after, hanswer.trans ?_⟩
  rw [show World.disk (World.still Disk.accented ()) = Disk.accented from rfl,
    Disk.obstacle?_eq_none Disk.unlimited_accented]
  rfl

/-- A file whose name has a character outside ASCII is in the commit and on the disk, and is not in the answer. -/
theorem commit_file_lost :
    Disk.accented.existing (Path.ofText "/proj") ["é.py"] = .ok ["/proj/é.py"] ∧
      ∃ after, (stagedFiles (Shell.committing ["é.py"]) (Path.rooted ["proj"])).on (World.still Disk.accented ()) =
        (.ok [], after) := by
  have hquoted : (["é.py"].map Text.seen).filter (· != "") = ["\"\\303\\251.py\""] := by decide +kernel
  have hcommits : (Shell.committing ["é.py"]).Commits (World.still Disk.accented ()).disk (Path.rooted ["proj"])
      "/proj" ["é.py"] := Shell.commits_committing _ _ _
  obtain ⟨after, hanswer, -⟩ := on_stagedFiles hcommits
  refine ⟨?_, after, ?_⟩
  · rw [Disk.existing_accented (by decide) (by decide), if_pos (by decide)]
    decide
  · have htop : Text.trimmed "/proj" = "/proj" := by decide +kernel
    rw [hanswer, hquoted, htop, show World.disk (World.still Disk.accented ()) = Disk.accented from rfl,
      Disk.found_below Disk.legible_accented rfl, Disk.obstacle?_eq_none Disk.unlimited_accented, Option.elim_none,
      Disk.existing_accented (by decide) (by decide), if_neg (by decide)]

-- The name has five bytes, and what is looked for in its place has thirteen.
example :
    let disk := { Disk.accented with longestName := some 12 }
    disk.refusal? ["proj"] "é.py" = none ∧ disk.refusal? ["proj"] (Text.seen "é.py") = some .tooLong := by
  decide +kernel

end FixFirst
