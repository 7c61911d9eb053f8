import FixFirst.Fingerprint
import FixFirst.Proofs.Disk
import FixFirst.Proofs.Fault
import FixFirst.Proofs.Json.Delimited
import FixFirst.Proofs.Path
import FixFirst.Proofs.Schema
import FixFirst.Proofs.Session.Sound
import FixFirst.Proofs.Text.Bytes

/-!
# What fingerprints tell apart

A fingerprint is a digest of the name of an engine, its settings and the configuration files that are there,
each by its name and what is in it, one after the other.  The settings are a document that tells where it ends.
The files do not tell: their contents can end with the name of another file.  So fingerprints separate settings,
but they separate files only as long as none has in it what can be taken for the start of another one.

## Main definitions

* `EngineConfig.Tidy` — whether the directory of settings has the form of paths that are read.
* `Unmarked` — whether contents cannot be taken for the start of another file.
* `Disk.config?`, `Disk.configBytes` — a configuration file, and what a fingerprint has of all of them.
* `Config.Fingerprinted` — a fingerprint with the settings that it was made for.
* `Config.Digested` — that two lists of bytes which are digested are told apart by their digests.

## Main statements

* `EngineConfig.tidy_of_read`, `EngineConfig.write_inj` — settings that are read are told by what is written.
* `fileBytes_inj` — contents that are not marked are told apart.
* `Config.traits_ok_iff` — what a fingerprint is a digest of.
* `Config.fingerprint_separates` — when fingerprints are the same, and what that says about the files.
* `Alike.fingerprint_collides` — one fingerprint for different configuration files.
-/

namespace FixFirst

variable {τ : Type}

/-! ### Settings -/

/-- What a codec of optional values writes for nothing is not what it writes for something. -/
theorem Codec.optional_encode_inj {α : Type} {codec : Codec α} {first second : Option α}
    (hnull : ∀ value, codec.encode value ≠ .null)
    (hinj : ∀ value ∈ first, ∀ other ∈ second, codec.encode value = codec.encode other → value = other)
    (h : codec.optional.encode first = codec.optional.encode second) : first = second := by
  cases first with
  | none =>
      cases second with
      | none => rfl
      | some other => exact absurd h.symm (hnull other)
  | some value =>
      cases second with
      | none => exact absurd h (hnull value)
      | some other => exact congrArg some (hinj value rfl other rfl h)

theorem Codec.numberless_optional {α : Type} {codec : Codec α} (h : ∀ value, (codec.encode value).Numberless)
    (value : Option α) : (codec.optional.encode value).Numberless := by
  cases value with
  | none => trivial
  | some value => exact h value

namespace EngineConfig

/-- Whether the directory of the settings has the form of paths that are read. -/
def Tidy (settings : EngineConfig) : Prop := ∀ path ∈ settings.cacheDirectory, path.Tidy

/-- Settings that are read are tidy. -/
theorem tidy_of_read {value : Json} {settings : EngineConfig} (h : EngineConfig.schema.read value = .good settings) :
    settings.Tidy := by
  have hkeeps : EngineConfig.schema.Keeps Tidy := by
    iterate 3 refine List.forall_mem_cons.mpr ⟨Field.keeps fun _ _ _ _ hbefore => hbefore, ?_⟩
    refine List.forall_mem_cons.mpr ⟨Field.keeps fun given path _ hread _ => ?_, List.forall_mem_nil _⟩
    intro directory hdirectory
    cases hdirectory
    cases given with
    | str text =>
        cases hread
        exact Path.tidy_ofText text
    | _ => cases hread
  exact (Schema.holds_of_read hkeeps (fun _ hnone => by cases hnone) h).1

variable {settings other : EngineConfig}

/-- Tidy settings are told by what is written of them. -/
theorem write_inj (h : settings.Tidy) (h' : other.Tidy)
    (hwrite : EngineConfig.schema.write settings = EngineConfig.schema.write other) : settings = other := by
  obtain ⟨enabled, executable, arguments, directory⟩ := settings
  obtain ⟨enabled', executable', arguments', directory'⟩ := other
  have hmembers := Json.obj.inj hwrite
  simp only [EngineConfig.schema, Schema.plain, Field.given, Field.needed, List.map_cons, List.map_nil,
    List.cons.injEq, Prod.mk.injEq, true_and, and_true] at hmembers
  obtain ⟨henabled, hexecutable, harguments, hdirectory⟩ := hmembers
  cases Json.bool.inj henabled
  cases Codec.optional_encode_inj (fun _ hnull => by cases hnull) (fun _ _ _ _ hsame => Json.str.inj hsame) hexecutable
  cases List.map_injective_iff.mpr (fun _ _ hsame => Json.str.inj hsame) (Json.arr.inj harguments)
  cases Codec.optional_encode_inj (fun _ hnull => by cases hnull) (fun path hpath place hplace hsame =>
    (Path.text_inj (h path hpath) (h' place hplace)).mp (Json.str.inj hsame)) hdirectory
  rfl

theorem numberless_write (settings : EngineConfig) : (EngineConfig.schema.write settings).Numberless := by
  refine Json.numberlessMembers_iff.mpr ?_
  refine List.forall_mem_cons.mpr ⟨trivial, List.forall_mem_cons.mpr ⟨?executable, List.forall_mem_cons.mpr ⟨?arguments,
    List.forall_mem_cons.mpr ⟨?directory, List.forall_mem_nil _⟩⟩⟩⟩
  case executable =>
    have htext : ∀ value, (Codec.text.encode value).Numberless := fun _ => trivial
    exact Codec.numberless_optional htext settings.executable
  case arguments =>
    refine Json.numberlessItems_iff.mpr ?_
    rw [List.forall_mem_map]
    exact fun _ _ => trivial
  case directory =>
    have hpath : ∀ value, (Codec.path.encode value).Numberless := fun _ => trivial
    exact Codec.numberless_optional hpath settings.cacheDirectory

end EngineConfig

/-! ### Files that stand one after the other -/

/-- The names by which a configuration file can be told to start. -/
def fileMarks : List String := ["ruff.toml", "mypy.ini", "setup.cfg"]

/-- Whether what is in a configuration file cannot be taken for the start of another one: none of their names is
in it, and it does not end with the dot that a name may start with. -/
structure Unmarked (contents : List UInt8) : Prop where
  marks : ∀ mark ∈ fileMarks, ¬Digest.textBytes mark <:+: contents
  dot : contents.getLast? ≠ some 0x2e

/-- The names of the configuration files that may come after another one. -/
def laterFiles : List String := toolConfigFiles.tail

theorem exists_mark : ∀ file ∈ laterFiles, ∃ mark ∈ fileMarks, Digest.textBytes mark <:+: Digest.textBytes file := by
  simp only [Digest.textBytes_eq]
  decide

/-- If a name of a file is cut in two, its end is not the start of a name, unless the dot was cut off. -/
theorem cut_file : ∀ file ∈ laterFiles, ∀ count < (Digest.textBytes file).length, count ≠ 0 → ∀ other ∈ laterFiles,
    (Digest.textBytes file).drop count <+: Digest.textBytes other ∨
      Digest.textBytes other <+: (Digest.textBytes file).drop count →
      (Digest.textBytes file).take count = [0x2e] := by
  simp only [Digest.textBytes_eq]
  decide

/-- Whether a list of bytes is empty or starts with the name of one of the files. -/
def StartsFile (files : List String) (bytes : List UInt8) : Prop :=
  bytes = [] ∨ ∃ file ∈ files, Digest.textBytes file <+: bytes

/-- Bytes behind contents that are not marked start no later than other such bytes, if both start with a file. -/
theorem Unmarked.eq_nil {contents start extra rest : List UInt8} (h : Unmarked contents)
    (hcontents : contents = start ++ extra) (hfiles : StartsFile laterFiles (extra ++ rest))
    (hrest : StartsFile laterFiles rest) :
    extra = [] := by
  by_contra hextra
  obtain hnone | ⟨file, hfile, hstart⟩ := hfiles
  · exact hextra (List.append_eq_nil_iff.mp hnone).1
  have hwhole : ¬Digest.textBytes file <+: extra := by
    intro hinside
    obtain ⟨mark, hmark, hin⟩ := exists_mark file hfile
    refine h.marks mark hmark (hin.trans (hinside.isInfix.trans ?_))
    rw [hcontents]
    exact (List.suffix_append start extra).isInfix
  -- The name is cut in two by where the contents end, and its end stands where the rest starts with a file.
  obtain hcut | hcut := List.prefix_or_prefix_of_prefix hstart (List.prefix_append extra rest)
  · exact hwhole hcut
  obtain ⟨late, hlate⟩ := hcut
  have hcount : extra.length < (Digest.textBytes file).length := by
    rw [← hlate, List.length_append, Nat.lt_add_right_iff_pos, List.length_pos_iff]
    rintro rfl
    rw [List.append_nil] at hlate
    exact hwhole (hlate ▸ List.prefix_refl _)
  have htake : (Digest.textBytes file).take extra.length = extra := by rw [← hlate, List.take_left]
  have hdrop : (Digest.textBytes file).drop extra.length = late := by rw [← hlate, List.drop_left]
  have hlaterest : late <+: rest := by
    rw [← hlate] at hstart
    exact (List.prefix_append_right_inj extra).mp hstart
  obtain hnone | ⟨other, hother, hnext⟩ := hrest
  · rw [hnone, List.prefix_nil] at hlaterest
    rw [hlaterest, List.append_nil] at hlate
    exact hwhole (hlate ▸ List.prefix_refl _)
  · have hdot := cut_file file hfile extra.length hcount (fun hzero => hextra (List.length_eq_zero_iff.mp hzero)) other
      hother (hdrop ▸ List.prefix_or_prefix_of_prefix hlaterest hnext)
    rw [htake] at hdot
    exact h.dot (by rw [hcontents, hdot, List.getLast?_append_of_ne_nil _ (List.cons_ne_nil _ _)]; rfl)

/-- Contents that are not marked end where the next file starts. -/
theorem Unmarked.append_inj {contents other rest tail : List UInt8} (h : Unmarked contents) (h' : Unmarked other)
    (hrest : StartsFile laterFiles rest) (htail : StartsFile laterFiles tail) (hsame : contents ++ rest = other ++ tail) :
    contents = other ∧ rest = tail := by
  obtain ⟨extra, hother, rfl⟩ | ⟨extra, hcontents, rfl⟩ := List.append_eq_append_iff.mp hsame
  · obtain rfl := h'.eq_nil hother hrest htail
    rw [List.append_nil] at hother
    exact ⟨hother.symm, rfl⟩
  · obtain rfl := h.eq_nil hcontents htail hrest
    rw [List.append_nil] at hcontents
    exact ⟨hcontents, rfl⟩

/-- What a fingerprint has of a file: its name and what is in it, if it is there. -/
def fileBytes (contents : String → Option (List UInt8)) (file : String) : List UInt8 :=
  (contents file).elim [] fun bytes => Digest.textBytes file ++ bytes

theorem startsFile_fileBytes (files : List String) (contents : String → Option (List UInt8)) :
    StartsFile files (files.flatMap (fileBytes contents)) := by
  induction files with
  | nil => exact .inl rfl
  | cons file files ih =>
      rw [List.flatMap_cons]
      cases hfile : contents file with
      | none =>
          rw [fileBytes, hfile, Option.elim_none, List.nil_append]
          exact ih.imp_right fun ⟨other, hother, hstart⟩ => ⟨other, List.mem_cons_of_mem _ hother, hstart⟩
      | some bytes =>
          rw [fileBytes, hfile, Option.elim_some, List.append_assoc]
          exact .inr ⟨file, List.mem_cons_self, List.prefix_append _ _⟩

/-- Whether two names of files differ before either of them ends. -/
def Apart (file next : String) : Prop :=
  ¬Digest.textBytes file <+: Digest.textBytes next ∧ ¬Digest.textBytes next <+: Digest.textBytes file

theorem pairwise_apart : toolConfigFiles.Pairwise Apart := by
  unfold Apart
  simp only [Digest.textBytes_eq]
  decide

/-- A file that is there is no other one. -/
theorem not_startsFile {file : String} {files : List String} (hfilled : file ≠ "") (hapart : ∀ next ∈ files, Apart file next)
    (rest : List UInt8) : ¬StartsFile files (Digest.textBytes file ++ rest) := by
  rintro (hnone | ⟨next, hnext, hstart⟩)
  · exact hfilled (Digest.textBytes_injective ((List.append_eq_nil_iff.mp hnone).1.trans (Digest.textBytes_eq "").symm))
  · rcases List.prefix_or_prefix_of_prefix hstart (List.prefix_append (Digest.textBytes file) rest) with hprefix | hprefix
    · exact (hapart next hnext).2 hprefix
    · exact (hapart next hnext).1 hprefix

/-- Which files are there, and what is in them, is told by what a fingerprint has of them, as long as nothing in
them can be taken for the start of another file. -/
theorem fileBytes_inj {files : List String} {contents other : String → Option (List UInt8)}
    (hlater : ∀ file ∈ files.tail, file ∈ laterFiles) (hapart : files.Pairwise Apart)
    (hfilled : ∀ file ∈ files, file ≠ "") (hcontents : ∀ file ∈ files, ∀ bytes ∈ contents file, Unmarked bytes)
    (hother : ∀ file ∈ files, ∀ bytes ∈ other file, Unmarked bytes)
    (h : files.flatMap (fileBytes contents) = files.flatMap (fileBytes other)) :
    ∀ file ∈ files, contents file = other file := by
  induction files with
  | nil => exact List.forall_mem_nil _
  | cons file files ih =>
      obtain ⟨hfile, hfiles⟩ := List.pairwise_cons.mp hapart
      have hfilled' := List.forall_mem_cons.mp hfilled
      have hcontents' := List.forall_mem_cons.mp hcontents
      have hother' := List.forall_mem_cons.mp hother
      have hstarts : ∀ contents, StartsFile laterFiles (files.flatMap (fileBytes contents)) := fun contents =>
        (startsFile_fileBytes files contents).imp_right fun ⟨next, hnext, hstart⟩ => ⟨next, hlater next hnext, hstart⟩
      have hrest := ih (fun next hnext => hlater next (List.mem_of_mem_tail hnext)) hfiles hfilled'.2 hcontents'.2 hother'.2
      have hno := not_startsFile hfilled'.1 hfile
      rw [List.flatMap_cons, List.flatMap_cons] at h
      rw [List.forall_mem_cons]
      cases hone : contents file with
      | none =>
          cases htwo : other file with
          | none =>
              simp only [fileBytes, hone, htwo, Option.elim_none, List.nil_append] at h
              exact ⟨rfl, hrest h⟩
          | some bytes =>
              simp only [fileBytes, hone, htwo, Option.elim_none, Option.elim_some, List.nil_append, List.append_assoc] at h
              exact absurd (h ▸ startsFile_fileBytes files contents) (hno _)
      | some bytes =>
          cases htwo : other file with
          | none =>
              simp only [fileBytes, hone, htwo, Option.elim_none, Option.elim_some, List.nil_append, List.append_assoc] at h
              exact absurd (h ▸ startsFile_fileBytes files other) (hno _)
          | some bytes' =>
              simp only [fileBytes, hone, htwo, Option.elim_some, List.append_assoc] at h
              obtain ⟨rfl, hsame⟩ := (hcontents'.1 bytes hone).append_inj (hother'.1 bytes' htwo) (hstarts contents)
                (hstarts other) (List.append_cancel_left h)
              exact ⟨rfl, hrest hsame⟩

/-! ### Fingerprints -/

/-- What is in the configuration file of a name, if there is one. -/
def Disk.config? (disk : Disk) (root : Path) (file : String) : Option (List UInt8) :=
  if disk.isFile (root.under (Path.ofText file)) = .ok true then disk.read? (root.under (Path.ofText file)) else none

/-- What a fingerprint has of all configuration files. -/
def Disk.configBytes (disk : Disk) (root : Path) : List UInt8 := toolConfigFiles.flatMap (fileBytes (disk.config? root))

/-- It has to be known whether a configuration file is there, and one that is there has to be readable. -/
theorem Disk.toolConfig_ok_iff (disk : Disk) (root : Path) (file : String) (bytes : List UInt8) :
    disk.toolConfig root file = .ok bytes ↔
      disk.isFile (root.under (Path.ofText file)) = .ok (disk.config? root file).isSome ∧
        bytes = fileBytes (disk.config? root) file := by
  unfold toolConfig fileBytes config?
  dsimp only
  cases hfile : disk.isFile (root.under (Path.ofText file)) with
  | error fault => simp [bind, Except.bind]
  | ok there =>
      cases there with
      | false => simp [bind, Except.bind, pure, Except.pure, eq_comm]
      | true =>
          cases disk.read? (root.under (Path.ofText file)) with
          | none => simp [bind, Except.bind, throw, throwThe, MonadExceptOf.throw]
          | some contents => simp [bind, Except.bind, pure, Except.pure, eq_comm]

/-- Where every name can be looked up and everything can be opened, every configuration file that is there is read. -/
theorem Disk.isSome_config? {disk : Disk} (h : disk.unreadable = []) (hfree : disk.Unlimited) (root : Path)
    (file : String) : disk.isFile (root.under (Path.ofText file)) = .ok (disk.config? root file).isSome := by
  have hopen : ∀ names, disk.isClosed names = false := by
    intro names
    rw [isClosed, h]
    rfl
  unfold config? isFile Disk.read?
  rw [hfree.leadsTo]
  cases (root.under (Path.ofText file)).hasNul with
  | true => rfl
  | false =>
      cases hplace : disk.locate? (root.under (Path.ofText file)) with
      | none => rfl
      | some names => cases hfile : disk.file? names <;> simp [hopen, hfile]

namespace Config

/-- The bytes that a fingerprint is a digest of. -/
def digestBytes (settings : EngineConfig) (disk : Disk) (root : Path) (name : String) : List UInt8 :=
  Digest.textBytes name ++ (Digest.textBytes (Json.compactOpen (EngineConfig.schema.write settings)) ++
    disk.configBytes root)

/-- When there is something to digest, and what. -/
theorem traits_ok_iff {config : Config τ} {disk : Disk} {root : Path} {name : String} {bytes : List UInt8} :
    config.traits disk root name = .ok bytes ↔ ∃ settings, config.engine name = .ok settings ∧
      (∀ file ∈ toolConfigFiles, disk.isFile (root.under (Path.ofText file)) = .ok (disk.config? root file).isSome) ∧
      bytes = digestBytes settings disk root name := by
  unfold traits
  simp only [bind_ok_iff, mapM_eq_map_iff fun file _ bytes => disk.toolConfig_ok_iff root file bytes]
  refine exists_congr fun settings => and_congr_right fun _ => ⟨?_, ?_⟩
  · rintro ⟨_, ⟨hthere, rfl⟩, hbytes⟩
    cases hbytes
    exact ⟨hthere, by rw [digestBytes, Disk.configBytes, List.flatMap_def, List.append_assoc]⟩
  · rintro ⟨hthere, rfl⟩
    exact ⟨_, ⟨hthere, rfl⟩, by rw [digestBytes, Disk.configBytes, List.flatMap_def, List.append_assoc]; rfl⟩

/-- Whether two lists of bytes that are digested for fingerprints have different digests, unless they are the same. -/
def Digested (config other : Config τ) (disk disk' : Disk) (root root' : Path) (name : String) : Prop :=
  ∀ bytes bytes', config.traits disk root name = .ok bytes → other.traits disk' root' name = .ok bytes' →
    Digest.Sha256.hexDigest bytes = Digest.Sha256.hexDigest bytes' → bytes = bytes'

/-- The fingerprint of an engine and the settings that it was made for. -/
structure Fingerprinted (config : Config τ) (disk : Disk) (root : Path) (name : String) (settings : EngineConfig)
    (fingerprint : String) : Prop where
  engine : config.engine name = .ok settings
  tidy : settings.Tidy
  made : config.fingerprint disk root name = .ok fingerprint

section

variable {config other : Config τ} {disk disk' : Disk} {root root' : Path} {name : String}
variable {settings settings' : EngineConfig} {fingerprint fingerprint' : String}

theorem Fingerprinted.digest (h : config.Fingerprinted disk root name settings fingerprint) :
    config.traits disk root name = .ok (digestBytes settings disk root name) ∧
      fingerprint = Digest.Sha256.hexDigest (digestBytes settings disk root name) ∧
      ∀ file ∈ toolConfigFiles, disk.isFile (root.under (Path.ofText file)) = .ok (disk.config? root file).isSome := by
  obtain ⟨bytes, hbytes, hdigest⟩ := bind_ok_iff.mp h.made
  obtain ⟨used, hused, hthere, rfl⟩ := traits_ok_iff.mp hbytes
  cases h.engine.symm.trans hused
  cases hdigest
  exact ⟨hbytes, rfl, hthere⟩

/-- Settings that are written end by themselves, whatever bytes follow. -/
theorem settings_append_inj {rest tail : List UInt8}
    (h : Digest.textBytes (Json.compactOpen (EngineConfig.schema.write settings)) ++ rest =
      Digest.textBytes (Json.compactOpen (EngineConfig.schema.write settings')) ++ tail) :
    EngineConfig.schema.write settings = EngineConfig.schema.write settings' ∧ rest = tail := by
  have hwritten : EngineConfig.schema.write settings = EngineConfig.schema.write settings' := by
    unfold Json.compactOpen at h
    rcases Digest.textBytes_prefix h with ⟨extra, hextra⟩ | ⟨extra, hextra⟩
    · rw [String.toList_ofList, String.toList_ofList, ← List.append_nil (Json.write _ _ (EngineConfig.schema.write settings'))]
        at hextra
      exact (Json.write_append_inj settings.numberless_write settings'.numberless_write hextra).1
    · rw [String.toList_ofList, String.toList_ofList, ← List.append_nil (Json.write _ _ (EngineConfig.schema.write settings))]
        at hextra
      exact (Json.write_append_inj settings'.numberless_write settings.numberless_write hextra).1.symm
  rw [hwritten] at h
  exact ⟨hwritten, List.append_cancel_left h⟩

/-- Fingerprints are equal for equal settings and the same bytes of configuration files, as digested. -/
theorem Fingerprinted.eq_iff (h : config.Fingerprinted disk root name settings fingerprint)
    (h' : other.Fingerprinted disk' root' name settings' fingerprint')
    (hdigested : Digested config other disk disk' root root' name) :
    fingerprint = fingerprint' ↔ settings = settings' ∧ disk.configBytes root = disk'.configBytes root' := by
  obtain ⟨hbytes, rfl, -⟩ := h.digest
  obtain ⟨hbytes', rfl, -⟩ := h'.digest
  constructor
  · intro hsame
    obtain ⟨hwrite, hfiles⟩ := settings_append_inj (List.append_cancel_left (hdigested _ _ hbytes hbytes' hsame))
    exact ⟨EngineConfig.write_inj h.tidy h'.tidy hwrite, hfiles⟩
  · rintro ⟨rfl, hfiles⟩
    rw [digestBytes, digestBytes, hfiles]

end

end Config

/-! ### What fingerprints separate -/

namespace Config

/-- Fingerprints of one engine are the same just if its settings are and the configuration files have the same
bytes, one after the other.  Where nothing in them can be taken for the start of another file, the same files are
there then, with the same contents.  A session is used only under the fingerprint that it was made for. -/
theorem fingerprint_separates {config other : Config τ} {disk disk' : Disk} {root root' : Path} {name : String}
    {settings settings' : EngineConfig} {fingerprint fingerprint' : String}
    (h : config.Fingerprinted disk root name settings fingerprint)
    (h' : other.Fingerprinted disk' root' name settings' fingerprint')
    (hdigested : Digested config other disk disk' root root' name) :
    (fingerprint = fingerprint' ↔ settings = settings' ∧ disk.configBytes root = disk'.configBytes root') ∧
    ((∀ file ∈ toolConfigFiles, ∀ contents ∈ disk.config? root file, Unmarked contents) →
      (∀ file ∈ toolConfigFiles, ∀ contents ∈ disk'.config? root' file, Unmarked contents) →
      (fingerprint = fingerprint' ↔ settings = settings' ∧ ∀ file ∈ toolConfigFiles,
        disk.isFile (root.under (Path.ofText file)) = disk'.isFile (root'.under (Path.ofText file)) ∧
        disk.config? root file = disk'.config? root' file)) ∧
    ∀ (bench : Workbench) shared directory files session,
      ((bench.prepare fingerprint').focusOn shared directory files).current? = some session →
      session.fingerprint = fingerprint' := by
  refine ⟨h.eq_iff h' hdigested, fun hunmarked hunmarked' => ?_, fun bench shared directory files session hsession => ?_⟩
  · rw [h.eq_iff h' hdigested]
    refine and_congr_right fun _ => ⟨fun hsame file hfile => ?_, fun hsame => ?_⟩
    · have hcontents := fileBytes_inj (by decide) pairwise_apart (by decide) hunmarked hunmarked' hsame file hfile
      obtain ⟨-, -, hthere⟩ := h.digest
      obtain ⟨-, -, hthere'⟩ := h'.digest
      exact ⟨by rw [hthere file hfile, hthere' file hfile, hcontents], hcontents⟩
    · refine List.flatMap_congr fun file hfile => ?_
      rw [fileBytes, fileBytes, (hsame file hfile).2]
  · rw [Workbench.fingerprint_focusOn hsession, Workbench.fingerprint_prepare]

end Config

namespace Alike

/-- The root of a project. -/
def root : Path := Path.ofText "/proj"

/-- The configuration about which nothing is said, on a machine with one processor. -/
def config : Config Float := Config.standard ⟨some 1, none⟩

/-- A project with one configuration file. -/
def plain : Disk := (Disk.empty ["proj"] []).write "/proj/ruff.toml" (some [0x78])

/-- The project with a source file. -/
def grown : Disk := plain.write "/proj/a.py" (some [])

/-- A project with one configuration file, in which the name of another one stands. -/
def quoting : Disk := (Disk.empty ["proj"] []).write "/proj/pyproject.toml" (some (Digest.textBytes "ruff.toml"))

/-- A project with two configuration files, which are empty. -/
def apart : Disk :=
  ((Disk.empty ["proj"] []).write "/proj/pyproject.toml" (some [])).write "/proj/ruff.toml" (some [])

/-- The fingerprint of a linter, where every name can be looked up and everything can be opened. -/
theorem fingerprinted (disk : Disk) (h : disk.unreadable = []) (hfree : disk.Unlimited) (root : Path) :
    config.Fingerprinted disk root "ruff" .standard
      (Digest.Sha256.hexDigest (Config.digestBytes .standard disk root "ruff")) := by
  have htraits : config.traits disk root "ruff" = .ok (Config.digestBytes .standard disk root "ruff") :=
    Config.traits_ok_iff.mpr ⟨.standard, rfl, fun file _ => Disk.isSome_config? h hfree root file, rfl⟩
  have htidy : EngineConfig.standard.Tidy := fun _ hnone => by cases hnone
  refine ⟨rfl, htidy, ?_⟩
  rw [Config.fingerprint, htraits]
  rfl

-- What a disk holds is evaluated by equations: unfolding texts is slow.
attribute [local irreducible] Path.hasNul Disk.isDirectory Disk.present

/-- What is in the configuration files of the project is not marked. -/
theorem unmarked {disk : Disk} (h : toolConfigFiles.map (disk.config? root) = [none, some [0x78], none, none, none, none]) :
    ∀ file ∈ toolConfigFiles, ∀ contents ∈ disk.config? root file, Unmarked contents := by
  intro file hfile contents hcontents
  have hmem : some contents ∈ [none, some [0x78], none, none, none, none] := by
    rw [← h, ← Option.mem_def.mp hcontents]
    exact List.mem_map_of_mem hfile
  obtain rfl : contents = [0x78] := by simpa using hmem
  refine ⟨?_, by decide⟩
  simp only [Digest.textBytes_eq]
  decide

/-- A new source file changes neither the fingerprint nor the configuration files. -/
theorem fingerprint_separates_grown :
    ∃ fingerprint fingerprint', config.Fingerprinted plain root "ruff" .standard fingerprint ∧
      config.Fingerprinted grown root "ruff" .standard fingerprint' ∧
      fingerprint = fingerprint' ∧ ∀ file ∈ toolConfigFiles, plain.config? root file = grown.config? root file := by
  have hsame : plain.configBytes root = grown.configBytes root := by cbv
  have hfree : plain.Unlimited := Disk.unlimited_write (Disk.unlimited_empty _ _) _ _
  have hplain := fingerprinted plain rfl hfree root
  have hgrown := fingerprinted grown rfl (Disk.unlimited_write hfree _ _) root
  have hdigested : Config.Digested config config plain grown root root "ruff" := by
    intro used used' hused hused' _
    cases hplain.digest.1.symm.trans hused
    cases hgrown.digest.1.symm.trans hused'
    rw [Config.digestBytes, Config.digestBytes, hsame]
  obtain ⟨hiff, hfiles, -⟩ := Config.fingerprint_separates hplain hgrown hdigested
  have hprints := hiff.mpr ⟨rfl, hsame⟩
  obtain ⟨-, hall⟩ := (hfiles (unmarked (by cbv)) (unmarked (by cbv))).mp hprints
  exact ⟨_, _, hplain, hgrown, hprints, fun file hfile => (hall file hfile).2⟩

/-- The fingerprints of two projects are the same, though one has a configuration file that the other one lacks. -/
theorem fingerprint_collides :
    ∃ fingerprint, config.fingerprint quoting root "ruff" = .ok fingerprint ∧
      config.fingerprint apart root "ruff" = .ok fingerprint ∧
      quoting.isFile (root.under (Path.ofText "ruff.toml")) = .ok false ∧
      apart.isFile (root.under (Path.ofText "ruff.toml")) = .ok true := by
  have hsame : quoting.configBytes root = apart.configBytes root := by cbv
  have hquoting := fingerprinted quoting rfl (Disk.unlimited_write (Disk.unlimited_empty _ _) _ _) root
  have hapart := fingerprinted apart rfl
    (Disk.unlimited_write (Disk.unlimited_write (Disk.unlimited_empty _ _) _ _) _ _) root
  rw [Config.digestBytes, hsame, ← Config.digestBytes] at hquoting
  exact ⟨_, hquoting.made, hapart.made, by cbv, by cbv⟩

end Alike

end FixFirst
