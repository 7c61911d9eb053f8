import Mathlib
import FixFirst.Findings.Records
import FixFirst.Proofs.Fault
import FixFirst.Proofs.Names
import FixFirst.Proofs.Text.Number

/-!
# Issues of objects

A linter and a type checker print their findings as objects.  An object that names a file is an issue, with
defaults for what is missing in it, of another type, or no number.  It is none, and the reader fails on the
whole output, in these cases: a text of digits is no whole number, the file is named by way of the home directory
of a user who does not exist, or a linter places a finding before the first line or column.

## Main definitions

* `Lister` — the two tools that print objects.
* `Countable`, `wholeField` — whether a field is not a number in disguise, and the whole number it gives.
* `Lister.finding` — what an object says, with defaults for what it does not say.
* `Lister.Fine` — whether an issue can be made of it.
* `Decodable`, `documents` — whether the documents of an output can be read, and what they are.
* `Whole` — an output without halves of pairs that stand alone.

## Main statements

* `Lister.issue_ok_iff` — what comes of an object.
* `Lister.issues_ok_iff` — what comes of an output.
-/

namespace FixFirst

open Text

/-! ### Findings -/

namespace Finding

/-- The issue of a finding in a file. -/
def told (finding : Finding) (file : String) : Issue :=
  ⟨finding.kind, finding.severity, file, finding.line.toNat, finding.column.toNat, finding.endLine, finding.endColumn,
    finding.rule, finding.message, finding.suggestion, some finding.tool⟩

/-- The file that a finding names, if the path can be made absolute. -/
def place (disk : Disk) (finding : Finding) : String := (disk.normalizePath finding.file).toOption.getD ""

/-- An issue is made of a finding whose path can be made absolute and whose place is not negative. -/
theorem issue_ok_iff {disk : Disk} {finding : Finding} {issue : Issue} :
    finding.issue disk = .ok issue ↔ (∃ file, disk.normalizePath finding.file = .ok file) ∧ 0 ≤ finding.line ∧
      0 ≤ finding.column ∧ issue = finding.told (finding.place disk) := by
  unfold Finding.issue place
  cases hfile : disk.normalizePath finding.file with
  | error fault => cases fault <;> simp
  | ok file =>
      by_cases hline : finding.line < 0
      · simp [hline, not_le.mpr hline]
      · by_cases hcolumn : finding.column < 0
        · simp [hcolumn, not_le.mpr hcolumn]
        · simp only [hline, hcolumn, if_false, List.append_nil, List.isEmpty_nil, if_true, Except.ok.injEq]
          constructor
          · rintro rfl
            exact ⟨⟨file, rfl⟩, not_lt.mp hline, not_lt.mp hcolumn, rfl⟩
          · rintro ⟨-, -, -, rfl⟩
            rfl

end Finding

namespace Findings

/-! ### Fields -/

theorem wholeNumber_ok_iff {text : List Char} {number : Int} :
    wholeNumber text = .ok number ↔ wholeNumber? text = some number := by
  unfold wholeNumber
  cases wholeNumber? text with
  | some found => simp
  | none =>
      simp only [reduceCtorEq, iff_false]
      split <;> simp

/-- Whether a text of digits after minus signs is a whole number: it has one sign at most, and decimal digits that
are not too many. -/
def Countable (value : Option Json) : Prop :=
  ∀ text, value = some (.str text) →
    let digits := (trim text.toList).dropWhile (· == '-')
    allDigits digits = true → (trim text.toList).length ≤ digits.length + 1 ∧ digits.all isDecimal = true ∧
      digits.length ≤ maxDigits

/-- The whole number that a field gives: a number, or a text of digits. -/
def wholeField : Option Json → Option Int
  | some (.int number) => some number
  | some (.str text) =>
    if allDigits ((trim text.toList).dropWhile (· == '-')) then wholeNumber? (trim text.toList) else none
  | _ => none

/-- A text of digits is countable exactly if it is a whole number. -/
theorem countable_str {text : String} : Countable (some (.str text)) ↔
    (allDigits ((trim text.toList).dropWhile (· == '-')) = true → (wholeNumber? (trim text.toList)).isSome = true) := by
  unfold Countable
  constructor
  · exact fun h hdigits => (isSome_wholeNumber_iff (trim_trim _) hdigits).mpr (h text rfl hdigits)
  · intro h other hsame
    obtain rfl : text = other := by simpa using hsame
    exact fun hdigits => (isSome_wholeNumber_iff (trim_trim _) hdigits).mp (h hdigits)

theorem optionalInt_ok_iff {value : Option Json} {found : Option Int} :
    optionalInt value = .ok found ↔ Countable value ∧ found = wholeField value := by
  have hother : ∀ result : Option Int, (∀ text, value ≠ some (.str text)) →
      ((.ok result : Except Fault (Option Int)) = .ok found ↔ Countable value ∧ found = result) := by
    intro result hvalue
    have hcountable : Countable value := fun text htext => absurd htext (hvalue text)
    rw [Except.ok.injEq, and_iff_right hcountable, eq_comm]
  cases value with
  | none => exact hother none (by simp)
  | some value =>
      cases value with
      | str text =>
          rw [countable_str, optionalInt, wholeField]
          cases allDigits ((trim text.toList).dropWhile (· == '-')) with
          | false => simpa using eq_comm
          | true =>
              cases hnumber : wholeNumber? (trim text.toList) with
              | some number => simpa [wholeNumber_ok_iff.mpr hnumber, Except.map] using eq_comm
              | none =>
                  cases hresult : wholeNumber (trim text.toList) with
                  | error fault => simp [Except.map]
                  | ok number => simp [wholeNumber_ok_iff.mp hresult] at hnumber
      | int number => exact hother (some number) (by simp)
      | null => exact hother none (by simp)
      | bool truth => exact hother none (by simp)
      | num number => exact hother none (by simp)
      | arr items => exact hother none (by simp)
      | obj members => exact hother none (by simp)

/-! ### Objects -/

/-- A tool that prints its findings as objects. -/
inductive Lister where
  | linter
  | typeChecker
  deriving DecidableEq, Repr

namespace Lister

/-- The issues in what it printed in `cwd`, where there is room for documents of some depth. -/
def issues : Lister → Nat → Disk → Path → String → String → Except Fault (List Issue)
  | linter => ofLintOutput
  | typeChecker => ofTypeOutput

/-- The issue of an object. -/
def issue? : Lister → Disk → Path → String → Keyed Json → Except Fault (Option Issue)
  | linter => lintIssue?
  | typeChecker => typeIssue?

/-- The member of an object that names a file. -/
def fileKey : Lister → String
  | linter => "filename"
  | typeChecker => "file"

/-- The text by which an object names a file. -/
def file? (lister : Lister) (members : Keyed Json) : Option String := optionalString (members.get? lister.fileKey)

/-- The line and the column of an object, as it gives them. -/
def start : Lister → Keyed Json → Option Json × Option Json
  | linter, members => ((memberOf members "location").get? "row", (memberOf members "location").get? "column")
  | typeChecker, members => (members.get? "line", members.get? "column")

/-- The line and the column of its end, which a type checker does not give. -/
def finish : Lister → Keyed Json → Option Json × Option Json
  | linter, members => ((memberOf members "end_location").get? "row", (memberOf members "end_location").get? "column")
  | typeChecker, _ => (none, none)

/-- What an object says about a file, with defaults for what it does not say. -/
def finding : Lister → Path → String → Keyed Json → String → Finding
  | linter, cwd, tool, members, file =>
    { kind := .lint
      severity := match optionalText (members.get? "code") with
        | some text => Severity.ofCode text .warning
        | none => .error
      file := cwd.under (Path.ofText file)
      line := orOne (wholeField (linter.start members).1)
      column := orOne (wholeField (linter.start members).2)
      endLine := wholeField (linter.finish members).1
      endColumn := wholeField (linter.finish members).2
      rule := optionalString (members.get? "code")
      message := (optionalString (members.get? "message")).getD ""
      suggestion := optionalString ((memberOf members "fix").get? "message")
      tool }
  | typeChecker, cwd, tool, members, file =>
    { kind := .typeCheck
      severity := Severity.ofLabel ((optionalText (members.get? "severity")).getD []) .error
      file := cwd.under (Path.ofText file)
      line := match wholeField (typeChecker.start members).1 with
        | some number => if 0 < number then number else 1
        | none => 1
      column := match wholeField (typeChecker.start members).2 with
        | some number => if 0 ≤ number then number + 1 else 1
        | none => 1
      endLine := none
      endColumn := none
      rule := optionalString (members.get? "code")
      message := (optionalString (members.get? "message")).getD ""
      suggestion := optionalString (members.get? "hint")
      tool }

/-- The issue of an object that names a file. -/
def told (lister : Lister) (disk : Disk) (cwd : Path) (tool : String) (members : Keyed Json) : Option Issue :=
  (lister.file? members).map fun file =>
    let finding := lister.finding cwd tool members file
    finding.told (finding.place disk)

/-- Whether an issue can be made of an object that names a file: its numbers are numbers, its file is not named by
way of the home directory of a user who does not exist, and a linter places it behind the start of the file. -/
structure Fine (lister : Lister) (disk : Disk) (cwd : Path) (members : Keyed Json) (file : String) : Prop where
  start : Countable (lister.start members).1 ∧ Countable (lister.start members).2
  finish : Countable (lister.finish members).1 ∧ Countable (lister.finish members).2
  known : (cwd.under (Path.ofText file)).Known disk.users
  inside : lister = linter → ∀ number, wholeField (lister.start members).1 = some number ∨
    wholeField (lister.start members).2 = some number → 0 ≤ number

variable {lister : Lister} {disk : Disk} {cwd : Path} {tool : String}

theorem orOne_nonneg {value : Option Int} : 0 ≤ orOne value ↔ ∀ number, value = some number → 0 ≤ number := by
  cases value with
  | none => simp [orOne]
  | some number =>
      simp only [orOne, Option.some.injEq, forall_eq']
      split
      · rename_i hzero
        simp [hzero]
      · rfl

/-- What an object says lies behind the start of the file, unless a linter says otherwise. -/
theorem inside_iff {members : Keyed Json} {file : String} :
    0 ≤ (lister.finding cwd tool members file).line ∧ 0 ≤ (lister.finding cwd tool members file).column ↔
      (lister = linter → ∀ number, wholeField (lister.start members).1 = some number ∨
        wholeField (lister.start members).2 = some number → 0 ≤ number) := by
  cases lister with
  | linter => simp [finding, orOne_nonneg, or_imp, forall_and]
  | typeChecker =>
      simp only [finding, reduceCtorEq, false_imp_iff, iff_true]
      refine ⟨?_, ?_⟩
      · cases wholeField (typeChecker.start members).1 with
        | none => decide
        | some number =>
            simp only
            split <;> omega
      · cases wholeField (typeChecker.start members).2 with
        | none => decide
        | some number =>
            simp only
            split <;> omega

/-- What comes of an object that names a file. -/
theorem issue_of_file {members : Keyed Json} {file : String} (hfile : lister.file? members = some file)
    {found : Option Issue} :
    lister.issue? disk cwd tool members = .ok found ↔
      (Countable (lister.start members).1 ∧ Countable (lister.start members).2) ∧
      (Countable (lister.finish members).1 ∧ Countable (lister.finish members).2) ∧
      ∃ issue, (lister.finding cwd tool members file).issue disk = .ok issue ∧ found = some issue := by
  cases lister with
  | linter =>
      simp only [file?, fileKey] at hfile
      simp only [issue?, lintIssue?, hfile, bind_ok_iff, optionalInt_ok_iff]
      constructor
      · rintro ⟨_, ⟨hline, rfl⟩, _, ⟨hcolumn, rfl⟩, _, ⟨hendLine, rfl⟩, _, ⟨hendColumn, rfl⟩, issue, hissue, hfound⟩
        exact ⟨⟨hline, hcolumn⟩, ⟨hendLine, hendColumn⟩, issue, hissue, (Except.ok.inj hfound).symm⟩
      · rintro ⟨⟨hline, hcolumn⟩, ⟨hendLine, hendColumn⟩, issue, hissue, rfl⟩
        exact ⟨_, ⟨hline, rfl⟩, _, ⟨hcolumn, rfl⟩, _, ⟨hendLine, rfl⟩, _, ⟨hendColumn, rfl⟩, issue, hissue, rfl⟩
  | typeChecker =>
      have hnothing : Countable none := fun text htext => by cases htext
      simp only [file?, fileKey] at hfile
      simp only [issue?, typeIssue?, hfile, bind_ok_iff, optionalInt_ok_iff]
      constructor
      · rintro ⟨_, ⟨hline, rfl⟩, _, ⟨hcolumn, rfl⟩, issue, hissue, hfound⟩
        exact ⟨⟨hline, hcolumn⟩, ⟨hnothing, hnothing⟩, issue, hissue, (Except.ok.inj hfound).symm⟩
      · rintro ⟨⟨hline, hcolumn⟩, -, issue, hissue, rfl⟩
        exact ⟨_, ⟨hline, rfl⟩, _, ⟨hcolumn, rfl⟩, issue, hissue, rfl⟩

theorem issue_of_no_file {members : Keyed Json} (hfile : lister.file? members = none) :
    lister.issue? disk cwd tool members = .ok none := by
  cases lister with
  | linter =>
      simp only [file?, fileKey] at hfile
      simp only [issue?, lintIssue?, hfile]
  | typeChecker =>
      simp only [file?, fileKey] at hfile
      simp only [issue?, typeIssue?, hfile]

/-- There is an issue of an object if it names a file. -/
theorem isSome_of_issue {members : Keyed Json} {found : Option Issue}
    (h : lister.issue? disk cwd tool members = .ok found) : found.isSome = (lister.file? members).isSome := by
  cases hfile : lister.file? members with
  | none =>
      rw [issue_of_no_file hfile] at h
      cases h
      rfl
  | some file =>
      obtain ⟨-, -, issue, -, rfl⟩ := (issue_of_file hfile).mp h
      rfl

/-- What comes of an object. -/
theorem issue_ok_iff (hdisk : disk.Legible) (hcwd : cwd.Legible) {members : Keyed Json}
    (hlegible : ∀ file, lister.file? members = some file → Legible file) {found : Option Issue} :
    lister.issue? disk cwd tool members = .ok found ↔
      (∀ file, lister.file? members = some file → lister.Fine disk cwd members file) ∧
        found = lister.told disk cwd tool members := by
  unfold told
  cases hfile : lister.file? members with
  | none =>
      rw [issue_of_no_file hfile]
      simpa using eq_comm
  | some file =>
      have hpath : (cwd.under (Path.ofText file)).Legible := hcwd.under (Path.legible_ofText (hlegible file hfile))
      have hplace : (lister.finding cwd tool members file).file = cwd.under (Path.ofText file) := by cases lister <;> rfl
      rw [issue_of_file hfile]
      simp only [Finding.issue_ok_iff, hplace, Disk.normalizePath_ok_iff hdisk hpath, Option.some.injEq, forall_eq']
      constructor
      · rintro ⟨hstart, hfinish, issue, ⟨hknown, hline, hcolumn, rfl⟩, rfl⟩
        exact ⟨⟨hstart, hfinish, hknown, inside_iff.mp ⟨hline, hcolumn⟩⟩, rfl⟩
      · rintro ⟨hfine, rfl⟩
        obtain ⟨hline, hcolumn⟩ := inside_iff.mpr hfine.inside
        exact ⟨hfine.start, hfine.finish, _, ⟨hfine.known, hline, hcolumn, rfl⟩, rfl⟩

end Lister

/-! ### Documents -/

/-- Whether no text of an output has half of a pair that stands alone, as far as the output or a line of it is read. -/
def Whole (room : Nat) (output : List Char) : Prop :=
  Json.read room (trim output) ≠ .error .halved ∧
    (Json.read room (trim output) = .error .malformed → ∀ body ∈ bodies output, Json.read room body ≠ .error .halved)

namespace Lister

variable {room : Nat} {lister : Lister} {disk : Disk} {cwd : Path} {tool : String}

theorem issues_eq (output : String) :
    lister.issues room disk cwd tool output = ofOutput room (lister.issue? disk cwd tool) output := by
  cases lister <;> rfl

theorem issues_of_fault {output : String} {fault : Fault} (hrecords : records room output.toList = .error fault) :
    lister.issues room disk cwd tool output = .error fault := by
  rw [issues_eq, ofOutput, hrecords]
  rfl

/-- The issues of an output are those of its objects. -/
theorem issues_of_records {output : String} {value : Json} {issues : List Issue}
    (hrecords : records room output.toList = .ok value) :
    lister.issues room disk cwd tool output = .ok issues ↔
      ∃ founds, List.Forall₂ (fun members found => lister.issue? disk cwd tool members = .ok found) value.objects founds ∧
        founds.reduceOption = issues := by
  simp only [issues_eq, ofOutput, hrecords, bind_ok_iff, Except.ok.injEq, exists_eq_left', ← mapM_ok_iff]
  exact exists_congr fun founds => and_congr_right fun _ => by simp [pure, Except.pure, List.reduceOption]

end Lister

end Findings

end FixFirst
