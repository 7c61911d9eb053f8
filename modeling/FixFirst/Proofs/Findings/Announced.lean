import Mathlib
import FixFirst.Findings.Notices
import FixFirst.Proofs.Findings.Objects

/-!
# Files announced by a formatter

The lines of a formatter announce files, some of them with a place.  What the lines announce can be told without
regard to disks and issues: the only thing that a line leaves behind for the next one is whether a header waits for
its locator.  Each announcement is then a warning, and of the warnings on one file the first is kept.  It is none,
and the reader fails on the whole output, if a number of its place is too long or the file is named by way of the
home directory of a user who does not exist; the same holds of the failures.

## Main definitions

* `announcements` — the files that lines announce.
* `firstOfFile` — the issues of a list, only the first of each file.
* `Announcement.finding`, `Failure.finding` — what is said about a file.
* `Readable` — whether an issue can be made of a path and a place.

## Main statements

* `ofFormatOutput_eq` — the issues of the two outputs, from what they announce.
* `ofFormatOutput_ok_iff` — when there are issues, and which.
-/

namespace FixFirst.Findings

open Text

/-! ### What lines announce -/

/-- A file that is not formatted, and its place if there is one. -/
structure Announcement where
  path : List Char
  position : Option Position

/-- What a line announces, and whether a header waits behind it, where one may wait before it. -/
def announced (waiting : Bool) (line : List Char) : Option Announcement × Bool :=
  match notice line with
  | .reformat path => (some ⟨path, none⟩, waiting)
  | .located path position => (some ⟨path, some position⟩, waiting)
  | .header => (none, true)
  | .locator path position => (if waiting then some ⟨path, some position⟩ else none, false)
  | .noise => (none, waiting)

/-- The files that lines announce, where a header may wait for its locator. -/
def announcements : Bool → List (List Char) → List Announcement
  | _, [] => []
  | waiting, line :: rest =>
    (announced waiting line).1.toList ++ announcements (announced waiting line).2 rest

/-- The warning that an announcement is. -/
def Announcement.warning (disk : Disk) (cwd : Path) (tool : String) (announcement : Announcement) : Except Fault Issue :=
  match announcement.position with
  | none => formatWarning disk cwd tool announcement.path 1 1
  | some position => do
    let row ← wholeNumber position.line
    let column ← wholeNumber position.column
    formatWarning disk cwd tool announcement.path row column

/-- Adds an issue, unless its file has one. -/
def withFirst (issues : List Issue) (issue : Issue) : List Issue :=
  if issues.any fun known => known.file == issue.file then issues else issues ++ [issue]

/-- The issues of a list, only the first of each file. -/
def firstOfFile (issues : List Issue) : List Issue := issues.foldl withFirst []

theorem issues_add (warnings : Warnings) (issue : Issue) :
    warnings.add issue = { warnings with issues := withFirst warnings.issues issue } := by
  unfold Warnings.add withFirst
  split <;> rfl

variable {disk : Disk} {cwd : Path} {tool : String}

/-- What one line does. -/
theorem take_eq (issues : List Issue) (waiting : Bool) (line : List Char) :
    Warnings.take disk cwd tool ⟨issues, waiting⟩ line =
      match (announced waiting line).1 with
      | none => .ok ⟨issues, (announced waiting line).2⟩
      | some announcement =>
        (announcement.warning disk cwd tool).map fun issue => ⟨withFirst issues issue, (announced waiting line).2⟩ := by
  have hplaced : ∀ (position : Position) (make : Int → Int → Except Fault Issue) (finish : Issue → Warnings),
      (do
        let row ← wholeNumber position.line
        let column ← wholeNumber position.column
        return finish (← make row column)) =
      (do
        let row ← wholeNumber position.line
        let column ← wholeNumber position.column
        make row column : Except Fault Issue).map finish := by
    intro position make finish
    cases wholeNumber position.line with
    | error fault => rfl
    | ok row =>
        cases wholeNumber position.column with
        | error fault => rfl
        | ok column => cases hmade : make row column <;> simp [bind, Except.bind, pure, Except.pure, Except.map, hmade]
  unfold Warnings.take announced
  cases notice line with
  | reformat path =>
      simp only [issues_add, Announcement.warning]
      cases formatWarning disk cwd tool path 1 1 <;> rfl
  | located path position =>
      simp only [issues_add, Announcement.warning]
      exact hplaced position _ _
  | header => rfl
  | locator path position =>
      cases waiting with
      | false => rfl
      | true =>
          simp only [issues_add, Announcement.warning, if_true]
          exact hplaced position _ _
  | noise => rfl

/-- The warnings on lines are those on what the lines announce. -/
theorem foldlM_take (lines : List (List Char)) (issues : List Issue) (waiting : Bool) :
    (lines.foldlM (Warnings.take disk cwd tool) ⟨issues, waiting⟩).map Warnings.issues =
      ((announcements waiting lines).mapM (Announcement.warning disk cwd tool)).map fun found =>
        found.foldl withFirst issues := by
  induction lines generalizing issues waiting with
  | nil => rfl
  | cons line lines ih =>
      rw [List.foldlM_cons, take_eq, announcements]
      cases hannounced : (announced waiting line).1 with
      | none => exact ih issues _
      | some announcement =>
          simp only [Option.toList_some, List.singleton_append, List.mapM_cons]
          cases announcement.warning disk cwd tool with
          | error fault => rfl
          | ok issue =>
              refine (ih (withFirst issues issue) _).trans ?_
              cases (announcements (announced waiting line).2 lines).mapM (Announcement.warning disk cwd tool) <;> rfl

/-! ### Places -/

namespace Position

/-- Whether both numbers are made of decimal digits. -/
structure Decimal (position : Position) : Prop where
  line : position.line ≠ [] ∧ position.line.all isDecimal = true
  column : position.column ≠ [] ∧ position.column.all isDecimal = true

/-- Whether neither number has too many digits. -/
def Short (position : Position) : Prop := position.line.length ≤ maxDigits ∧ position.column.length ≤ maxDigits

/-- The line as a number. -/
def row (position : Position) : Int := natOfDigits (position.line.filterMap digitValue?)

/-- The column as a number. -/
def place (position : Position) : Int := natOfDigits (position.column.filterMap digitValue?)

end Position

theorem wholeNumber_decimal {digits : List Char} (h : digits ≠ [] ∧ digits.all isDecimal = true) {number : Int} :
    wholeNumber digits = .ok number ↔
      digits.length ≤ maxDigits ∧ number = (natOfDigits (digits.filterMap digitValue?) : Int) := by
  rw [wholeNumber_ok_iff, wholeNumber_digits h.1 h.2]
  split
  · rename_i hshort
    simp [hshort, eq_comm]
  · rename_i hlong
    simp [hlong]

/-- What comes of a finding at a place. -/
theorem issue_at_ok_iff {position : Position} (h : position.Decimal) (finding : Int → Int → Finding) {issue : Issue} :
    (do
      let row ← wholeNumber position.line
      let column ← wholeNumber position.column
      (finding row column).issue disk) = .ok issue ↔
      position.Short ∧ (finding position.row position.place).issue disk = .ok issue := by
  simp only [bind_ok_iff, wholeNumber_decimal h.line, wholeNumber_decimal h.column]
  constructor
  · rintro ⟨row, ⟨hline, rfl⟩, column, ⟨hcolumn, rfl⟩, hissue⟩
    exact ⟨⟨hline, hcolumn⟩, hissue⟩
  · rintro ⟨⟨hline, hcolumn⟩, hissue⟩
    exact ⟨_, ⟨hline, rfl⟩, _, ⟨hcolumn, rfl⟩, hissue⟩

theorem digits_some {text digits rest : List Char} (h : digits? text = some (digits, rest)) :
    (digits ≠ [] ∧ digits.all isDecimal = true) ∧ text = digits ++ rest := by
  unfold digits? at h
  by_cases hempty : (text.takeWhile isDecimal).isEmpty = true
  · simp [hempty] at h
  · simp only [hempty, Bool.false_eq_true, if_false, Option.some.injEq, Prod.mk.injEq] at h
    obtain ⟨rfl, rfl⟩ := h
    refine ⟨⟨by simpa using hempty, ?_⟩, List.takeWhile_append_dropWhile.symm⟩
    exact List.all_eq_true.mpr fun c hc => List.mem_takeWhile_imp hc

theorem position_some {text rest : List Char} {position : Position} (h : position? text = some (position, rest)) :
    position.Decimal ∧ text = ':' :: (position.line ++ ':' :: (position.column ++ rest)) := by
  unfold position? at h
  split at h
  · split at h
    · rename_i hline
      split at h
      · rename_i hcolumn
        cases h
        obtain ⟨hrow, hbehind⟩ := digits_some hline
        obtain ⟨hplace, hrest⟩ := digits_some hcolumn
        exact ⟨⟨hrow, hplace⟩, by rw [hbehind, hrest]⟩
      · cases h
    · cases h
  · cases h

/-- What stands behind the shortest path. -/
theorem tail_of_shortestPath {α : Type} {tail : List Char → Option α} {taken text path : List Char} {found : α}
    (h : shortestPath? tail taken text = some (path, found)) : ∃ rest, tail rest = some found ∧ rest <:+ text := by
  induction text generalizing taken with
  | nil => cases h
  | cons c text ih =>
      unfold shortestPath? at h
      split at h
      · rename_i htail
        cases h
        exact ⟨text, htail, List.suffix_cons c text⟩
      · obtain ⟨rest, htail, hsuffix⟩ := ih h
        exact ⟨rest, htail, hsuffix.trans (List.suffix_cons c text)⟩

theorem conciseTail_some {text : List Char} {position : Position} (h : conciseTail? text = some position) :
    ∃ rest, position? text = some (position, ':' :: rest) ∧
      ∃ body ∈ afterBlanks rest, (afterWord? "unformatted:".toList body).isSome = true := by
  unfold conciseTail? at h
  split at h
  · rename_i found rest hposition
    split at h
    · rename_i hword
      cases h
      exact ⟨rest, hposition, List.any_eq_true.mp hword⟩
    · cases h
  · cases h

theorem finalPosition_some {text : List Char} {position : Position} (h : finalPosition? text = some position) :
    ∃ rest, position? text = some (position, rest) := by
  unfold finalPosition? at h
  split at h
  · rename_i hposition
    split at h
    · cases h
      exact ⟨_, hposition⟩
    · cases h
  · cases h

theorem failureTail_some {text message : List Char} {position : Position}
    (h : failureTail? text = some (position, message)) : ∃ rest, position? text = some (position, rest) := by
  unfold failureTail? at h
  split at h
  · rename_i hposition
    cases h
    exact ⟨_, hposition⟩
  · cases h

/-- The places of notices are made of decimal digits. -/
theorem decimal_of_notice {line path : List Char} {position : Position}
    (h : notice line = .located path position ∨ notice line = .locator path position) : position.Decimal := by
  have hconcise : ∀ found, shortestPath? conciseTail? [] (trim line) = some found → found.2.Decimal := by
    intro found hfound
    obtain ⟨rest, htail, -⟩ := tail_of_shortestPath hfound
    obtain ⟨after, hposition, -⟩ := conciseTail_some htail
    exact (position_some hposition).1
  have hlocator : ∀ found, locator? (trim line) = some found → found.2.Decimal := by
    intro found hfound
    obtain ⟨rest, -, hfound⟩ := Option.bind_eq_some_iff.mp hfound
    obtain ⟨body, -, hpath⟩ := List.exists_of_findSome?_eq_some hfound
    obtain ⟨after, htail, -⟩ := tail_of_shortestPath hpath
    obtain ⟨behind, hposition⟩ := finalPosition_some htail
    exact (position_some hposition).1
  unfold notice at h
  simp only at h
  split at h
  · simp at h
  · split at h
    · rename_i found hfound
      obtain ⟨-, rfl⟩ : _ ∧ _ = position := by simpa using h
      exact hconcise _ hfound
    · split at h
      · simp at h
      · split at h
        · rename_i found hfound
          obtain ⟨-, rfl⟩ : _ ∧ _ = position := by simpa using h
          exact hlocator _ hfound
        · simp at h

theorem decimal_of_announced {waiting : Bool} {line : List Char} {announcement : Announcement}
    (h : (announced waiting line).1 = some announcement) : ∀ position ∈ announcement.position, position.Decimal := by
  unfold announced at h
  cases hline : notice line with
  | reformat path =>
      simp only [hline, Option.some.injEq] at h
      subst h
      simp
  | located path position =>
      simp only [hline, Option.some.injEq] at h
      subst h
      simpa using decimal_of_notice (.inl hline)
  | header => simp [hline] at h
  | locator path position =>
      cases waiting with
      | false => simp [hline] at h
      | true =>
          simp only [hline, if_true, Option.some.injEq] at h
          subst h
          simpa using decimal_of_notice (.inr hline)
  | noise => simp [hline] at h

theorem decimal_of_announcements (waiting : Bool) (lines : List (List Char)) :
    ∀ announcement ∈ announcements waiting lines, ∀ position ∈ announcement.position, position.Decimal := by
  induction lines generalizing waiting with
  | nil => exact List.forall_mem_nil _
  | cons line lines ih =>
      rw [announcements, List.forall_mem_append]
      refine ⟨fun announcement h => ?_, ih _⟩
      exact decimal_of_announced (Option.mem_toList.mp h)

theorem decimal_of_failure {line : List Char} {failure : Failure} (h : failure? line = some failure) :
    failure.position.Decimal := by
  obtain ⟨rest, -, h⟩ := Option.bind_eq_some_iff.mp h
  simp only at h
  split at h
  · cases h
  · obtain ⟨verb, -, h⟩ := Option.bind_eq_some_iff.mp h
    obtain ⟨rest, -, h⟩ := Option.bind_eq_some_iff.mp h
    obtain ⟨⟨path, position, message⟩, hfound, h⟩ := Option.bind_eq_some_iff.mp h
    cases h
    obtain ⟨body, -, hpath⟩ := List.exists_of_findSome?_eq_some hfound
    obtain ⟨after, htail, -⟩ := tail_of_shortestPath hpath
    obtain ⟨behind, hposition⟩ := failureTail_some htail
    exact (position_some hposition).1

/-! ### Warnings and errors -/

/-- What a warning says about a file that is not formatted. -/
def notFormatted (cwd : Path) (tool : String) (path : List Char) (line column : Int) : Finding :=
  { kind := .format
    severity := .warning
    file := cwd.under (Path.ofText (String.ofList path))
    line, column
    endLine := none
    endColumn := none
    rule := some formatRule
    message := "File is not formatted"
    suggestion := some "Run the formatter to rewrite the file"
    tool }

/-- What an error says about a file that could not be formatted. -/
def notRead (cwd : Path) (tool : String) (failure : Failure) (line column : Int) : Finding :=
  { kind := .format
    severity := .error
    file := cwd.under (Path.ofText (String.ofList failure.path))
    line, column
    endLine := none
    endColumn := none
    rule := none
    message := if failure.message.isEmpty then "File could not be formatted" else String.ofList failure.message
    suggestion := none
    tool }

/-- What an announcement says; without a place it is about the start of the file. -/
def Announcement.finding (cwd : Path) (tool : String) (announcement : Announcement) : Finding :=
  notFormatted cwd tool announcement.path (announcement.position.elim 1 Position.row)
    (announcement.position.elim 1 Position.place)

/-- What a failure says. -/
def Failure.finding (cwd : Path) (tool : String) (failure : Failure) : Finding :=
  notRead cwd tool failure failure.position.row failure.position.place

/-- Whether an issue can be made of a path and a place: no number is too long, and the path does not start in the
home directory of a user who does not exist. -/
structure Readable (disk : Disk) (cwd : Path) (path : List Char) (position : Option Position) : Prop where
  short : ∀ place ∈ position, place.Short
  known : (cwd.under (Path.ofText (String.ofList path))).Known disk.users

/-- What an announcement tells about its file. -/
def Announcement.told (disk : Disk) (cwd : Path) (tool : String) (announcement : Announcement) : Issue :=
  (announcement.finding cwd tool).told ((announcement.finding cwd tool).place disk)

/-- What a failure tells about its file. -/
def Failure.told (disk : Disk) (cwd : Path) (tool : String) (failure : Failure) : Issue :=
  (failure.finding cwd tool).told ((failure.finding cwd tool).place disk)

theorem Position.nonneg (position : Position) : 0 ≤ position.row ∧ 0 ≤ position.place :=
  ⟨Int.natCast_nonneg _, Int.natCast_nonneg _⟩

/-- What comes of a finding on a path, if its place is not negative. -/
theorem issue_on_ok_iff (hdisk : disk.Legible) (hcwd : cwd.Legible) {path : List Char}
    (hlegible : Legible (String.ofList path)) (finding : Finding) {issue : Issue}
    (hfile : finding.file = cwd.under (Path.ofText (String.ofList path))) (hline : 0 ≤ finding.line)
    (hcolumn : 0 ≤ finding.column) :
    finding.issue disk = .ok issue ↔ (cwd.under (Path.ofText (String.ofList path))).Known disk.users ∧
      issue = finding.told (finding.place disk) := by
  rw [Finding.issue_ok_iff, hfile, Disk.normalizePath_ok_iff hdisk (hcwd.under (Path.legible_ofText hlegible))]
  simp [hline, hcolumn]

/-- What comes of an announcement. -/
theorem warning_ok_iff (hdisk : disk.Legible) (hcwd : cwd.Legible) {announcement : Announcement}
    (hdecimal : ∀ position ∈ announcement.position, position.Decimal)
    (hlegible : Legible (String.ofList announcement.path)) {issue : Issue} :
    announcement.warning disk cwd tool = .ok issue ↔ Readable disk cwd announcement.path announcement.position ∧
      issue = announcement.told disk cwd tool := by
  obtain ⟨path, position⟩ := announcement
  cases position with
  | none =>
      refine (issue_on_ok_iff hdisk hcwd hlegible (notFormatted cwd tool path 1 1) rfl Int.one_nonneg Int.one_nonneg).trans
        (and_congr_left' ?_)
      exact ⟨fun hknown => ⟨by simp, hknown⟩, Readable.known⟩
  | some position =>
      refine (issue_at_ok_iff (hdecimal position rfl) (notFormatted cwd tool path)).trans ?_
      rw [issue_on_ok_iff hdisk hcwd hlegible _ rfl position.nonneg.1 position.nonneg.2, ← and_assoc]
      refine and_congr_left' ⟨fun ⟨hshort, hknown⟩ => ⟨by simpa using hshort, hknown⟩, fun h => ⟨?_, h.known⟩⟩
      exact h.short position rfl

/-- What comes of a failure. -/
theorem error_ok_iff (hdisk : disk.Legible) (hcwd : cwd.Legible) {failure : Failure} (hdecimal : failure.position.Decimal)
    (hlegible : Legible (String.ofList failure.path)) {issue : Issue} :
    formatError disk cwd tool failure = .ok issue ↔ Readable disk cwd failure.path (some failure.position) ∧
      issue = failure.told disk cwd tool := by
  refine (issue_at_ok_iff hdecimal (notRead cwd tool failure)).trans ?_
  rw [issue_on_ok_iff hdisk hcwd hlegible _ rfl failure.position.nonneg.1 failure.position.nonneg.2, ← and_assoc]
  refine and_congr_left' ⟨fun ⟨hshort, hknown⟩ => ⟨by simpa using hshort, hknown⟩, fun h => ⟨?_, h.known⟩⟩
  exact h.short failure.position rfl

/-! ### The two outputs -/

/-- The files that an output announces. -/
def warnedOf (output : String) : List Announcement := announcements false (lines output.toList)

/-- The files that an error output is about. -/
def failuresOf (errors : String) : List Failure := (lines errors.toList).filterMap failure?

/-- The issues of the two outputs, from what they announce. -/
theorem ofFormatOutput_eq (output errors : String) :
    ofFormatOutput disk cwd tool output errors = (do
      let found ← (warnedOf output).mapM (Announcement.warning disk cwd tool)
      let failed ← (failuresOf errors).mapM (formatError disk cwd tool)
      return firstOfFile found ++ failed) := by
  have hfold : ((lines output.toList).foldlM (Warnings.take disk cwd tool) ⟨[], false⟩).map Warnings.issues =
      ((announcements false (lines output.toList)).mapM (Announcement.warning disk cwd tool)).map firstOfFile :=
    foldlM_take (lines output.toList) [] false
  unfold ofFormatOutput warnedOf
  cases hfound : (announcements false (lines output.toList)).mapM (Announcement.warning disk cwd tool) with
  | error fault =>
      rw [hfound] at hfold
      cases hwarnings : (lines output.toList).foldlM (Warnings.take disk cwd tool) ⟨[], false⟩ with
      | error other =>
          rw [hwarnings] at hfold
          cases hfold
          rfl
      | ok warnings => rw [hwarnings] at hfold; cases hfold
  | ok found =>
      rw [hfound] at hfold
      cases hwarnings : (lines output.toList).foldlM (Warnings.take disk cwd tool) ⟨[], false⟩ with
      | error other => rw [hwarnings] at hfold; cases hfold
      | ok warnings =>
          rw [hwarnings] at hfold
          have hsame : warnings.issues = firstOfFile found := Except.ok.inj hfold
          simp only [bind, Except.bind, hsame]
          rfl

/-- When there are issues in the two outputs, and which. -/
theorem ofFormatOutput_ok_iff (hdisk : disk.Legible) (hcwd : cwd.Legible) {output errors : String}
    (hwarned : ∀ announcement ∈ warnedOf output, Legible (String.ofList announcement.path))
    (hfailed : ∀ failure ∈ failuresOf errors, Legible (String.ofList failure.path)) {issues : List Issue} :
    ofFormatOutput disk cwd tool output errors = .ok issues ↔
      (∀ announcement ∈ warnedOf output, Readable disk cwd announcement.path announcement.position) ∧
      (∀ failure ∈ failuresOf errors, Readable disk cwd failure.path (some failure.position)) ∧
      issues = firstOfFile ((warnedOf output).map (·.told disk cwd tool)) ++
        (failuresOf errors).map (·.told disk cwd tool) := by
  have hwarnings : ∀ announcement ∈ warnedOf output, ∀ issue, announcement.warning disk cwd tool = .ok issue ↔
      Readable disk cwd announcement.path announcement.position ∧ issue = announcement.told disk cwd tool :=
    fun announcement h _ => warning_ok_iff hdisk hcwd (decimal_of_announcements false _ announcement h) (hwarned announcement h)
  have herrors : ∀ failure ∈ failuresOf errors, ∀ issue, formatError disk cwd tool failure = .ok issue ↔
      Readable disk cwd failure.path (some failure.position) ∧ issue = failure.told disk cwd tool := by
    intro failure h issue
    obtain ⟨line, -, hline⟩ := List.mem_filterMap.mp h
    exact error_ok_iff hdisk hcwd (decimal_of_failure hline) (hfailed failure h)
  rw [ofFormatOutput_eq]
  simp only [bind_ok_iff, mapM_eq_map_iff hwarnings, mapM_eq_map_iff herrors, pure, Except.pure, Except.ok.injEq]
  constructor
  · rintro ⟨_, ⟨hfound, rfl⟩, _, ⟨hbroken, rfl⟩, rfl⟩
    exact ⟨hfound, hbroken, rfl⟩
  · rintro ⟨hfound, hbroken, rfl⟩
    exact ⟨_, ⟨hfound, rfl⟩, _, ⟨hbroken, rfl⟩, rfl⟩

end FixFirst.Findings
