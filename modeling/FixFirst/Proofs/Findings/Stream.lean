import Mathlib
import FixFirst.Proofs.Findings.Objects
import FixFirst.Proofs.Json.Document

/-!
# Objects among other lines

A tool prints an object a line, and other lines between: blank ones, and ones that start with a letter.  The
reader first takes the whole output for one document.  With two lines that hold something it is none, and
then the lines are read one by one; with one line the output is what that line holds.  So the objects that are
found are those of the lines, in order, in any case.

## Main definitions

* `Findings.Stands` — what stands in a line: an object that is read, or nothing that is one.
* `Findings.Lister.Names` — whether an object names a file.
* `Findings.Piece` — a line of an output: an object, or something else.

## Main statements

* `Findings.records_of_stands` — the objects of an output are those of its lines.
* `Findings.issues_interleaved` — the issues of an output are those of its objects, line by line.
-/

namespace FixFirst

open Text

namespace Json

/-- The members of a value that is an object. -/
def object? : Json → Option (Keyed Json)
  | .obj members => some members
  | _ => none

theorem objects_arr (values : List Json) : (Json.arr values).objects = values.filterMap object? := by
  unfold objects
  congr 1

theorem isBlank_of_isSpace {c : Char} (h : isSpace c = true) : isBlank c = true := by
  simp only [isSpace, Bool.or_eq_true, decide_eq_true_eq] at h
  rcases h with ((rfl | rfl) | rfl) | rfl <;> decide

theorem skipSpace_of_filled {text : List Char} (h : Filled text) : skipSpace text ≠ [] := by
  intro hnone
  obtain ⟨c, hc, hplain⟩ := h
  rw [skipSpace, List.dropWhile_eq_nil_iff] at hnone
  exact Bool.false_ne_true (hplain.symm.trans (isBlank_of_isSpace (hnone c hc)))

/-- A number ends before a blank. -/
theorem ends_of_blank {c : Char} (h : isBlank c = true) (rest : List Char) : Ends (c :: rest) := by
  intro d hd
  cases Option.some.inj hd
  refine ⟨?_, ?_, ?_, ?_⟩
  · simp only [isBlank, blanks, within_cons, within_nil, Bool.or_eq_true, Bool.and_eq_true, decide_eq_true_eq,
      Bool.false_eq_true, or_false] at h
    simp [Char.isDigit, UInt32.le_iff_toNat_le]
    omega
  all_goals
    rintro rfl
    exact absurd h (by decide)

/-! ### Words -/

theorem toNat_of_isAlpha {c : Char} (h : c.isAlpha = true) : 65 ≤ c.toNat ∧ c.toNat ≤ 90 ∨ 97 ≤ c.toNat ∧ c.toNat ≤ 122 := by
  simpa [Char.isAlpha, Char.isUpper, Char.isLower, UInt32.le_iff_toNat_le] using h

theorem isBlank_of_isAlpha {c : Char} (h : c.isAlpha = true) : isBlank c = false := by
  have hletter := toNat_of_isAlpha h
  rw [← Bool.not_eq_true]
  simp only [isBlank, blanks, within_cons, within_nil, Bool.or_eq_true, Bool.and_eq_true, decide_eq_true_eq,
    Bool.false_eq_true, or_false]
  omega

theorem number_of_letter {c : Char} (hc : c.isAlpha = true) (text : List Char) : number (c :: text) = .error .malformed := by
  have hdigit : c.isDigit = false := by
    have hletter := toNat_of_isAlpha hc
    simp [Char.isDigit, UInt32.le_iff_toNat_le]
    omega
  have hminus : c ≠ '-' := by
    rintro rfl
    exact absurd hc (by decide)
  have hwhole : wholeDigits? (c :: text) = none := by
    rw [wholeDigits?]
    · simp [plainDigits, hdigit]
    · intro rest hsame
      exact absurd ((List.cons.inj hsame).1 ▸ hc) (by decide)
  simp [number, hminus, hwhole]

/-- Whether the start of a text was read as a word without blanks, which has no objects. -/
def ReadsWord (text : List Char) (result : Except ReadFault (Json × List Char)) : Prop :=
  ∃ word item rest, result = .ok (item, rest) ∧ text = word ++ rest ∧ (word.all fun c => !isBlank c) = true ∧
    item.objects = [] ∧ item.object? = none

/-- What starts with a letter is a word, or no value. -/
theorem value_of_letter {c : Char} (hc : c.isAlpha = true) (fuel room : Nat) (text : List Char) :
    value (fuel + 1) room (c :: text) = .error .malformed ∨ ReadsWord (c :: text) (value (fuel + 1) room (c :: text)) := by
  have hother : ∀ d rest, d.isAlpha = false → c :: text ≠ d :: rest := by
    intro d rest hd hsame
    exact Bool.false_ne_true (hd.symm.trans ((List.cons.inj hsame).1 ▸ hc))
  unfold value
  split
  · exact absurd ‹_› (hother _ _ (by decide))
  · exact absurd ‹_› (hother _ _ (by decide))
  · exact absurd ‹_› (hother _ _ (by decide))
  · exact Or.inr ⟨"null".toList, _, _, rfl, ‹_›, by decide, rfl, rfl⟩
  · exact Or.inr ⟨"true".toList, _, _, rfl, ‹_›, by decide, rfl, rfl⟩
  · exact Or.inr ⟨"false".toList, _, _, rfl, ‹_›, by decide, rfl, rfl⟩
  · exact Or.inr ⟨"NaN".toList, _, _, rfl, ‹_›, by decide, rfl, rfl⟩
  · exact Or.inr ⟨"Infinity".toList, _, _, rfl, ‹_›, by decide, rfl, rfl⟩
  · exact absurd ‹_› (hother _ _ (by decide))
  · exact Or.inl (number_of_letter hc text)

/-- A text that starts with a letter is a document only if a word is all it holds. -/
theorem read_of_letter {room : Nat} {c : Char} (hc : c.isAlpha = true) (text : List Char) :
    read room (c :: text) = .error .malformed ∨
      ∃ word item rest, read room (c :: text) = .ok item ∧ c :: text = word ++ rest ∧ (∀ d ∈ word, isBlank d = false) ∧
        (∀ d ∈ rest, isBlank d = true) ∧ item.objects = [] ∧ item.object? = none := by
  have hspace : isSpace c = false := by
    rw [← Bool.not_eq_true]
    exact fun hblank => Bool.false_ne_true ((isBlank_of_isAlpha hc).symm.trans (isBlank_of_isSpace hblank))
  unfold read
  rw [skipSpace_of_head hspace]
  rcases value_of_letter hc (2 * (c :: text).length + 1) room text with hflaw | ⟨word, item, rest, hread, hsplit, hword, hitem⟩
  · exact Or.inl (by rw [hflaw])
  · rw [hread]
    by_cases hrest : (skipSpace rest).isEmpty = true
    · refine Or.inr ⟨word, item, rest, by simp [hrest], hsplit, by simpa using hword, fun d hd => ?_, hitem⟩
      rw [List.isEmpty_iff, skipSpace, List.dropWhile_eq_nil_iff] at hrest
      exact isBlank_of_isSpace (hrest d hd)
    · exact Or.inl (by simp [hrest])

end Json

namespace Findings

/-! ### What stands in a line -/

/-- Whether what a line holds is the document of an object, or the document of no object, or no document.
Followed by a blank and something else it is no document. -/
structure Stands (room : Nat) (body : List Char) (found : Option (Keyed Json)) : Prop where
  filled : Filled body
  alone : Json.read room body = .error .malformed ∧ found = none ∨
    ∃ value, Json.read room body = .ok value ∧ value.objects = found.toList ∧ value.object? = found
  followed : ∀ c more, isBlank c = true → Filled more → Json.read room (body ++ c :: more) = .error .malformed

/-- A line that starts with a letter holds no object. -/
theorem stands_of_letter {c : Char} (hc : c.isAlpha = true) (text : List Char) : Stands room (c :: text) none := by
  refine ⟨⟨c, List.mem_cons_self, Json.isBlank_of_isAlpha hc⟩, ?_, fun d more hd hmore => ?_⟩
  · rcases Json.read_of_letter hc text with hflaw | ⟨-, value, -, hread, -, -, -, hvalue⟩
    · exact Or.inl ⟨hflaw, rfl⟩
    · exact Or.inr ⟨value, hread, hvalue⟩
  · rcases Json.read_of_letter hc (text ++ d :: more) with hflaw | ⟨word, value, rest, -, hsplit, hword, hrest, -⟩
    · exact hflaw
    · obtain ⟨x, hx, hplain⟩ := hmore
      have hout : x ∉ rest := fun hin => Bool.false_ne_true (hplain.symm.trans (hrest x hin))
      rw [← List.cons_append, List.append_eq_append_iff] at hsplit
      rcases hsplit with ⟨tail, rfl, htail⟩ | ⟨tail, -, rfl⟩
      · cases tail with
        | nil => exact absurd (by rw [List.nil_append] at htail; exact htail ▸ List.mem_cons_of_mem d hx) hout
        | cons first tail =>
            have hblank : isBlank first = false := hword first (by simp)
            rw [List.cons_append, List.cons.injEq] at htail
            exact absurd (htail.1 ▸ hd) (by simp [hblank])
      · exact absurd (List.mem_append_right tail (List.mem_cons_of_mem d hx)) hout

/-- A document in one line. -/
def document (value : Json) : List Char := Json.spaced Spacing.oneLine 0 value

/-- Whether a value is an array or an object. -/
def Bracketed (value : Json) : Prop := (∃ items, value = .arr items) ∨ ∃ members, value = .obj members

theorem document_eq {value : Json} (h : Bracketed value) :
    ∃ opening middle closing, document value = opening :: middle ++ [closing] ∧ isBlank opening = false ∧
      isBlank closing = false := by
  have hbracket : ∀ opening closing parts, ∃ middle,
      Spacing.oneLine.bracket opening closing 0 parts = opening :: middle ++ [closing] := by
    intro opening closing parts
    unfold Spacing.bracket
    split
    · exact ⟨[], rfl⟩
    · exact ⟨_, rfl⟩
  rcases h with ⟨items, rfl⟩ | ⟨members, rfl⟩
  · obtain ⟨middle, htext⟩ := hbracket '[' ']' (Json.spacedItems Spacing.oneLine 1 items)
    exact ⟨'[', middle, ']', htext, by decide, by decide⟩
  · obtain ⟨middle, htext⟩ := hbracket '\x7b' '\x7d' (Json.spacedMembers Spacing.oneLine 1 members)
    exact ⟨'\x7b', middle, '\x7d', htext, by decide, by decide⟩

theorem filled_document {value : Json} (h : Bracketed value) : Filled (document value) := by
  obtain ⟨opening, middle, closing, htext, hopening, -⟩ := document_eq h
  exact ⟨opening, by simp [htext], hopening⟩

theorem trim_document {value : Json} (h : Bracketed value) : trim (document value) = document value := by
  obtain ⟨opening, middle, closing, htext, hopening, hclosing⟩ := document_eq h
  rw [htext]
  refine trim_eq_self_iff.mpr ⟨by simpa using hopening, fun c hc => ?_⟩
  rw [List.getLast?_concat] at hc
  exact Option.some.inj hc ▸ hclosing

theorem isLineBreak_document {value : Json} (hexact : value.Exact) : ∀ c ∈ document value, isLineBreak c = false := by
  intro c hc
  obtain ⟨hlow, hhigh⟩ := Json.plain_spaced 0 value hexact c hc
  rw [← Bool.not_eq_true]
  simp only [isLineBreak, lineBreaks, within_cons, within_nil, Bool.or_eq_true, Bool.and_eq_true, decide_eq_true_eq,
    Bool.false_eq_true, or_false]
  omega

/-- The line of an object that is read holds that object. -/
theorem stands_document {members : Keyed Json} (hexact : (Json.obj members).Exact) (hshort : (Json.obj members).Short)
    (hfits : (Json.obj members).nesting ≤ room) : Stands room (document (.obj members)) (some members) := by
  refine ⟨filled_document (Or.inr ⟨members, rfl⟩), Or.inr ⟨.obj members, ?_, rfl, rfl⟩, fun c more hc hmore => ?_⟩
  · exact (Json.read_spaced Spacing.blank_oneLine room hexact.definite 0).1 hshort hfits
  · have hrest : Filled (c :: more) := hmore.imp fun d hd => ⟨List.mem_cons_of_mem c hd.1, hd.2⟩
    exact Json.read_spaced_append Spacing.blank_oneLine hexact.definite hshort hfits 0 (Json.ends_of_blank hc more)
      (Json.skipSpace_of_filled hrest)

/-! ### The objects of an output -/

/-- The documents in lines hold the objects of the lines. -/
theorem lineRecords_of_stands {lines : List (List Char)} {founds : List (Option (Keyed Json))}
    (h : List.Forall₂ (Stands room) (held lines) founds) :
    ∃ values, lineRecords room lines = .ok values ∧ values.filterMap Json.object? = founds.reduceOption := by
  induction lines generalizing founds with
  | nil =>
      cases h
      exact ⟨[], rfl, rfl⟩
  | cons line lines ih =>
      by_cases hfilled : Filled line
      · rw [held_cons, held_of_filled hfilled, List.singleton_append] at h
        cases h with
        | cons hline hlines =>
            rename_i found founds
            obtain ⟨values, hvalues, hobjects⟩ := ih hlines
            have hsome : (trim line).isEmpty = false := by simpa using filled_iff.mp hfilled
            rcases hline.alone with ⟨hflaw, rfl⟩ | ⟨value, hread, -, hvalue⟩
            · refine ⟨values, ?_, hobjects⟩
              simp [lineRecords, hsome, hflaw, faultOf?, hvalues]
            · refine ⟨value :: values, ?_, ?_⟩
              · simp [lineRecords, hsome, hread, hvalues, Except.map]
              · cases found <;> simp [hvalue, hobjects, List.reduceOption_cons_of_none, List.reduceOption_cons_of_some]
      · rw [held_cons, held_of_blank (not_filled_iff.mp hfilled), List.nil_append] at h
        obtain ⟨values, hvalues, hobjects⟩ := ih h
        have hnone : (trim line).isEmpty = true := by simpa using trim_eq_nil_iff.mpr (not_filled_iff.mp hfilled)
        refine ⟨values, ?_, hobjects⟩
        simp [lineRecords, hnone, hvalues]

/-- **The objects of an output are those of its lines**, in order. -/
theorem records_of_stands {output : List Char} {founds : List (Option (Keyed Json))}
    (h : List.Forall₂ (Stands room) (bodies output) founds) :
    ∃ value, records room output = .ok value ∧ value.objects = founds.reduceOption := by
  cases hbodies : bodies output with
  | nil =>
      rw [hbodies] at h
      cases h
      have hnone : (trim output).isEmpty = true := by
        simpa using trim_eq_nil_iff.mpr (not_filled_iff.mp (bodies_eq_nil_iff.mp hbodies))
      exact ⟨.arr [], by simp [records, hnone], rfl⟩
  | cons first rest =>
      have hlines : ∃ values, lineRecords room (lines (trim output)) = .ok values ∧
          values.filterMap Json.object? = founds.reduceOption :=
        lineRecords_of_stands ((bodies_trim output).symm ▸ h : List.Forall₂ (Stands room) (bodies (trim output)) founds)
      obtain ⟨values, hvalues, hobjects⟩ := hlines
      have hsome : (trim output).isEmpty = false := by
        have hfilled : Filled output := by
          by_contra hnone
          simp [bodies_eq_nil_iff.mpr hnone] at hbodies
        simpa using filled_iff.mp hfilled
      have hmalformed : Json.read room (trim output) = .error .malformed →
          ∃ value, records room output = .ok value ∧ value.objects = founds.reduceOption := by
        intro hflaw
        refine ⟨.arr values, by simp [records, hsome, hflaw, faultOf?, hvalues, Except.map], ?_⟩
        rw [Json.objects_arr, hobjects]
      obtain ⟨after, htrim, hlast, hmore⟩ := trim_of_bodies hbodies
      rw [hbodies] at h
      cases h with
      | cons hfirst hrest =>
          rename_i found founds
          cases rest with
          | nil =>
              cases hrest
              rw [hlast rfl, List.append_nil] at htrim
              rcases hfirst.alone with ⟨hflaw, -⟩ | ⟨value, hread, hvalue, -⟩
              · exact hmalformed (htrim ▸ hflaw)
              · refine ⟨value, by simp [records, hsome, htrim ▸ hread], ?_⟩
                rw [hvalue]
                cases found <;> rfl
          | cons second others =>
              obtain ⟨c, more, rfl, hc, hfilled⟩ := hmore (by simp)
              exact hmalformed (htrim ▸ hfirst.followed c more hc hfilled)

/-- Whether an object names a file: there is such a member, it is not `null`, and as a text it is not blank. -/
def Lister.Names (lister : Lister) (members : Keyed Json) : Prop :=
  ∃ value, members.get? lister.fileKey = some value ∧ value ≠ .null ∧ Filled value.plainText

theorem Lister.isSome_file {lister : Lister} {members : Keyed Json} :
    (lister.file? members).isSome = true ↔ lister.Names members := by
  unfold file? Names optionalString optionalText
  rw [Option.isSome_map]
  split
  · simp_all
  · simp_all
  · rename_i given hnull hgiven
    have hnot : given ≠ .null := hnull
    by_cases hfilled : Filled given.plainText
    · have hsome : (trim given.plainText).isEmpty = false := by simpa using filled_iff.mp hfilled
      simp [hsome, hgiven, hnot, hfilled]
    · have hnone : (trim given.plainText).isEmpty = true := by
        simpa using trim_eq_nil_iff.mpr (not_filled_iff.mp hfilled)
      simp [hnone, hgiven, hfilled]

/-! ### Outputs that are one document -/

/-- An array or object is read unless it has too long a number or lies too deep. -/
theorem records_document {value : Json} (hbracketed : Bracketed value) (hexact : value.Exact) :
    (value.Short → value.nesting ≤ room → records room (document value) = .ok value) ∧
    (value.Short → room < value.nesting → ∃ holder, records room (document value) = .error (tooDeep holder)) ∧
    (¬ value.Short → ∃ fault, records room (document value) = .error fault) := by
  have hsome : (document value).isEmpty = false := by
    obtain ⟨opening, middle, closing, htext, -⟩ := document_eq hbracketed
    rw [htext]
    rfl
  have hfault : ∀ cause fault, Json.read room (document value) = .error cause → faultOf? cause = some fault →
      records room (document value) = .error fault := by
    intro cause fault hread hcause
    simp [records, trim_document hbracketed, hsome, hread, hcause]
  obtain ⟨hreads, hdeep, hlong⟩ := Json.read_spaced Spacing.blank_oneLine room hexact.definite 0
  refine ⟨fun hshort hfits => ?_, fun hshort hnested => ?_, fun hnot => ?_⟩
  · have hread : Json.read room (document value) = .ok value := hreads hshort hfits
    simp [records, trim_document hbracketed, hsome, hread]
  · rcases hdeep hshort hnested with hread | hread
    · exact ⟨"array", hfault _ _ hread rfl⟩
    · exact ⟨"object", hfault _ _ hread rfl⟩
  · obtain ⟨cause, hread, hcause⟩ := hlong hnot
    cases cause with
    | malformed => exact absurd rfl hcause
    | oversized digits => exact ⟨_, hfault _ _ hread rfl⟩
    | deepArray => exact ⟨_, hfault _ _ hread rfl⟩
    | deepObject => exact ⟨_, hfault _ _ hread rfl⟩
    | halved => exact ⟨_, hfault _ _ hread rfl⟩

/-! ### Pieces of an output -/

/-- A line of an output: that of an object, or an aside. -/
inductive Piece where
  | object (members : Keyed Json)
  | aside (line : List Char)

namespace Piece

/-- The line itself. -/
def line : Piece → List Char
  | object members => document (.obj members)
  | aside line => line

/-- The object that stands in the line. -/
def object? : Piece → Option (Keyed Json)
  | object members => some members
  | aside _ => none

/-- Whether an object is one that a document can say exactly, and an aside is a line that is blank or starts with
a letter from A to Z, in either case. -/
def Sound : Piece → Prop
  | object members => (Json.obj members).Exact
  | aside line => (∀ c ∈ line, isLineBreak c = false) ∧ (¬ Filled line ∨ ∃ c rest, line = c :: rest ∧ c.isAlpha = true)

theorem Sound.line {piece : Piece} (h : piece.Sound) : ∀ c ∈ piece.line, isLineBreak c = false := by
  cases piece with
  | object members => exact isLineBreak_document h
  | aside line => exact h.1

end Piece

/-- What stands in the lines of an output. -/
theorem stands_pieces {pieces : List Piece} (hsound : ∀ piece ∈ pieces, piece.Sound)
    (hfits : ∀ members ∈ pieces.filterMap Piece.object?,
      (Json.obj members).Short ∧ (Json.obj members).nesting ≤ room) :
    ∃ founds, List.Forall₂ (Stands room) (held (pieces.map Piece.line)) founds ∧
      founds.reduceOption = pieces.filterMap Piece.object? := by
  induction pieces with
  | nil => exact ⟨[], .nil, rfl⟩
  | cons piece pieces ih =>
      obtain ⟨hpiece, hpieces⟩ := List.forall_mem_cons.mp hsound
      cases piece with
      | object members =>
          obtain ⟨⟨hshort, hnested⟩, hothers⟩ := List.forall_mem_cons.mp hfits
          obtain ⟨founds, hfounds, hsame⟩ := ih hpieces hothers
          have hstands := stands_document hpiece hshort hnested
          refine ⟨some members :: founds, ?_, by rw [List.reduceOption_cons_of_some, hsame]; rfl⟩
          rw [List.map_cons, held_cons, Piece.line, held_of_filled hstands.filled,
            trim_document (Or.inr ⟨members, rfl⟩), List.singleton_append]
          exact .cons hstands hfounds
      | aside line =>
          obtain ⟨founds, hfounds, hsame⟩ := ih hpieces hfits
          rw [List.map_cons, held_cons, Piece.line]
          rcases hpiece.2 with hblank | ⟨c, rest, rfl, hc⟩
          · rw [held_of_blank (not_filled_iff.mp hblank), List.nil_append]
            exact ⟨founds, hfounds, hsame⟩
          · obtain ⟨more, htrim⟩ := trim_cons (Json.isBlank_of_isAlpha hc) rest
            rw [held_of_filled ⟨c, List.mem_cons_self, Json.isBlank_of_isAlpha hc⟩, htrim, List.singleton_append]
            exact ⟨none :: founds, .cons (stands_of_letter hc more) hfounds, by
              rw [List.reduceOption_cons_of_none, hsame]; rfl⟩

namespace Lister

variable {lister : Lister} {disk : Disk} {cwd : Path} {tool : String}

/-- What an object is on whose line alone the reader does not fail, and what comes of it. -/
theorem of_issues_document {members : Keyed Json} (hexact : (Json.obj members).Exact) {issues : List Issue}
    (h : lister.issues room disk cwd tool (String.ofList (document (.obj members))) = .ok issues) :
    ((Json.obj members).Short ∧ (Json.obj members).nesting ≤ room) ∧
      ∃ found, lister.issue? disk cwd tool members = .ok found ∧ issues = found.toList := by
  obtain ⟨hreads, hdeep, hlong⟩ := records_document (Or.inr ⟨members, rfl⟩) hexact
  have hfails : ∀ fault, records room (document (.obj members)) = .error fault → False := by
    intro fault hfault
    rw [issues_of_fault (by rw [String.toList_ofList]; exact hfault)] at h
    cases h
  have hshort : (Json.obj members).Short := by
    by_contra hnot
    obtain ⟨fault, hfault⟩ := hlong hnot
    exact hfails fault hfault
  have hfits : (Json.obj members).nesting ≤ room := by
    by_contra hnot
    obtain ⟨holder, hfault⟩ := hdeep hshort (not_le.mp hnot)
    exact hfails _ hfault
  refine ⟨⟨hshort, hfits⟩, ?_⟩
  have hrecords : records room (String.ofList (document (.obj members))).toList = .ok (.obj members) := by
    rw [String.toList_ofList]
    exact hreads hshort hfits
  obtain ⟨founds, hfounds, rfl⟩ := (issues_of_records hrecords).mp h
  obtain ⟨found, hfound, rfl⟩ : ∃ found, lister.issue? disk cwd tool members = .ok found ∧ founds = [found] := by
    cases hfounds with
    | cons hfirst hnone => cases hnone; exact ⟨_, hfirst, rfl⟩
  exact ⟨found, hfound, by cases found <;> rfl⟩

end Lister

/-- `Lister.of_issues_document` for several objects. -/
theorem of_issues_documents {lister : Lister} {disk : Disk} {cwd : Path} {tool : String} {objects : List (Keyed Json)}
    {found : List (List Issue)} (hexact : ∀ members ∈ objects, (Json.obj members).Exact)
    (h : List.Forall₂ (fun members issues =>
      lister.issues room disk cwd tool (String.ofList (document (.obj members))) = .ok issues) objects found) :
    (∀ members ∈ objects, (Json.obj members).Short ∧ (Json.obj members).nesting ≤ room) ∧
      ∃ founds, List.Forall₂ (fun members issue => lister.issue? disk cwd tool members = .ok issue) objects founds ∧
        found = founds.map Option.toList := by
  induction h with
  | nil => exact ⟨List.forall_mem_nil _, [], .nil, rfl⟩
  | cons hfirst _ ih =>
      obtain ⟨hmembers, hothers⟩ := List.forall_mem_cons.mp hexact
      obtain ⟨hfits, issue, hissue, rfl⟩ := Lister.of_issues_document hmembers hfirst
      obtain ⟨hfitsOthers, founds, hfounds, rfl⟩ := ih hothers
      exact ⟨List.forall_mem_cons.mpr ⟨hfits, hfitsOthers⟩, issue :: founds, .cons hissue hfounds, rfl⟩

/-- **Objects, noise and arrays.**  Objects are written in a line each, among lines that are blank and lines that start
with a letter.  The pieces are the lines of the text that has a line feed behind each.  If the lines of an output
are these pieces, and on the line of each object alone a tool does not fail, then on the output it gives what it
gives for those lines, one after the other: an issue for each object that names a file, and nothing for another.
On the array of the objects in one document it gives the same; only where an object lies as deep as one may, the
array lies too deep.  How deep that is does not matter, if one array is read at all. -/
theorem issues_interleaved {room : Nat} (hroom : 0 < room) (lister : Lister) (disk : Disk) (cwd : Path) (tool : String)
    {pieces : List Piece} (hsound : ∀ piece ∈ pieces, piece.Sound) :
    let objects := pieces.filterMap Piece.object?
    lines (pieces.flatMap fun piece => piece.line ++ ['\n']) = pieces.map Piece.line ∧
    ∀ output found, lines output.toList = pieces.map Piece.line →
      List.Forall₂ (fun members issues =>
        lister.issues room disk cwd tool (String.ofList (document (.obj members))) = .ok issues) objects found →
      lister.issues room disk cwd tool output = .ok found.flatten ∧
      List.Forall₂ (fun members issues => lister.Names members ∧ (∃ issue, issues = [issue]) ∨
        ¬ lister.Names members ∧ issues = []) objects found ∧
      let array := String.ofList (document (.arr (objects.map .obj)))
      ((∀ members ∈ objects, (Json.obj members).nesting < room) →
        lister.issues room disk cwd tool array = .ok found.flatten) ∧
      ((∃ members ∈ objects, (Json.obj members).nesting = room) →
        ∃ holder, lister.issues room disk cwd tool array = .error (tooDeep holder)) := by
  intro objects
  refine ⟨?_, fun output found hlines hfound => ?_⟩
  · have hline : ∀ part ∈ pieces.map Piece.line, ∀ c ∈ part, isLineBreak c = false := by
      intro part hpart
      obtain ⟨piece, hpiece, rfl⟩ := List.mem_map.mp hpart
      exact (hsound piece hpiece).line
    simpa [List.flatMap_map] using lines_written hline
  have hexact : ∀ members ∈ objects, (Json.obj members).Exact := by
    intro members hmembers
    obtain ⟨piece, hpiece, hobject⟩ := List.mem_filterMap.mp hmembers
    cases piece with
    | object own =>
        cases hobject
        exact hsound _ hpiece
    | aside line => cases hobject
  obtain ⟨hfits, founds, hfounds, rfl⟩ := of_issues_documents hexact hfound
  have hflatten : (founds.map Option.toList).flatten = founds.reduceOption := by
    rw [List.reduceOption, List.filterMap_eq_flatMap_toList, List.flatMap_def]
    rfl
  obtain ⟨stands, hstands, hobjects⟩ := stands_pieces hsound hfits
  rw [← hlines] at hstands
  obtain ⟨value, hvalue, hsame⟩ := records_of_stands hstands
  rw [hobjects] at hsame
  have hshort : (Json.arr (objects.map .obj)).Short := by
    refine Json.shortItems_iff.mpr fun item hitem => ?_
    obtain ⟨members, hmembers, rfl⟩ := List.mem_map.mp hitem
    exact (hfits members hmembers).1
  have hitems : (Json.arr (objects.map .obj)).Exact := by
    refine Json.exactItems_iff.mpr fun item hitem => ?_
    obtain ⟨members, hmembers, rfl⟩ := List.mem_map.mp hitem
    exact hexact members hmembers
  have hnesting : (Json.arr (objects.map .obj)).nesting ≤ room ↔
      ∀ members ∈ objects, (Json.obj members).nesting < room := by
    rw [Json.nesting, Nat.succ_le_iff, Nat.lt_iff_le_pred hroom, Json.nestingItems_le_iff, List.forall_mem_map]
    exact forall₂_congr fun members _ => (Nat.lt_iff_le_pred hroom).symm
  obtain ⟨hreads, hdeep, -⟩ := records_document (Or.inl ⟨_, rfl⟩) hitems
  rw [hflatten]
  refine ⟨(Lister.issues_of_records hvalue).mpr ⟨founds, hsame ▸ hfounds, rfl⟩, ?_, fun hall => ?_, fun hsome => ?_⟩
  · refine List.forall₂_map_right_iff.mpr (hfounds.imp fun members issue hissue => ?_)
    rw [← Lister.isSome_file, ← Lister.isSome_of_issue hissue]
    cases issue with
    | none => exact Or.inr ⟨by simp, rfl⟩
    | some issue => exact Or.inl ⟨rfl, issue, rfl⟩
  · have hread := hreads hshort (hnesting.mpr hall)
    refine (Lister.issues_of_records (by rw [String.toList_ofList]; exact hread)).mpr ⟨founds, ?_, rfl⟩
    have hback : (objects.map Json.obj).filterMap Json.object? = objects := by
      rw [List.filterMap_map]
      exact List.filterMap_some
    rw [Json.objects_arr, hback]
    exact hfounds
  · obtain ⟨members, hmembers, hdepth⟩ := hsome
    have hover : room < (Json.arr (objects.map .obj)).nesting := by
      rw [← not_le, hnesting]
      exact fun hall => absurd hdepth (Nat.ne_of_lt (hall members hmembers))
    obtain ⟨holder, hfault⟩ := hdeep hshort hover
    exact ⟨holder, Lister.issues_of_fault (by rw [String.toList_ofList]; exact hfault)⟩

namespace Printed

/-- An object with a file name, and text beyond ASCII in it. -/
def named : Keyed Json := [("file", .str "a.py"), ("line", .int 3), ("column", .int 0), ("message", .str "naïve\n"), ("code", .null)]

/-- An object whose file name is blank. -/
def nameless : Keyed Json := [("file", .str " "), ("line", .int 7), ("notes", .arr [.int (-1), .obj []])]

def pieces : List Piece :=
  [.aside "Checking 2 files".toList, .object named, .aside [], .object nameless, .aside "null".toList]

def issue : Issue := ⟨.typeCheck, .error, "/p/a.py", 3, 1, none, none, none, "naïve", none, some "mypy"⟩

-- What names hold, and what a disk holds, is evaluated by equations: unfolding texts is slow.
attribute [local irreducible] Path.hasNul Disk.isDirectory Disk.present

/-- What a type checker finds in the first object.  With a definition that carries its proof, and not with a
theorem, the equations of all that a reader calls are at hand for what else is read. -/
def found :
    { issues // Lister.typeChecker.issues 10 (Disk.empty [] []) (Path.ofText "/p") "mypy"
      (String.ofList (document (.obj named))) = .ok issues } :=
  ⟨[issue], by cbv⟩

/-- A type checker found one thing in two objects. -/
theorem issues_interleaved_printed :
    0 < 10 ∧ (∀ piece ∈ pieces, piece.Sound) ∧
      Lister.typeChecker.issues 10 (Disk.empty [] []) (Path.ofText "/p") "mypy"
        (String.ofList (pieces.flatMap fun piece => piece.line ++ ['\n'])) = .ok [issue] ∧
      Lister.typeChecker.issues 10 (Disk.empty [] []) (Path.ofText "/p") "mypy"
        (String.ofList (document (.arr [.obj named, .obj nameless]))) = .ok [issue] := by
  have hsound : ∀ piece ∈ pieces, piece.Sound := by
    have hline : ∀ line : List Char, (line.all fun c => !isLineBreak c) = true → ∀ c ∈ line, isLineBreak c = false := by
      intro line h
      simpa using h
    simp only [pieces, List.forall_mem_cons]
    refine ⟨⟨hline _ (by decide), Or.inr ⟨'C', _, rfl, by decide⟩⟩, ?_, ⟨hline _ (by decide), Or.inl (by simp [Filled])⟩, ?_,
      ⟨hline _ (by decide), Or.inr ⟨'n', _, rfl, by decide⟩⟩, List.forall_mem_nil _⟩
    · simp [Piece.Sound, named, Json.Exact, Json.ExactMembers]
    · simp [Piece.Sound, nameless, Json.Exact, Json.ExactMembers, Json.ExactItems]
  obtain ⟨hlines, hissues⟩ := issues_interleaved (by decide : 0 < 10) .typeChecker (Disk.empty [] []) (Path.ofText "/p") "mypy" hsound
  have hnamed : Lister.typeChecker.issues 10 (Disk.empty [] []) (Path.ofText "/p") "mypy"
      (String.ofList (document (.obj named))) = .ok [issue] := found.property
  have hnameless : Lister.typeChecker.issues 10 (Disk.empty [] []) (Path.ofText "/p") "mypy"
      (String.ofList (document (.obj nameless))) = .ok [] := by cbv
  obtain ⟨hall, -, harray, -⟩ := hissues (String.ofList (pieces.flatMap fun piece => piece.line ++ ['\n'])) [[issue], []]
    (by rw [String.toList_ofList]; exact hlines) (.cons hnamed (.cons hnameless .nil))
  refine ⟨by decide, hsound, hall, harray (List.forall_mem_cons.mpr ⟨by decide, ?_⟩)⟩
  exact List.forall_mem_cons.mpr ⟨by decide, List.forall_mem_nil _⟩

end Printed

end Findings

end FixFirst
