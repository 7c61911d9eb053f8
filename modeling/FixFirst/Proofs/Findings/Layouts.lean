import Mathlib
import FixFirst.Proofs.Findings.Announced
import FixFirst.Proofs.Json.Token

/-!
# Layouts of announcements

A formatter announces a file in one of three layouts, and says other things before, between and after.  Whatever the
layouts, a file has one warning, at the place of its first entry.

## Main definitions

* `Entry`, `Entry.lines` — a file with a place, and the lines that announce it in a layout.
* `Noise` — a line that announces nothing.
* `Entry.Readable`, `Entry.warning` — whether a warning can be made of an entry, and which.

## Main statements

* `notice_noise`, `notice_sentence`, `notice_concise`, `notice_header`, `notice_locator` — what each line says.
* `Entry.announcements_lines`, `Entry.lines_written_entries` — what the lines of entries announce.
* `files_firstOfFile`, `first_of_mem_firstOfFile` — which issues are the first of their files.
* `layouts_read_back` — what becomes of entries in any layouts.
* `sound_entries_refused` — two outputs that are refused.
-/

namespace FixFirst.Findings

open Text

/-! ### Words and paths -/

theorem afterWord_eq_some_iff {word text rest : List Char} : afterWord? word text = some rest ↔ text = word ++ rest := by
  induction word generalizing text with
  | nil => simp [afterWord?]
  | cons c word ih =>
      cases text with
      | nil => simp [afterWord?]
      | cons d text =>
          unfold afterWord?
          by_cases h : c = d
          · simp [h, ih]
          · simp [h, Ne.symm h]

theorem append_colon_inj {before other after more : List Char} (hbefore : ':' ∉ before) (hother : ':' ∉ other)
    (h : before ++ ':' :: after = other ++ ':' :: more) : before = other ∧ after = more := by
  induction before generalizing other with
  | nil =>
      cases other with
      | nil => exact ⟨rfl, (List.cons.inj h).2⟩
      | cons d other => exact absurd ((List.cons.inj h).1 ▸ List.mem_cons_self) hother
  | cons c before ih =>
      rw [List.mem_cons, not_or] at hbefore
      cases other with
      | nil => exact absurd (List.cons.inj h).1.symm hbefore.1
      | cons d other =>
          rw [List.mem_cons, not_or] at hother
          obtain ⟨rfl, hrest⟩ := List.cons.inj h
          obtain ⟨rfl, rfl⟩ := ih hbefore.2 hother.2 hrest
          exact ⟨rfl, rfl⟩

/-- The shortest path goes up to the first colon, if nothing is found elsewhere. -/
theorem shortestPath_written {α : Type} {tail : List Char → Option α} (hcolon : ∀ text, (tail text).isSome = true → text.head? = some ':')
    {path rest : List Char} {found : α} (hpath : ':' ∉ path) (hne : path ≠ []) (hrest : tail rest = some found)
    (taken : List Char) : shortestPath? tail taken (path ++ rest) = some (taken.reverse ++ path, found) := by
  induction path generalizing taken with
  | nil => exact absurd rfl hne
  | cons c path ih =>
      rw [List.mem_cons, not_or] at hpath
      rw [List.cons_append, shortestPath?]
      cases path with
      | nil => simp [hrest]
      | cons d path =>
          have hnone : tail (d :: path ++ rest) = none := by
            by_contra hsome
            have hhead := hcolon _ (Option.isSome_iff_ne_none.mpr hsome)
            rw [List.mem_cons, not_or] at hpath
            exact hpath.2.1 (Option.some.inj hhead).symm
          rw [hnone]
          refine (ih hpath.2 (by simp) (c :: taken)).trans ?_
          simp

/-! ### Numbers -/

theorem digitValue_of_isDigit {c : Char} (h : c.isDigit = true) : digitValue? c = some (asciiDigit c) := by
  simp only [Char.isDigit, Bool.and_eq_true, decide_eq_true_eq, UInt32.le_iff_toNat_le] at h
  have hlow : 0x30 ≤ c.toNat := h.1
  have hhigh : c.toNat < 0x30 + 10 := Nat.lt_succ_of_le h.2
  simp [digitValue?, zeros, hlow, hhigh, asciiDigit]

theorem isDecimal_natText {n : Nat} {c : Char} (h : c ∈ natText n) : isDecimal c = true := by
  rw [isDecimal, digitValue_of_isDigit (Json.isDigit_natText h)]
  rfl

theorem natOfDigits_values (n : Nat) : natOfDigits ((natText n).filterMap digitValue?) = n := by
  have hvalues : (natText n).filterMap digitValue? = (natText n).map asciiDigit := by
    rw [← List.filterMap_eq_map]
    exact List.filterMap_congr fun c hc => digitValue_of_isDigit (Json.isDigit_natText hc)
  rw [hvalues, Json.natOfDigits_natText]

theorem digits_written (n : Nat) {rest : List Char} (hrest : ∀ c ∈ rest.head?, isDecimal c = false) :
    digits? (natText n ++ rest) = some (natText n, rest) := by
  have hne : natText n ≠ [] := Nat.toDigits_ne_nil
  unfold digits?
  rw [List.takeWhile_append_of_pos fun c hc => isDecimal_natText hc, List.dropWhile_append_of_pos fun c hc => isDecimal_natText hc]
  cases rest with
  | nil => simp [hne]
  | cons c rest => simp [hrest c rfl, hne]

/-- The text of a place. -/
def placeText (line column : Nat) : List Char := ':' :: (natText line ++ ':' :: natText column)

theorem position_written (line column : Nat) {rest : List Char} (hrest : ∀ c ∈ rest.head?, isDecimal c = false) :
    position? (placeText line column ++ rest) = some (⟨natText line, natText column⟩, rest) := by
  have hcolon : ∀ c ∈ (':' :: (natText column ++ rest)).head?, isDecimal c = false := by
    intro c hc
    cases Option.some.inj hc
    decide
  have hline := digits_written line hcolon
  simp only [placeText, List.cons_append, List.append_assoc]
  simp [position?, hline, digits_written column hrest]

/-! ### What a line cannot say -/

theorem mem_afterBlanks {text body : List Char} (h : body ∈ afterBlanks text) : body <:+ text := by
  obtain ⟨back, -, rfl⟩ := List.mem_map.mp h
  exact List.drop_suffix _ _

theorem trim_within (text : List Char) : trim text <:+: text := by
  obtain ⟨before, after, -, -, hsplit⟩ := trim_between text
  exact ⟨before, after, by rw [List.append_assoc, ← hsplit]⟩

/-- A notice behind a path has the word in its line, and three colons. -/
theorem concise_some {body : List Char} {found : List Char × Position}
    (h : shortestPath? conciseTail? [] body = some found) : 3 ≤ body.count ':' ∧ "unformatted:".toList <:+: body := by
  obtain ⟨text, htail, hsuffix⟩ := tail_of_shortestPath h
  obtain ⟨rest, hposition, behind, hbehind, hsome⟩ := conciseTail_some htail
  have htext := (position_some hposition).2
  constructor
  · refine le_trans ?_ (hsuffix.sublist.count_le ':')
    rw [htext]
    simp only [List.count_cons_self, List.count_append]
    omega
  · obtain ⟨after, hafter⟩ := Option.isSome_iff_exists.mp hsome
    have hword : "unformatted:".toList <+: behind := ⟨after, (afterWord_eq_some_iff.mp hafter).symm⟩
    have hrest : rest <:+ text :=
      ⟨':' :: (found.2.line ++ ':' :: (found.2.column ++ [':'])), by rw [htext]; simp⟩
    exact hword.isInfix.trans ((mem_afterBlanks hbehind).trans (hrest.trans hsuffix)).isInfix

theorem head_of_position {text rest : List Char} {position : Position} (h : position? text = some (position, rest)) :
    text.head? = some ':' := by
  rw [(position_some h).2]
  rfl

theorem head_conciseTail (text : List Char) (h : (conciseTail? text).isSome = true) : text.head? = some ':' := by
  obtain ⟨position, hposition⟩ := Option.isSome_iff_exists.mp h
  obtain ⟨rest, hrest, -⟩ := conciseTail_some hposition
  exact head_of_position hrest

theorem head_finalPosition (text : List Char) (h : (finalPosition? text).isSome = true) : text.head? = some ':' := by
  obtain ⟨position, hposition⟩ := Option.isSome_iff_exists.mp h
  obtain ⟨rest, hrest⟩ := finalPosition_some hposition
  exact head_of_position hrest

/-- Whether a line announces nothing: it does not have the word of a notice, and without the blanks around it it starts
neither as a sentence nor as a locator. -/
def Noise (line : List Char) : Prop :=
  ¬ "unformatted:".toList <:+: line ∧ ¬ "Would reformat:".toList <+: trim line ∧ ¬ "-->".toList <+: trim line

instance : DecidablePred Noise := fun _ => inferInstanceAs (Decidable (_ ∧ _))

theorem reformat_eq_none {body : List Char} (h : ¬ "Would reformat:".toList <+: body) : reformat? body = none := by
  unfold reformat?
  cases hword : afterWord? "Would reformat:".toList body with
  | none => rfl
  | some rest => exact absurd ⟨rest, (afterWord_eq_some_iff.mp hword).symm⟩ h

theorem notice_noise {line : List Char} (h : Noise line) : notice line = .noise := by
  obtain ⟨hword, hsentence, hlocator⟩ := h
  have hbody : ¬ "unformatted:".toList <:+: trim line := fun hinside => hword (hinside.trans (trim_within line))
  have hconcise : shortestPath? conciseTail? [] (trim line) = none := by
    cases hfound : shortestPath? conciseTail? [] (trim line) with
    | none => rfl
    | some found => exact absurd (concise_some hfound).2 hbody
  have hheader : isHeader (trim line) = false := by
    unfold isHeader
    cases hrest : afterWord? "unformatted:".toList (trim line) with
    | none => rfl
    | some rest => exact absurd (List.IsPrefix.isInfix ⟨rest, (afterWord_eq_some_iff.mp hrest).symm⟩) hbody
  have hplace : locator? (trim line) = none := by
    unfold locator?
    cases hrest : afterWord? "-->".toList (trim line) with
    | none => rfl
    | some rest => exact absurd ⟨rest, (afterWord_eq_some_iff.mp hrest).symm⟩ hlocator
  simp [notice, reformat_eq_none hsentence, hconcise, hheader, hplace]

/-! ### Entries -/

/-- The layouts of an announcement: a sentence with the path, a line with path, place and notice, or a notice and
below it a locator, indented by blanks. -/
inductive Layout where
  | sentence
  | concise
  | diagnostic (indent : List Char)

/-- A file that is not formatted, with a place, in a layout. -/
structure Entry where
  path : List Char
  line : Nat
  column : Nat
  layout : Layout

namespace Entry

/-- The sentence of the first layout. -/
def sentenceLine (path : List Char) : List Char := "Would reformat: ".toList ++ path

/-- The line of the second layout. -/
def conciseLine (path : List Char) (line column : Nat) : List Char :=
  path ++ placeText line column ++ ": unformatted: File would be reformatted".toList

/-- The first line of the third layout. -/
def headerLine : List Char := "unformatted: File would be reformatted".toList

/-- The second line of the third layout, without its indent. -/
def locatorLine (path : List Char) (line column : Nat) : List Char :=
  "--> ".toList ++ path ++ placeText line column

/-- The lines that announce an entry. -/
def lines (entry : Entry) : List (List Char) :=
  match entry.layout with
  | .sentence => [sentenceLine entry.path]
  | .concise => [conciseLine entry.path entry.line entry.column]
  | .diagnostic indent => [headerLine, indent ++ locatorLine entry.path entry.line entry.column]

/-- What they announce. -/
def announcement (entry : Entry) : Announcement :=
  match entry.layout with
  | .sentence => ⟨entry.path, none⟩
  | _ => ⟨entry.path, some ⟨natText entry.line, natText entry.column⟩⟩

end Entry

/-- Whether a path can stand in every layout: it is not empty, has no colon and no line break, and does not start or
end with a blank. -/
structure Plain (path : List Char) : Prop where
  filled : path ≠ []
  colon : ':' ∉ path
  lines : ∀ c ∈ path, isLineBreak c = false
  trimmed : trim path = path

theorem unbroken {text : List Char} (h : text.any isLineBreak = false) : ∀ c ∈ text, isLineBreak c = false := by
  simpa using h

variable {path : List Char}

theorem Plain.head (h : Plain path) : ∃ c rest, path = c :: rest ∧ isBlank c = false := by
  obtain ⟨c, rest, rfl⟩ := List.exists_cons_of_ne_nil h.filled
  exact ⟨c, rest, rfl, (trim_eq_self_iff.mp h.trimmed).1 c rfl⟩

theorem Plain.trimStart (h : Plain path) (rest : List Char) : trimStart (path ++ rest) = path ++ rest := by
  obtain ⟨c, more, rfl, hc⟩ := h.head
  exact List.dropWhile_cons_of_neg (by simp [hc])

/-- The digits of a number do not start with a blank. -/
theorem natText_head (n : Nat) : ∃ c rest, natText n = c :: rest ∧ isDecimal c = true := by
  obtain ⟨c, rest, htext⟩ := List.exists_cons_of_ne_nil (Nat.toDigits_ne_nil : natText n ≠ [])
  exact ⟨c, rest, htext, isDecimal_natText (htext ▸ List.mem_cons_self)⟩

/-- A place is made of two colons and digits. -/
theorem placeText_filled (line column : Nat) : ∀ c ∈ placeText line column, isBlank c = false := by
  have hdigits : ∀ n, ∀ c ∈ natText n, isBlank c = false :=
    fun n c hc => isBlank_of_isDigit (isDigit_of_isDecimal (isDecimal_natText hc))
  rw [placeText, List.forall_mem_cons, List.forall_mem_append, List.forall_mem_cons]
  exact ⟨by decide, hdigits line, by decide, hdigits column⟩

theorem count_placeText (line column : Nat) : (placeText line column).count ':' = 2 := by
  have hdigits : ∀ n, (natText n).count ':' = 0 :=
    fun n => List.count_eq_zero.mpr fun hc => absurd (isDecimal_natText hc) (by decide)
  simp [placeText, List.count_append, hdigits]

/-- A word and a blank in front of a text. -/
theorem afterBlanks_cons {c : Char} (hc : isBlank c = true) {rest : List Char} (hrest : trimStart rest = rest)
    (hne : rest ≠ []) : afterBlanks (c :: rest) = [rest] := by
  obtain ⟨d, more, rfl⟩ := List.exists_cons_of_ne_nil hne
  have hd : isBlank d = false := by
    by_contra hblank
    have hlength := congrArg List.length hrest
    rw [trimStart, List.dropWhile_cons_of_pos (by simpa using hblank)] at hlength
    have := (List.dropWhile_suffix isBlank : more.dropWhile isBlank <:+ more).length_le
    simp at hlength
    omega
  simp [afterBlanks, hc, hd]

/-! ### What the lines of an entry say -/

theorem head_sentenceLine (path : List Char) : (Entry.sentenceLine path).head? = some 'W' := by
  have hsplit : "Would reformat: ".toList = 'W' :: "ould reformat: ".toList := by decide
  unfold Entry.sentenceLine
  simp only [hsplit, List.cons_append, List.head?_cons]

theorem reformat_sentenceLine (h : Plain path) : reformat? (Entry.sentenceLine path) = some path := by
  have hsplit : "Would reformat: ".toList = "Would reformat:".toList ++ [' '] := by decide
  have hword : afterWord? "Would reformat:".toList (Entry.sentenceLine path) = some (' ' :: path) :=
    afterWord_eq_some_iff.mpr ((congrArg (· ++ path) hsplit).trans (List.append_assoc _ _ _))
  have hstart : trimStart (' ' :: path) = path := by
    have hpath := h.trimStart []
    rw [List.append_nil] at hpath
    exact (List.dropWhile_cons_of_pos (by decide)).trans hpath
  unfold reformat?
  simp only [hword, Option.bind_eq_bind, Option.bind_some, hstart]
  simp [h.filled]

theorem notice_sentence (h : Plain path) : notice (Entry.sentenceLine path) = .reformat path := by
  have htrim : trim (Entry.sentenceLine path) = Entry.sentenceLine path := by
    refine trim_eq_self_iff.mpr ⟨fun d hd => ?_, fun d hd => ?_⟩
    · rw [head_sentenceLine] at hd
      cases Option.some.inj hd
      decide
    · exact (trim_eq_self_iff.mp h.trimmed).2 d ((List.getLast?_append_of_ne_nil _ h.filled).symm.trans hd)
  unfold notice
  simp only [htrim, reformat_sentenceLine h]

/-- A path with a place is no sentence, since no blank is behind its colon. -/
theorem reformat_of_place (h : Plain path) (line column : Nat) (rest : List Char) :
    reformat? (path ++ placeText line column ++ rest) = none := by
  unfold reformat?
  cases hword : afterWord? "Would reformat:".toList (path ++ placeText line column ++ rest) with
  | none => rfl
  | some after =>
      obtain ⟨c, digits, hdigits, hc⟩ := natText_head line
      have hword := afterWord_eq_some_iff.mp hword
      have hsplit : "Would reformat:".toList ++ after = "Would reformat".toList ++ ':' :: after := by
        have hcolon : "Would reformat:".toList = "Would reformat".toList ++ [':'] := by decide
        exact (congrArg (· ++ after) hcolon).trans (List.append_assoc _ _ _)
      simp only [hsplit, placeText, List.append_assoc, List.cons_append] at hword
      obtain ⟨-, rfl⟩ := append_colon_inj h.colon (by decide) hword
      have hstart : trimStart (natText line ++ ':' :: (natText column ++ rest)) = natText line ++ ':' :: (natText column ++ rest) := by
        rw [hdigits]
        exact List.dropWhile_cons_of_neg (by simp [isBlank_of_isDigit (isDigit_of_isDecimal hc)])
      simp only [Option.bind_eq_bind, Option.bind_some, hstart]
      simp

theorem conciseTail_written (line column : Nat) :
    conciseTail? (placeText line column ++ ": unformatted: File would be reformatted".toList) =
      some ⟨natText line, natText column⟩ := by
  have hsplit : ": unformatted: File would be reformatted".toList =
      ':' :: ' ' :: ("unformatted:".toList ++ " File would be reformatted".toList) := by decide
  have hhead : ∀ d ∈ (':' :: ' ' :: ("unformatted:".toList ++ " File would be reformatted".toList)).head?,
      isDecimal d = false := by
    intro d hd
    cases Option.some.inj hd
    decide
  have hword : (afterBlanks (' ' :: ("unformatted:".toList ++ " File would be reformatted".toList))).any (fun body =>
      (afterWord? "unformatted:".toList body).isSome) = true := by decide
  unfold conciseTail?
  simp only [hsplit, position_written line column hhead]
  exact if_pos hword

theorem notice_concise (h : Plain path) (line column : Nat) :
    notice (Entry.conciseLine path line column) = .located path ⟨natText line, natText column⟩ := by
  have hlast : ": unformatted: File would be reformatted".toList.getLast? = some 'd' := by decide +kernel
  have hnotice : ": unformatted: File would be reformatted".toList ≠ [] := by decide +kernel
  have htrim : trim (Entry.conciseLine path line column) = Entry.conciseLine path line column := by
    refine trim_eq_self_iff.mpr ⟨fun d hd => ?_, fun d hd => ?_⟩
    · refine (trim_eq_self_iff.mp h.trimmed).1 d ?_
      rwa [Entry.conciseLine, List.append_assoc, List.head?_append_of_ne_nil _ h.filled] at hd
    · cases Option.some.inj ((hlast.symm.trans (List.getLast?_append_of_ne_nil _ hnotice).symm).trans hd)
      decide
  have hreformat : reformat? (Entry.conciseLine path line column) = none := reformat_of_place h line column _
  have hconcise : shortestPath? conciseTail? [] (Entry.conciseLine path line column) =
      some (path, ⟨natText line, natText column⟩) := by
    rw [Entry.conciseLine, List.append_assoc]
    exact shortestPath_written head_conciseTail h.colon h.filled (conciseTail_written line column) []
  unfold notice
  simp only [htrim, hreformat, hconcise]

theorem notice_header : notice Entry.headerLine = .header := by cbv

theorem locatorLine_eq (path : List Char) (line column : Nat) :
    Entry.locatorLine path line column = "-->".toList ++ ' ' :: (path ++ placeText line column) := by
  have hsplit : "--> ".toList = "-->".toList ++ [' '] := by decide
  unfold Entry.locatorLine
  simp only [hsplit, List.append_assoc, List.cons_append, List.nil_append]

theorem head_locatorLine (path : List Char) (line column : Nat) : (Entry.locatorLine path line column).head? = some '-' := by
  have hsplit : "-->".toList = '-' :: "->".toList := by decide
  simp only [locatorLine_eq, hsplit, List.cons_append, List.head?_cons]

theorem trim_locatorLine (path : List Char) (line column : Nat) :
    trim (Entry.locatorLine path line column) = Entry.locatorLine path line column := by
  refine trim_eq_self_iff.mpr ⟨fun d hd => ?_, fun d hd => ?_⟩
  · rw [head_locatorLine] at hd
    cases Option.some.inj hd
    decide
  · have hplace : placeText line column ≠ [] := List.cons_ne_nil _ _
    exact placeText_filled line column d (List.mem_of_getLast? ((List.getLast?_append_of_ne_nil _ hplace).symm.trans hd))

theorem locator_locatorLine (h : Plain path) (line column : Nat) :
    locator? (Entry.locatorLine path line column) = some (path, ⟨natText line, natText column⟩) := by
  have hword : afterWord? "-->".toList (Entry.locatorLine path line column) = some (' ' :: (path ++ placeText line column)) :=
    afterWord_eq_some_iff.mpr (locatorLine_eq path line column)
  have htail : finalPosition? (placeText line column) = some ⟨natText line, natText column⟩ := by
    have hposition := position_written line column (by simp : ∀ d ∈ ([] : List Char).head?, isDecimal d = false)
    rw [List.append_nil] at hposition
    simp [finalPosition?, hposition]
  have hblanks : afterBlanks (' ' :: (path ++ placeText line column)) = [path ++ placeText line column] :=
    afterBlanks_cons (by decide) (h.trimStart _) (by simp [h.filled])
  unfold locator?
  simp only [hword, Option.bind_eq_bind, Option.bind_some, hblanks, List.findSome?_cons,
    shortestPath_written head_finalPosition h.colon h.filled htail []]
  rfl

theorem notice_locator (h : Plain path) {indent : List Char} (hindent : ∀ c ∈ indent, isBlank c = true) (line column : Nat) :
    notice (indent ++ Entry.locatorLine path line column) = .locator path ⟨natText line, natText column⟩ := by
  have htrim : trim (indent ++ Entry.locatorLine path line column) = Entry.locatorLine path line column :=
    (trim_append_left hindent _).trans (trim_locatorLine path line column)
  have hstart : ∀ c word rest, Entry.locatorLine path line column = c :: word ++ rest → '-' = c := by
    intro c word rest hsame
    have hhead := head_locatorLine path line column
    rw [hsame] at hhead
    exact (Option.some.inj hhead).symm
  have hreformat : reformat? (Entry.locatorLine path line column) = none := by
    refine reformat_eq_none fun ⟨rest, hsame⟩ => ?_
    have hsplit : "Would reformat:".toList = 'W' :: "ould reformat:".toList := by decide
    exact absurd (hstart 'W' _ rest (by rw [← hsplit, hsame])) (by decide)
  have hcount : (Entry.locatorLine path line column).count ':' = 2 := by
    have harrow : "-->".toList.count ':' = 0 := by decide
    rw [locatorLine_eq, List.count_append, List.count_cons_of_ne (by decide), List.count_append, harrow,
      List.count_eq_zero.mpr h.colon, count_placeText]
  have hconcise : shortestPath? conciseTail? [] (Entry.locatorLine path line column) = none := by
    cases hfound : shortestPath? conciseTail? [] (Entry.locatorLine path line column) with
    | none => rfl
    | some found =>
        have hthree := (concise_some hfound).1
        omega
  have hheader : isHeader (Entry.locatorLine path line column) = false := by
    unfold isHeader
    cases hword : afterWord? "unformatted:".toList (Entry.locatorLine path line column) with
    | none => rfl
    | some rest =>
        have hsplit : "unformatted:".toList = 'u' :: "nformatted:".toList := by decide
        exact absurd (hstart 'u' _ rest (by rw [← hsplit, ← afterWord_eq_some_iff.mp hword])) (by decide)
  unfold notice
  simp [htrim, hreformat, hconcise, hheader, locator_locatorLine h]

/-! ### What entries announce -/

theorem announced_noise {line : List Char} (h : Noise line) (waiting : Bool) : announced waiting line = (none, waiting) := by
  rw [announced, notice_noise h]

/-- Noise may stand anywhere. -/
theorem announcements_filter (lines : List (List Char)) (waiting : Bool) :
    announcements waiting (lines.filter fun line => ¬ Noise line) = announcements waiting lines := by
  induction lines generalizing waiting with
  | nil => rfl
  | cons line lines ih =>
      by_cases hnoise : Noise line
      · rw [List.filter_cons_of_neg (by simpa using hnoise), ih, announcements, announced_noise hnoise]
        rfl
      · rw [List.filter_cons_of_pos (by simpa using hnoise), announcements, announcements, ih]

namespace Entry

/-- Whether an entry can be written: its path can stand in every layout and has no NUL, and it is indented by
blanks. -/
structure Sound (entry : Entry) : Prop where
  plain : Plain entry.path
  legible : Legible (String.ofList entry.path)
  indent : ∀ indent, entry.layout = .diagnostic indent → ∀ c ∈ indent, isBlank c = true ∧ isLineBreak c = false

/-- An entry is announced, whatever stands behind it. -/
theorem announcements_append {entry : Entry} (h : entry.Sound) (waiting : Bool) :
    ∃ after, ∀ rest, announcements waiting (entry.lines ++ rest) = entry.announcement :: announcements after rest := by
  obtain ⟨path, line, column, layout⟩ := entry
  cases layout with
  | sentence =>
      refine ⟨waiting, fun rest => ?_⟩
      simp [lines, announcements, announced, notice_sentence h.plain, announcement]
  | concise =>
      refine ⟨waiting, fun rest => ?_⟩
      simp [lines, announcements, announced, notice_concise h.plain, announcement]
  | diagnostic indent =>
      have hlocator := notice_locator h.plain (fun c hc => (h.indent indent rfl c hc).1) line column
      refine ⟨false, fun rest => ?_⟩
      simp [lines, announcements, announced, notice_header, hlocator, announcement]

/-- The lines of entries announce them one by one. -/
theorem announcements_lines {entries : List Entry} (h : ∀ entry ∈ entries, entry.Sound) (waiting : Bool) :
    announcements waiting (entries.flatMap lines) = entries.map announcement := by
  induction entries generalizing waiting with
  | nil => rfl
  | cons entry entries ih =>
      obtain ⟨hentry, hentries⟩ := List.forall_mem_cons.mp h
      obtain ⟨after, hafter⟩ := announcements_append hentry waiting
      rw [List.flatMap_cons, hafter, ih hentries, List.map_cons]

/-! ### Written entries -/

/-- The lines of an entry are lines, and no noise. -/
theorem line_of_lines {entry : Entry} (h : entry.Sound) {line : List Char} (hin : line ∈ entry.lines) :
    (∀ c ∈ line, isLineBreak c = false) ∧ ¬ Noise line := by
  have hplace : ∀ c ∈ placeText entry.line entry.column, isLineBreak c = false := by
    intro c hc
    by_contra hbreak
    exact absurd (isBlank_of_isLineBreak (by simpa using hbreak)) (by simp [placeText_filled _ _ c hc])
  obtain ⟨path, row, column, layout⟩ := entry
  cases layout with
  | sentence =>
      obtain rfl := List.mem_singleton.mp hin
      refine ⟨List.forall_mem_append.mpr ⟨unbroken (by decide), h.plain.lines⟩, fun hnoise => ?_⟩
      exact absurd (notice_noise hnoise) (by simp [notice_sentence h.plain])
  | concise =>
      obtain rfl := List.mem_singleton.mp hin
      refine ⟨List.forall_mem_append.mpr ⟨List.forall_mem_append.mpr ⟨h.plain.lines, hplace⟩, unbroken (by decide)⟩, fun hnoise => ?_⟩
      exact absurd (notice_noise hnoise) (by simp [notice_concise h.plain])
  | diagnostic indent =>
      have hblank := h.indent indent rfl
      rcases List.mem_pair.mp hin with rfl | rfl
      · refine ⟨unbroken (by decide), fun hnoise => ?_⟩
        exact absurd (notice_noise hnoise) (by simp [notice_header])
      · refine ⟨?_, fun hnoise => ?_⟩
        · refine List.forall_mem_append.mpr ⟨fun c hc => (hblank c hc).2, ?_⟩
          exact List.forall_mem_append.mpr ⟨List.forall_mem_append.mpr ⟨unbroken (by decide), h.plain.lines⟩, hplace⟩
        · exact absurd (notice_noise hnoise) (by simp [notice_locator h.plain fun c hc => (hblank c hc).1])

/-- Entries written one after the other. -/
def written (entries : List Entry) : String :=
  String.ofList ((entries.flatMap lines).flatMap fun line => line ++ ['\n'])

theorem lines_written_entries {entries : List Entry} (h : ∀ entry ∈ entries, entry.Sound) :
    ((Text.lines (written entries).toList).filter fun line => ¬ Noise line) = entries.flatMap lines := by
  have hlines : ∀ line ∈ entries.flatMap lines, (∀ c ∈ line, isLineBreak c = false) ∧ ¬ Noise line := by
    intro line hin
    obtain ⟨entry, hentry, hline⟩ := List.mem_flatMap.mp hin
    exact line_of_lines (h entry hentry) hline
  rw [written, String.toList_ofList, lines_written fun line hin => (hlines line hin).1, List.filter_eq_self]
  exact fun line hin => decide_eq_true (hlines line hin).2

/-! ### The warning of an entry -/

variable {disk : Disk} {cwd : Path} {tool : String}

/-- The file that an entry is about, absolute. -/
def file (disk : Disk) (cwd : Path) (entry : Entry) : Except Fault String :=
  disk.normalizePath (cwd.under (Path.ofText (String.ofList entry.path)))

/-- Where an entry places its warning: a sentence does so at the start of the file. -/
def place (entry : Entry) : Nat × Nat :=
  match entry.layout with
  | .sentence => (1, 1)
  | _ => (entry.line, entry.column)

/-- The warning of an entry, on a file. -/
def warning (tool : String) (entry : Entry) (file : String) : Issue :=
  { kind := .format
    severity := .warning
    file
    line := entry.place.1
    column := entry.place.2
    endLine := none
    endColumn := none
    rule := some "format"
    message := "File is not formatted"
    suggestion := some "Run the formatter to rewrite the file"
    tool := some tool }

/-- Whether a warning can be made of an entry: no number that is written has too many digits, and the path does not
start in the home directory of a user who does not exist. -/
structure Readable (disk : Disk) (cwd : Path) (entry : Entry) : Prop where
  short : entry.layout ≠ .sentence → entry.line < 10 ^ maxDigits ∧ entry.column < 10 ^ maxDigits
  known : (cwd.under (Path.ofText (String.ofList entry.path))).Known disk.users

theorem path_announcement (entry : Entry) : entry.announcement.path = entry.path := by
  unfold announcement
  split <;> rfl

theorem announcement_placed {entry : Entry} (h : entry.layout ≠ .sentence) :
    entry.announcement.position = some ⟨natText entry.line, natText entry.column⟩ := by
  unfold announcement
  split
  · rename_i hlayout
    exact absurd hlayout h
  · rfl

theorem length_natText (n : Nat) : (natText n).length ≤ maxDigits ↔ n < 10 ^ maxDigits :=
  Nat.length_toDigits_le_iff (by decide) (by decide)

theorem readable_announcement (entry : Entry) :
    Findings.Readable disk cwd entry.announcement.path entry.announcement.position ↔ entry.Readable disk cwd := by
  have hshort : (∀ place ∈ entry.announcement.position, place.Short) ↔
      (entry.layout ≠ .sentence → entry.line < 10 ^ maxDigits ∧ entry.column < 10 ^ maxDigits) := by
    by_cases hlayout : entry.layout = .sentence
    · simp [announcement, hlayout]
    · rw [announcement_placed hlayout]
      simp only [Option.mem_some_iff, forall_eq', Position.Short, length_natText, ne_eq, hlayout, not_false_eq_true,
        forall_const]
  rw [path_announcement]
  exact ⟨fun h => ⟨hshort.mp h.short, h.known⟩, fun h => ⟨hshort.mpr h.short, h.known⟩⟩

theorem told_announcement (entry : Entry) :
    entry.announcement.told disk cwd tool = entry.warning tool (entry.announcement.told disk cwd tool).file := by
  obtain ⟨path, line, column, layout⟩ := entry
  cases layout <;>
    simp [Announcement.told, Finding.told, warning, place, announcement, Announcement.finding, notFormatted,
      Position.row, Position.place, natOfDigits_values, formatRule]

theorem file_announcement {entry : Entry} (hdisk : disk.Legible) (hcwd : cwd.Legible) (hsound : entry.Sound)
    (hknown : (cwd.under (Path.ofText (String.ofList entry.path))).Known disk.users) :
    entry.file disk cwd = .ok (entry.announcement.told disk cwd tool).file := by
  have hpath : (cwd.under (Path.ofText (String.ofList entry.path))).Legible :=
    hcwd.under (Path.legible_ofText hsound.legible)
  obtain ⟨file, hfile⟩ := (Disk.normalizePath_ok_iff hdisk hpath).mpr hknown
  have hplace : (entry.announcement.finding cwd tool).place disk = file := by
    rw [Finding.place, Announcement.finding, notFormatted, path_announcement, hfile]
    rfl
  rw [Announcement.told, Finding.told, hplace]
  exact hfile

end Entry

/-! ### The first issue of each file -/

theorem files_firstOfFile (issues : List Issue) : (firstOfFile issues).map Issue.file = firsts (issues.map Issue.file) := by
  have hstep : ∀ known issue, (withFirst known issue).map Issue.file =
      if (known.map Issue.file).contains issue.file then known.map Issue.file else known.map Issue.file ++ [issue.file] := by
    intro known issue
    have hsame : (known.map Issue.file).contains issue.file = known.any fun other => other.file == issue.file := by
      rw [Bool.eq_iff_iff]
      simp only [List.contains_iff_mem, List.mem_map, List.any_eq_true, beq_iff_eq]
    rw [withFirst, hsame]
    split <;> simp
  rw [firstOfFile, firsts, List.foldl_map]
  exact (List.foldl_hom (List.map Issue.file) fun known issue => (hstep known issue).symm).symm

/-- No issue before a first one is in its file. -/
theorem first_of_mem_firstOfFile {issues : List Issue} {issue : Issue} (h : issue ∈ firstOfFile issues) :
    ∃ before after, issues = before ++ issue :: after ∧ ∀ earlier ∈ before, earlier.file ≠ issue.file := by
  induction issues using List.reverseRecOn with
  | nil => exact absurd h List.not_mem_nil
  | append_singleton issues last ih =>
      have hlast : firstOfFile (issues ++ [last]) = withFirst (firstOfFile issues) last := by
        rw [firstOfFile, List.foldl_append]
        rfl
      have hearlier : issue ∈ firstOfFile issues → ∃ before after, issues ++ [last] = before ++ issue :: after ∧
          ∀ earlier ∈ before, earlier.file ≠ issue.file := by
        intro hin
        obtain ⟨before, after, hsplit, hfirst⟩ := ih hin
        exact ⟨before, after ++ [last], by rw [hsplit, List.append_assoc, List.cons_append], hfirst⟩
      rw [hlast, withFirst] at h
      split at h
      · exact hearlier h
      · rename_i hnew
        rcases List.mem_append.mp h with hin | hin
        · exact hearlier hin
        · obtain rfl := List.mem_singleton.mp hin
          refine ⟨issues, [], rfl, fun earlier hin hsame => hnew ?_⟩
          have hfile : issue.file ∈ (firstOfFile issues).map Issue.file := by
            rw [files_firstOfFile, mem_firsts]
            exact List.mem_map.mpr ⟨earlier, hin, hsame⟩
          obtain ⟨known, hknown, hfile⟩ := List.mem_map.mp hfile
          exact List.any_eq_true.mpr ⟨known, hknown, by simp [hfile]⟩

/-! ### Layouts -/

theorem warnedOf_entries {entries : List Entry} (hsound : ∀ entry ∈ entries, entry.Sound) {output : String}
    (hlines : ((lines output.toList).filter fun line => ¬ Noise line) = entries.flatMap Entry.lines) :
    warnedOf output = entries.map Entry.announcement := by
  rw [warnedOf, ← announcements_filter, hlines, Entry.announcements_lines hsound]

/-- What comes of an output that announces entries, whatever else it says. -/
theorem ofFormatOutput_entries {disk : Disk} {cwd : Path} {tool : String} (hdisk : disk.Legible) (hcwd : cwd.Legible)
    {entries : List Entry} (hsound : ∀ entry ∈ entries, entry.Sound) {output : String}
    (hlines : ((lines output.toList).filter fun line => ¬ Noise line) = entries.flatMap Entry.lines) {issues : List Issue} :
    ofFormatOutput disk cwd tool output "" = .ok issues ↔ (∀ entry ∈ entries, entry.Readable disk cwd) ∧
      issues = firstOfFile (entries.map fun entry => entry.announcement.told disk cwd tool) := by
  have hwarned := warnedOf_entries hsound hlines
  have hfailed : failuresOf "" = [] := rfl
  rw [ofFormatOutput_ok_iff hdisk hcwd, hwarned, hfailed]
  · rw [List.forall_mem_map, List.map_map, List.map_nil, List.append_nil]
    refine and_congr (forall₂_congr fun entry _ => Entry.readable_announcement entry) ?_
    exact and_iff_right (List.forall_mem_nil _)
  · rw [hwarned, List.forall_mem_map]
    exact fun entry hentry => (Entry.path_announcement entry).symm ▸ (hsound entry hentry).legible
  · rw [hfailed]
    exact List.forall_mem_nil _

/-- **Layouts are read back.**  The lines of an output that are no noise are those of entries, each in any layout, and
no name on the disk or in the directory of the formatter has a NUL.  Then there are issues exactly if every entry is
readable, and they are one warning for each file, in the order in which the files are first named, at the place of
the first entry on the file. -/
theorem layouts_read_back {disk : Disk} {cwd : Path} (tool : String) (hdisk : disk.Legible) (hcwd : cwd.Legible)
    {entries : List Entry} (hsound : ∀ entry ∈ entries, entry.Sound) {output : String}
    (hlines : ((lines output.toList).filter fun line => ¬ Noise line) = entries.flatMap Entry.lines) :
    ((∃ issues, ofFormatOutput disk cwd tool output "" = .ok issues) ↔ ∀ entry ∈ entries, entry.Readable disk cwd) ∧
    ∀ issues, ofFormatOutput disk cwd tool output "" = .ok issues →
      ∃ files, entries.mapM (Entry.file disk cwd) = .ok files ∧ issues.map Issue.file = firsts files ∧
        ∀ issue ∈ issues, ∃ before entry after, entries = before ++ entry :: after ∧
          entry.file disk cwd = .ok issue.file ∧ (∀ earlier ∈ before, earlier.file disk cwd ≠ .ok issue.file) ∧
          issue = entry.warning tool issue.file := by
  have hok : ∀ issues, ofFormatOutput disk cwd tool output "" = .ok issues ↔ (∀ entry ∈ entries, entry.Readable disk cwd) ∧
      issues = firstOfFile (entries.map fun entry => entry.announcement.told disk cwd tool) :=
    fun _ => ofFormatOutput_entries hdisk hcwd hsound hlines
  constructor
  · constructor
    · rintro ⟨issues, h⟩
      exact ((hok issues).mp h).1
    · exact fun hreadable => ⟨_, (hok _).mpr ⟨hreadable, rfl⟩⟩
  · intro issues h
    obtain ⟨hreadable, rfl⟩ := (hok issues).mp h
    have hfile : ∀ entry ∈ entries, entry.file disk cwd = .ok (entry.announcement.told disk cwd tool).file :=
      fun entry hentry => Entry.file_announcement hdisk hcwd (hsound entry hentry) (hreadable entry hentry).known
    refine ⟨entries.map fun entry => (entry.announcement.told disk cwd tool).file, ?_, ?_, fun issue hin => ?_⟩
    · rw [mapM_ok_iff, List.forall₂_map_right_iff, List.forall₂_same]
      exact hfile
    · rw [files_firstOfFile, List.map_map]
      rfl
    · obtain ⟨before, after, hsplit, hfirst⟩ := first_of_mem_firstOfFile hin
      obtain ⟨start, rest, rfl, rfl, hrest⟩ := List.map_eq_append_iff.mp hsplit
      obtain ⟨entry, behind, rfl, rfl, -⟩ := List.map_eq_cons_iff.mp hrest
      refine ⟨start, entry, behind, rfl, hfile entry (by simp), fun earlier hearlier hsame => ?_, ?_⟩
      · rw [hfile earlier (List.mem_append_left _ hearlier)] at hsame
        exact hfirst _ (List.mem_map_of_mem hearlier) (Except.ok.inj hsame)
      · exact Entry.told_announcement entry

/-- An entry with a row of one digit too many. -/
def tooLong : Entry := ⟨"a.py".toList, 10 ^ maxDigits, 1, .concise⟩

/-- An entry in the home directory of a user who need not exist. -/
def elsewhere : Entry := ⟨"~other/a.py".toList, 1, 1, .sentence⟩

theorem plain_name : Plain "a.py".toList := ⟨by decide, by decide, unbroken (by decide), by decide⟩

/-- Two entries that can be written, and an output of each that is refused. -/
theorem sound_entries_refused :
    tooLong.Sound ∧ elsewhere.Sound ∧ (Disk.empty [] []).Legible ∧ (Path.ofText "/p").Legible ∧ (Path.ofText ".").Legible ∧
      (¬ ∃ issues, ofFormatOutput (Disk.empty [] []) (Path.ofText "/p") "ruff-format" (Entry.written [tooLong]) "" =
        .ok issues) ∧
      ¬ ∃ issues, ofFormatOutput (Disk.empty [] []) (Path.ofText ".") "ruff-format" (Entry.written [elsewhere]) "" =
        .ok issues := by
  have hdisk : (Disk.empty [] []).Legible := Disk.legible_empty (List.forall_mem_nil _) (List.forall_mem_nil _)
  have hcwd : (Path.ofText "/p").Legible := Path.legible_ofText (by decide)
  have hhere : (Path.ofText ".").Legible := Path.legible_ofText (by decide)
  have hlong : tooLong.Sound := ⟨plain_name, by decide, fun indent h => by cases h⟩
  have helsewhere : elsewhere.Sound :=
    ⟨⟨by decide, by decide, unbroken (by decide), by decide⟩, by decide, fun indent h => by cases h⟩
  refine ⟨hlong, helsewhere, hdisk, hcwd, hhere, ?_, ?_⟩
  · rintro ⟨issues, h⟩
    have hsound := List.forall_mem_singleton.mpr hlong
    have hreadable := ((ofFormatOutput_entries hdisk hcwd hsound (Entry.lines_written_entries hsound)).mp h).1
    exact absurd ((hreadable tooLong List.mem_cons_self).short (by simp [tooLong])).1 (lt_irrefl _)
  · rintro ⟨issues, h⟩
    have hsound := List.forall_mem_singleton.mpr helsewhere
    have hreadable := ((ofFormatOutput_entries hdisk hhere hsound (Entry.lines_written_entries hsound)).mp h).1
    have hknown := (hreadable elsewhere List.mem_cons_self).known
    exact absurd (hknown (by decide) "~other" (by decide) (by decide)) (by decide)

/-- A sentence, a notice with its locator below, and a line on the file of the sentence. -/
def mixed : List Entry :=
  [⟨"a.py".toList, 9, 9, .sentence⟩, ⟨"b.py".toList, 3, 7, .diagnostic "  ".toList⟩, ⟨"a.py".toList, 2, 5, .concise⟩]

/-- The entries with other lines before and between. -/
def mixedOutput : String :=
  "Checking\nWould reformat: a.py\n\nunformatted: File would be reformatted\n |\n  --> b.py:3:7\n" ++
    "a.py:2:5: unformatted: File would be reformatted"

theorem filter_mixedOutput : ((lines mixedOutput.toList).filter fun line => ¬ Noise line) = mixed.flatMap Entry.lines := by
  decide +kernel

/-- Three entries in three layouts are two warnings. -/
theorem layouts_read_back_mixed :
    (Disk.empty [] []).Legible ∧ (Path.ofText "/p").Legible ∧ (∀ entry ∈ mixed, entry.Sound) ∧
      ((lines mixedOutput.toList).filter fun line => ¬ Noise line) = mixed.flatMap Entry.lines ∧
      ofFormatOutput (Disk.empty [] []) (Path.ofText "/p") "ruff-format" mixedOutput "" =
        .ok [⟨.format, .warning, "/p/a.py", 1, 1, none, none, some "format", "File is not formatted",
            some "Run the formatter to rewrite the file", some "ruff-format"⟩,
          ⟨.format, .warning, "/p/b.py", 3, 7, none, none, some "format", "File is not formatted",
            some "Run the formatter to rewrite the file", some "ruff-format"⟩] := by
  have hdisk : (Disk.empty [] []).Legible := Disk.legible_empty (List.forall_mem_nil _) (List.forall_mem_nil _)
  have hcwd : (Path.ofText "/p").Legible := Path.legible_ofText (by decide)
  have hother : Plain "b.py".toList := ⟨by decide, by decide, unbroken (by decide), by decide⟩
  have hindent : ∀ c ∈ "  ".toList, isBlank c = true ∧ isLineBreak c = false := by simp; decide
  have hsound : ∀ entry ∈ mixed, entry.Sound := by
    refine List.forall_mem_cons.mpr ⟨⟨plain_name, by decide, fun indent h => by cases h⟩, ?_⟩
    refine List.forall_mem_cons.mpr ⟨⟨hother, by decide, fun indent h => by cases h; exact hindent⟩, ?_⟩
    exact List.forall_mem_singleton.mpr ⟨plain_name, by decide, fun indent h => by cases h⟩
  have hreadable : ∀ entry ∈ mixed, entry.Readable (Disk.empty [] []) (Path.ofText "/p") := by
    have hsmall : ∀ n, n < 10 → n < 10 ^ maxDigits := fun n h => h.trans_le (Nat.le_self_pow (by decide) 10)
    have habsolute : ∀ path, ((Path.ofText "/p").under path).Known [] := Path.known_under (by decide)
    refine List.forall_mem_cons.mpr ⟨⟨fun h => absurd rfl h, habsolute _⟩, ?_⟩
    refine List.forall_mem_cons.mpr ⟨⟨fun _ => ⟨hsmall 3 (by decide), hsmall 7 (by decide)⟩, habsolute _⟩, ?_⟩
    exact List.forall_mem_singleton.mpr ⟨fun _ => ⟨hsmall 2 (by decide), hsmall 5 (by decide)⟩, habsolute _⟩
  obtain ⟨hanswer, htold⟩ := layouts_read_back "ruff-format" hdisk hcwd hsound filter_mixedOutput
  refine ⟨hdisk, hcwd, hsound, filter_mixedOutput, ?_⟩
  obtain ⟨issues, hissues⟩ := hanswer.mpr hreadable
  obtain ⟨files, hfiles, hfirsts, hfirst⟩ := htold issues hissues
  have hplace : (Disk.empty [] []).normalizePath ((Path.ofText "/p").under (Path.ofText (String.ofList "a.py".toList))) =
      .ok "/p/a.py" :=
    (Disk.normalizePath_downward rfl (by decide) (by decide)).trans (congrArg Except.ok (by decide))
  have hotherPlace : (Disk.empty [] []).normalizePath ((Path.ofText "/p").under (Path.ofText (String.ofList "b.py".toList))) =
      .ok "/p/b.py" :=
    (Disk.normalizePath_downward rfl (by decide) (by decide)).trans (congrArg Except.ok (by decide))
  have ha : ∀ line column layout, Entry.file (Disk.empty [] []) (Path.ofText "/p") ⟨"a.py".toList, line, column, layout⟩ =
      .ok "/p/a.py" := fun _ _ _ => hplace
  have hb : ∀ line column layout, Entry.file (Disk.empty [] []) (Path.ofText "/p") ⟨"b.py".toList, line, column, layout⟩ =
      .ok "/p/b.py" := fun _ _ _ => hotherPlace
  have hnamed : mixed.mapM (Entry.file (Disk.empty [] []) (Path.ofText "/p")) = .ok ["/p/a.py", "/p/b.py", "/p/a.py"] :=
    mapM_ok_iff.mpr (.cons (ha ..) (.cons (hb ..) (.cons (ha ..) .nil)))
  have htwo : firsts files = ["/p/a.py", "/p/b.py"] := by
    rw [Except.ok.inj (hfiles.symm.trans hnamed)]
    rfl
  rw [htwo] at hfirsts
  obtain ⟨first, rest, rfl, hfirstFile, hrest⟩ := List.map_eq_cons_iff.mp hfirsts
  obtain ⟨second, others, rfl, hsecondFile, hothers⟩ := List.map_eq_cons_iff.mp hrest
  obtain rfl := List.map_eq_nil_iff.mp hothers
  -- The first entry is on the first file; the second is on the other, and no entry before it.
  have hleft : first = Entry.warning "ruff-format" ⟨"a.py".toList, 9, 9, .sentence⟩ "/p/a.py" := by
    obtain ⟨before, entry, after, hsplit, -, hearlier, hwarning⟩ := hfirst first (by simp)
    rw [hfirstFile] at hearlier hwarning
    cases before with
    | nil => rw [hwarning, ← (List.cons.inj hsplit).1]
    | cons one before => exact absurd (ha ..) ((List.cons.inj hsplit).1 ▸ hearlier one List.mem_cons_self)
  have hright : second = Entry.warning "ruff-format" ⟨"b.py".toList, 3, 7, .diagnostic "  ".toList⟩ "/p/b.py" := by
    obtain ⟨before, entry, after, hsplit, hfile, hearlier, hwarning⟩ := hfirst second (by simp)
    rw [hsecondFile] at hfile hearlier hwarning
    rcases before with _ | ⟨one, _ | ⟨two, before⟩⟩
    · rw [← (List.cons.inj hsplit).1] at hfile
      exact absurd (Except.ok.inj ((ha ..).symm.trans hfile)) (by decide)
    · rw [hwarning, ← (List.cons.inj (List.cons.inj hsplit).2).1]
    · exact absurd (hb ..) ((List.cons.inj (List.cons.inj hsplit).2).1 ▸ hearlier two (by simp))
  rw [hissues, hleft, hright]
  rfl

end FixFirst.Findings
