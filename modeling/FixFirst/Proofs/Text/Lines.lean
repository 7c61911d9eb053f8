import Mathlib
import FixFirst.Text.Blank
import FixFirst.Text.Lines

/-!
# What the lines of a text hold

Many readers look at the lines of a text one by one, without the blanks around them, and skip the lines that
hold nothing.  What they see depends neither on blanks around the text nor on how its lines end.

## Main definitions

* `bodies` — the lines of a text without the blanks around them, those that hold nothing left out.

## Main statements

* `bodies_append_break` — a line break separates what the lines before it hold from what the others hold.
* `bodies_trim` — blanks around a text do not matter.
* `trim_of_bodies` — how a text starts with what its first line holds.
-/

namespace FixFirst.Text

/-- A character that ends a line is blank. -/
theorem isBlank_of_isLineBreak {c : Char} (h : isLineBreak c = true) : isBlank c = true := by
  simp only [isLineBreak, lineBreaks, isBlank, blanks, within_cons, within_nil, Bool.or_eq_true, Bool.and_eq_true,
    decide_eq_true_eq, Bool.false_eq_true, or_false] at h ⊢
  omega

/-! ### Blanks around a text -/

theorem trim_eq_nil_iff {text : List Char} : trim text = [] ↔ ∀ c ∈ text, isBlank c = true := by
  unfold trim
  rw [show trimEnd (trimStart text) = (trimStart text).rdropWhile isBlank from rfl, List.rdropWhile_eq_nil_iff]
  constructor
  · intro h c hc
    by_contra hplain
    have hin : c ∈ trimStart text := by
      rw [← List.takeWhile_append_dropWhile (p := isBlank) (l := text), List.mem_append] at hc
      exact hc.resolve_left fun htaken => hplain (List.mem_takeWhile_imp htaken)
    exact hplain (h c hin)
  · exact fun h c hc => h c (List.dropWhile_subset _ hc)

/-- Whether a text holds something: a character that is not blank. -/
def Filled (text : List Char) : Prop := ∃ c ∈ text, isBlank c = false

theorem not_filled_iff {text : List Char} : ¬ Filled text ↔ ∀ c ∈ text, isBlank c = true := by
  simp [Filled]

theorem filled_iff {text : List Char} : Filled text ↔ trim text ≠ [] := by
  rw [Ne, trim_eq_nil_iff, ← not_filled_iff, not_not]

theorem trimStart_append {text : List Char} (h : Filled text) (rest : List Char) :
    trimStart (text ++ rest) = trimStart text ++ rest := by
  obtain ⟨c, hc, hplain⟩ := h
  have hsome : (text.dropWhile isBlank).isEmpty = false := by
    rw [List.isEmpty_eq_false_iff, Ne, List.dropWhile_eq_nil_iff]
    exact fun hall => by simp [hall c hc] at hplain
  unfold trimStart
  rw [List.dropWhile_append, hsome]
  rfl

theorem trimEnd_append {rest : List Char} (h : Filled rest) (text : List Char) :
    trimEnd (text ++ rest) = text ++ trimEnd rest := by
  have hfilled : Filled rest.reverse := by simpa [Filled] using h
  have hstart := trimStart_append hfilled text.reverse
  unfold trimStart at hstart
  unfold trimEnd
  rw [List.reverse_append, hstart]
  simp

theorem trim_append_left {gap : List Char} (h : ∀ c ∈ gap, isBlank c = true) (rest : List Char) :
    trim (gap ++ rest) = trim rest := by
  unfold trim trimStart
  rw [List.dropWhile_append_of_pos h]

theorem trim_append_right (text : List Char) {gap : List Char} (h : ∀ c ∈ gap, isBlank c = true) :
    trim (text ++ gap) = trim text := by
  by_cases hfilled : Filled text
  · unfold trim
    rw [trimStart_append hfilled]
    unfold trimEnd
    rw [List.reverse_append, List.dropWhile_append_of_pos fun c hc => h c (List.mem_reverse.mp hc)]
  · have hblank := not_filled_iff.mp hfilled
    rw [trim_eq_nil_iff.mpr hblank, trim_eq_nil_iff]
    simpa [or_imp, forall_and] using ⟨hblank, h⟩

theorem filled_trimEnd {text : List Char} (h : Filled text) : Filled (trimEnd text) := by
  obtain ⟨c, hc, hplain⟩ := h
  refine ⟨c, ?_, hplain⟩
  have hsplit : trimEnd text ++ text.rtakeWhile isBlank = text := List.rdropWhile_append_rtakeWhile
  rw [← hsplit, List.mem_append] at hc
  exact hc.resolve_right fun hend => by simp [List.mem_rtakeWhile_imp hend] at hplain

/-- Blanks stand between what a text holds and what follows it, or nothing. -/
theorem trim_append {text rest : List Char} (h : Filled text) (hrest : Filled rest) :
    ∃ gap, (∀ c ∈ gap, isBlank c = true) ∧ trim (text ++ rest) = trim text ++ (gap ++ trimEnd rest) := by
  refine ⟨(trimStart text).rtakeWhile isBlank, fun c hc => List.mem_rtakeWhile_imp hc, ?_⟩
  unfold trim
  rw [trimStart_append h, trimEnd_append hrest, ← List.append_assoc]
  congr 1
  exact List.rdropWhile_append_rtakeWhile.symm

/-- What a text holds stands between blanks. -/
theorem trim_between (text : List Char) :
    ∃ before after, (∀ c ∈ before, isBlank c = true) ∧ (∀ c ∈ after, isBlank c = true) ∧
      text = before ++ (trim text ++ after) := by
  refine ⟨text.takeWhile isBlank, (trimStart text).rtakeWhile isBlank, fun c hc => List.mem_takeWhile_imp hc,
    fun c hc => List.mem_rtakeWhile_imp hc, ?_⟩
  have hend : trim text ++ (trimStart text).rtakeWhile isBlank = trimStart text := List.rdropWhile_append_rtakeWhile
  rw [hend]
  exact List.takeWhile_append_dropWhile.symm

/-- What starts and ends with no blank is not trimmed, and nothing else. -/
theorem trim_eq_self_iff {text : List Char} :
    trim text = text ↔ (∀ c ∈ text.head?, isBlank c = false) ∧ ∀ c ∈ text.getLast?, isBlank c = false := by
  have hstart : trimStart text = text ↔ ∀ c ∈ text.head?, isBlank c = false := by
    unfold trimStart
    rw [List.dropWhile_eq_self_iff]
    cases text <;> simp
  have hend : trimEnd text = text ↔ ∀ c ∈ text.getLast?, isBlank c = false := by
    refine List.rdropWhile_eq_self_iff.trans ?_
    cases text using List.reverseRecOn <;> simp
  rw [← hstart, ← hend]
  constructor
  · intro h
    have hsuffix : trimStart text <:+ text := List.dropWhile_suffix _
    have hprefix : trim text <+: trimStart text := List.rdropWhile_prefix _ _
    have hlength : text.length ≤ (trimStart text).length := (congrArg List.length h).ge.trans hprefix.length_le
    have hsame : trimStart text = text := hsuffix.eq_of_length_le hlength
    refine ⟨hsame, ?_⟩
    rw [trim, hsame] at h
    exact h
  · rintro ⟨hfirst, hlast⟩
    rw [trim, hfirst, hlast]

theorem trim_cons {c : Char} (h : isBlank c = false) (rest : List Char) : ∃ more, trim (c :: rest) = c :: more := by
  have hstart : trimStart (c :: rest) = c :: rest := by simp [trimStart, h]
  unfold trim
  rw [hstart]
  by_cases hrest : Filled rest
  · exact ⟨_, trimEnd_append hrest [c]⟩
  · refine ⟨[], ?_⟩
    have hblank : ∀ d ∈ rest.reverse, isBlank d = true := fun d hd => not_filled_iff.mp hrest d (List.mem_reverse.mp hd)
    simp [trimEnd, List.dropWhile_append_of_pos hblank, h]

/-- A text without blanks is not trimmed. -/
theorem trim_of_plain {text : List Char} (h : ∀ c ∈ text, isBlank c = false) : trim text = text :=
  trim_eq_self_iff.mpr ⟨fun c hc => h c (List.mem_of_mem_head? hc), fun c hc => h c (List.mem_of_mem_getLast? hc)⟩

theorem trim_trim (text : List Char) : trim (trim text) = trim text := by
  cases hstart : trimStart text with
  | nil =>
      have hnone : trim text = [] := by rw [trim, hstart]; rfl
      rw [hnone]
      rfl
  | cons c rest =>
      have hplain : isBlank c = false := by
        have hdrop : text.dropWhile isBlank = c :: rest := hstart
        simpa [hdrop] using List.head_dropWhile_not isBlank (l := text) (by simp [hdrop])
      have hself : trim (c :: rest) = trim text := by
        unfold trim
        rw [hstart, trimStart, List.dropWhile_cons_of_neg (by simp [hplain])]
      obtain ⟨more, hmore⟩ := trim_cons hplain rest
      rw [← hself, hmore]
      unfold trim
      rw [trimStart, List.dropWhile_cons_of_neg (by simp [hplain]), ← hmore]
      unfold trim
      exact List.rdropWhile_idempotent _ _

/-! ### Lines -/

/-- A text is one line, or a line with its end and another text. -/
theorem induction_on_lines {motive : List Char → Prop}
    (single : ∀ line, (∀ c ∈ line, isLineBreak c = false) → motive line)
    (more : ∀ line c rest, (∀ d ∈ line, isLineBreak d = false) → isLineBreak c = true → motive rest →
      motive (line ++ c :: rest)) (text : List Char) : motive text := by
  induction hlength : text.length using Nat.strong_induction_on generalizing text with
  | _ n ih =>
      have hsplit := List.takeWhile_append_dropWhile (p := fun c => !isLineBreak c) (l := text)
      have hline : ∀ c ∈ text.takeWhile fun c => !isLineBreak c, isLineBreak c = false :=
        fun c hc => by simpa using List.mem_takeWhile_imp hc
      cases hrest : text.dropWhile fun c => !isLineBreak c with
      | nil =>
          rw [hrest, List.append_nil] at hsplit
          exact single text (hsplit ▸ hline)
      | cons c rest =>
          have hbreak : isLineBreak c = true := by
            simpa [hrest] using List.head_dropWhile_not (fun c => !isLineBreak c) (l := text) (by simp [hrest])
          rw [hrest] at hsplit
          rw [← hsplit]
          refine more _ c rest hline hbreak (ih _ ?_ rest rfl)
          rw [← hlength, ← hsplit]
          simp
          omega

theorem lines_cons {c : Char} (h : isLineBreak c = false) (rest : List Char) :
    lines (c :: rest) = (c :: (lines rest).headD []) :: (lines rest).tail := by
  rw [lines]
  · cases lines rest <;> simp [h]
  · rintro others rfl
    exact absurd h (by decide)

/-- A text without a line break is one line, or nothing. -/
theorem lines_of_line {line : List Char} (h : ∀ c ∈ line, isLineBreak c = false) :
    lines line = if line.isEmpty then [] else [line] := by
  induction line with
  | nil => rfl
  | cons c line ih =>
      rw [lines_cons (h c List.mem_cons_self), ih fun d hd => h d (List.mem_cons_of_mem c hd)]
      cases line <;> rfl

/-- A line feed after a carriage return belongs to it. -/
theorem lines_break {c : Char} (h : isLineBreak c = true) (rest : List Char) :
    lines (c :: rest) = [] :: lines rest ∨
      ∃ after, c = '\r' ∧ rest = '\n' :: after ∧ lines (c :: rest) = [] :: lines after := by
  by_cases hpair : c = '\r' ∧ ∃ after, rest = '\n' :: after
  · obtain ⟨rfl, after, rfl⟩ := hpair
    exact Or.inr ⟨after, rfl, rfl, by rw [lines]⟩
  · refine Or.inl ?_
    rw [lines]
    · simp [h]
    · rintro after rfl rfl
      exact hpair ⟨rfl, after, rfl⟩

theorem lines_append_break {line : List Char} (hline : ∀ c ∈ line, isLineBreak c = false) {c : Char}
    (hc : isLineBreak c = true) (rest : List Char) :
    ∃ others, lines (line ++ c :: rest) = line :: others ∧ lines (c :: rest) = [] :: others := by
  induction line with
  | nil =>
      rcases lines_break hc rest with hlines | ⟨after, -, -, hlines⟩
      · exact ⟨_, hlines, hlines⟩
      · exact ⟨_, hlines, hlines⟩
  | cons d line ih =>
      obtain ⟨others, hlines, hrest⟩ := ih fun x hx => hline x (List.mem_cons_of_mem d hx)
      refine ⟨others, ?_, hrest⟩
      rw [List.cons_append, lines_cons (hline d List.mem_cons_self), hlines]
      rfl

/-- Lines that are written with a line feed each are read back. -/
theorem lines_written {parts : List (List Char)} (h : ∀ part ∈ parts, ∀ c ∈ part, isLineBreak c = false) :
    lines (parts.flatMap fun part => part ++ ['\n']) = parts := by
  induction parts with
  | nil => rfl
  | cons part parts ih =>
      obtain ⟨hpart, hparts⟩ := List.forall_mem_cons.mp h
      rw [List.flatMap_cons, List.append_assoc, List.singleton_append]
      obtain ⟨others, hlines, hfeed⟩ := lines_append_break hpart (by decide : isLineBreak '\n' = true)
        (parts.flatMap fun part => part ++ ['\n'])
      rcases lines_break (by decide : isLineBreak '\n' = true) (parts.flatMap fun part => part ++ ['\n'])
        with hsame | ⟨-, hreturn, -⟩
      · rw [hfeed, ih hparts] at hsame
        rw [hlines, (List.cons.inj hsame).2]
      · exact absurd hreturn (by decide)

/-! ### What lines hold -/

/-- Lines without the blanks around them, those that hold nothing left out. -/
def held (lines : List (List Char)) : List (List Char) := (lines.map trim).filter fun body => !body.isEmpty

/-- What the lines of a text hold. -/
def bodies (text : List Char) : List (List Char) := held (lines text)

theorem held_cons (line : List Char) (lines : List (List Char)) : held (line :: lines) = held [line] ++ held lines := by
  unfold held
  rw [← List.filter_append, ← List.map_append, List.singleton_append]

theorem held_of_blank {line : List Char} (h : ∀ c ∈ line, isBlank c = true) : held [line] = [] := by
  simp [held, trim_eq_nil_iff.mpr h]

theorem held_of_filled {line : List Char} (h : Filled line) : held [line] = [trim line] := by
  simp [held, filled_iff.mp h]

theorem bodies_of_line {line : List Char} (h : ∀ c ∈ line, isLineBreak c = false) : bodies line = held [line] := by
  unfold bodies
  rw [lines_of_line h]
  cases line with
  | nil => rfl
  | cons c line => rfl

/-- A line break separates what the line before it holds from what the others hold. -/
theorem bodies_append_break {line : List Char} (hline : ∀ c ∈ line, isLineBreak c = false) {c : Char}
    (hc : isLineBreak c = true) (rest : List Char) : bodies (line ++ c :: rest) = held [line] ++ bodies rest := by
  have hnothing : held [[]] = [] := rfl
  obtain ⟨others, hlines, hrest⟩ := lines_append_break hline hc rest
  have hothers : held others = bodies rest := by
    rcases lines_break hc rest with hsame | ⟨after, -, rfl, hsame⟩
    · rw [hrest] at hsame
      rw [(List.cons.inj hsame).2]
      rfl
    · rw [hrest] at hsame
      have hfeed : lines ('\n' :: after) = [] :: lines after := by
        rw [lines]
        · simp [show isLineBreak '\n' = true by decide]
        · simp
      rw [(List.cons.inj hsame).2, bodies, hfeed, held_cons, hnothing, List.nil_append]
  unfold bodies
  rw [hlines, held_cons, hothers]
  rfl

theorem bodies_cons {c : Char} (h : isBlank c = true) (text : List Char) : bodies (c :: text) = bodies text := by
  by_cases hc : isLineBreak c = true
  · exact bodies_append_break (List.forall_mem_nil _) hc text
  · have hfirst : isLineBreak c = false := by simpa using hc
    have htrim : ∀ line, held [c :: line] = held [line] := by
      intro line
      have hsame : trim (c :: line) = trim line := trim_append_left (by simpa using h : ∀ d ∈ [c], isBlank d = true) line
      simp only [held, List.map_cons, List.map_nil, hsame]
    induction text using induction_on_lines with
    | single line hline =>
        rw [bodies_of_line (List.forall_mem_cons.mpr ⟨hfirst, hline⟩), bodies_of_line hline, htrim]
    | more line d rest hline hd _ =>
        rw [← List.cons_append, bodies_append_break (List.forall_mem_cons.mpr ⟨hfirst, hline⟩) hd,
          bodies_append_break hline hd, htrim]

theorem bodies_concat {c : Char} (h : isBlank c = true) (text : List Char) : bodies (text ++ [c]) = bodies text := by
  induction text using induction_on_lines with
  | single line hline =>
      by_cases hc : isLineBreak c = true
      · rw [bodies_append_break hline hc, bodies_of_line hline]
        exact List.append_nil _
      · have hboth : ∀ d ∈ line ++ [c], isLineBreak d = false := by simpa [or_imp, forall_and, hc] using hline
        rw [bodies_of_line hboth, bodies_of_line hline]
        have hsame : trim (line ++ [c]) = trim line :=
          trim_append_right line (by simpa using h : ∀ d ∈ [c], isBlank d = true)
        simp only [held, List.map_cons, List.map_nil, hsame]
  | more line d rest hline hd ih =>
      rw [List.append_assoc, List.cons_append, bodies_append_break hline hd, bodies_append_break hline hd, ih]

/-- Blanks around a text do not matter. -/
theorem bodies_trim (text : List Char) : bodies (trim text) = bodies text := by
  have hstart : ∀ gap : List Char, (∀ c ∈ gap, isBlank c = true) → ∀ rest, bodies (gap ++ rest) = bodies rest := by
    intro gap hgap rest
    induction gap with
    | nil => rfl
    | cons c gap ih =>
        rw [List.cons_append, bodies_cons (hgap c List.mem_cons_self), ih fun d hd => hgap d (List.mem_cons_of_mem c hd)]
  have hend : ∀ gap : List Char, (∀ c ∈ gap, isBlank c = true) → ∀ body, bodies (body ++ gap) = bodies body := by
    intro gap hgap body
    induction gap using List.reverseRecOn with
    | nil => rw [List.append_nil]
    | append_singleton gap c ih =>
        rw [← List.append_assoc, bodies_concat (hgap c (by simp)), ih fun d hd => hgap d (by simp [hd])]
  obtain ⟨before, after, hbefore, hafter, hsplit⟩ := trim_between text
  conv_rhs => rw [hsplit, hstart before hbefore, hend after hafter]

theorem bodies_eq_nil_iff {text : List Char} : bodies text = [] ↔ ¬ Filled text := by
  induction text using induction_on_lines with
  | single line hline =>
      rw [bodies_of_line hline]
      by_cases h : Filled line
      · simp [held_of_filled h, h]
      · simpa [h] using held_of_blank (not_filled_iff.mp h)
  | more line c rest hline hc ih =>
      have hblank := isBlank_of_isLineBreak hc
      have hfilled : Filled (line ++ c :: rest) ↔ Filled line ∨ Filled rest := by
        simp [Filled, or_and_right, exists_or, hblank]
      rw [bodies_append_break hline hc, List.append_eq_nil_iff, ih, hfilled, not_or]
      refine and_congr_left' ⟨fun hnone hline => ?_, fun hline => held_of_blank (not_filled_iff.mp hline)⟩
      simp [held_of_filled hline] at hnone

/-- A text starts with what its first line holds.  If another line holds something, a blank follows, and
something more. -/
theorem trim_of_bodies {text first : List Char} {rest : List (List Char)} (h : bodies text = first :: rest) :
    ∃ after, trim text = first ++ after ∧ (rest = [] → after = []) ∧
      (rest ≠ [] → ∃ c more, after = c :: more ∧ isBlank c = true ∧ Filled more) := by
  induction text using induction_on_lines generalizing first rest with
  | single line hline =>
      rw [bodies_of_line hline] at h
      by_cases hfilled : Filled line
      · rw [held_of_filled hfilled] at h
        obtain ⟨rfl, rfl⟩ := List.cons.inj h
        exact ⟨[], (List.append_nil _).symm, fun _ => rfl, fun hmore => absurd rfl hmore⟩
      · rw [held_of_blank (not_filled_iff.mp hfilled)] at h
        cases h
  | more line c others hline hc ih =>
      have hblank := isBlank_of_isLineBreak hc
      rw [bodies_append_break hline hc] at h
      by_cases hfilled : Filled line
      · rw [held_of_filled hfilled] at h
        obtain ⟨rfl, rfl⟩ := List.cons.inj h
        by_cases hothers : Filled others
        · have hrest : Filled (c :: others) := hothers.imp fun d hd => ⟨List.mem_cons_of_mem c hd.1, hd.2⟩
          have hend : trimEnd (c :: others) = c :: trimEnd others := trimEnd_append hothers [c]
          obtain ⟨gap, hgap, htrim⟩ := trim_append hfilled hrest
          refine ⟨gap ++ trimEnd (c :: others), htrim, fun hnone => ?_, fun _ => ?_⟩
          · exact absurd hothers (bodies_eq_nil_iff.mp hnone)
          · rw [hend]
            cases gap with
            | nil => exact ⟨c, trimEnd others, rfl, hblank, filled_trimEnd hothers⟩
            | cons d gap =>
                refine ⟨d, gap ++ c :: trimEnd others, rfl, hgap d List.mem_cons_self, ?_⟩
                exact (filled_trimEnd hothers).imp fun x hx => ⟨by simp [hx.1], hx.2⟩
        · have hgap : ∀ d ∈ c :: others, isBlank d = true := by simpa [Filled, hblank] using hothers
          refine ⟨[], by rw [trim_append_right line hgap, List.append_nil], fun _ => rfl, fun hmore => ?_⟩
          exact absurd (bodies_eq_nil_iff.mpr hothers) hmore
      · have hgap : ∀ d ∈ line ++ [c], isBlank d = true := by
          simpa [or_imp, forall_and, hblank] using not_filled_iff.mp hfilled
        rw [held_of_blank (not_filled_iff.mp hfilled), List.nil_append] at h
        obtain ⟨after, htrim, hlast, hmore⟩ := ih h
        refine ⟨after, ?_, hlast, hmore⟩
        rw [← htrim, ← trim_append_left hgap others, List.append_assoc, List.singleton_append]

end FixFirst.Text
