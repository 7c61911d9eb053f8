import FixFirst.Proofs.Json.Token
import FixFirst.Proofs.Text.Fields
import FixFirst.Summary
import Mathlib.Data.List.TakeWhile

/-!
# Marked texts and headings

A text in which nothing can be a mark is shown as it stands, and a text between a tag and the tag
that closes it is shown in the style that the tag names.  So the title of a section can only
keep it from being shown if there are marks in the title, which none of a summary's own has.

## Main definitions

* `Markup.Plain` — a text in which nothing can be a mark.
* `Markup.Names` — a name that can stand in a tag.

## Main statements

* `Markup.render_plain` — a plain text is shown as it stands.
* `Markup.render_styled` — a text between two tags is shown in their style.
* `Console.heading_plain`, `Console.exists_heading` — the heading with a plain title.
* `Report.exists_summary_iff` — a summary is shown if its table and its remarks can be.
-/

namespace FixFirst

open Text

theorem Text.isControl_of_isDigit {c : Char} (h : c.isDigit = true) : isControl c = false := by
  simp only [Char.isDigit, Bool.and_eq_true, decide_eq_true_eq] at h
  have hlow : 48 ≤ c.toNat := UInt32.le_iff_toNat_le.mp h.1
  simp only [isControl, List.contains_cons, List.contains_nil, Bool.or_eq_false_iff, beq_eq_false_iff_ne, ne_eq,
    and_true]
  omega

namespace Markup

/-! ### Plain texts -/

/-- A text in which nothing can be a mark: it is without opening brackets, colons and the characters
that move the cursor. -/
def Plain (text : List Char) : Prop := ∀ c ∈ text, c ≠ '[' ∧ c ≠ ':' ∧ isControl c = false

instance (text : List Char) : Decidable (Plain text) := List.decidableBAll _ text

namespace Plain

variable {text rest : List Char}

theorem append (h : Plain text) (hrest : Plain rest) : Plain (text ++ rest) := fun c hc =>
  (List.mem_append.mp hc).elim (h c) (hrest c)

theorem bracket_not_mem (h : Plain text) : '[' ∉ text := fun hmem => (h _ hmem).1 rfl

theorem colon_not_mem (h : Plain text) : ':' ∉ text := fun hmem => (h _ hmem).2.1 rfl

theorem clean (h : Plain text) : clean text = text :=
  List.filter_eq_self.mpr fun c hc => by simp [(h c hc).2.2]

end Plain

theorem withoutEscapes_of_not_mem {text : List Char} (h : '[' ∉ text) : withoutEscapes text = text := by
  induction text with
  | nil => rfl
  | cons c rest ih =>
      obtain ⟨-, hrest⟩ : '[' ≠ c ∧ '[' ∉ rest := by simpa using h
      rw [withoutEscapes, ih hrest]
      rintro others rfl rfl
      simp at hrest

/-- What is shown of a plain text between tags. -/
theorem Plain.shown {text : List Char} (h : Plain text) :
    Text.clean (withPictograms (withoutEscapes text)) = text := by
  rw [withoutEscapes_of_not_mem h.bracket_not_mem, withPictograms_of_not_mem h.colon_not_mem, h.clean]

theorem leadingTag?_of_not_mem {text : List Char} (h : '[' ∉ text) : leadingTag? text = none := by
  unfold leadingTag?
  split
  · simp at h
  · rfl

namespace Piece

theorem scan_cons_of_none {seen rest : List Char} {c : Char}
    (h : leadingTag? ((c :: rest).drop ((c :: rest).takeWhile (· == '\\')).length) = none) :
    scan seen (c :: rest) = scan (c :: seen) rest := by
  rw [scan]
  split
  · next hsome => simp [h] at hsome
  · rfl

/-- A text without brackets is a single piece. -/
theorem scan_of_not_mem {text : List Char} (h : '[' ∉ text) (seen : List Char) :
    scan seen text = ofPlain (text.reverse ++ seen) := by
  induction text generalizing seen with
  | nil => simp [scan]
  | cons c rest ih =>
      obtain ⟨-, hrest⟩ : '[' ≠ c ∧ '[' ∉ rest := by simpa using h
      have hnone (count : Nat) : leadingTag? ((c :: rest).drop count) = none :=
        leadingTag?_of_not_mem fun hmem => h (List.mem_of_mem_drop hmem)
      rw [scan_cons_of_none (hnone _), ih hrest, List.reverse_cons, List.append_assoc, List.singleton_append]

end Piece

/-- A plain text is shown as it stands, and no part of it has a style. -/
theorem render_plain {text : List Char} (h : Plain text) : render text = .ok ⟨text, []⟩ := by
  rw [render, Piece.ofText, Piece.scan_of_not_mem h.bracket_not_mem, List.append_nil, Piece.ofPlain]
  cases text with
  | nil => rfl
  | cons c rest => simp [markedOf, h.shown, bind, Except.bind, pure, Except.pure]

@[simp] theorem Marked.lookUp_nil (text : List Char) (isShown : Span → Bool) :
    (⟨text, []⟩ : Marked).lookUp isShown = .ok () :=
  rfl

/-! ### A text between two tags -/

/-- A name that can stand in a tag: it starts as a tag may, does not close another tag, and has
neither brackets nor parameters, nor blanks around it. -/
structure Names (name : List Char) : Prop where
  starts : name.head?.any startsTag = true
  opens : name.head? ≠ some '/'
  simple : ∀ c ∈ name, c ≠ '[' ∧ c ≠ ']' ∧ c ≠ '='
  trimmed : trim name = name

theorem leadingTag?_cons {inside : List Char} (hstarts : inside.head?.any startsTag = true)
    (hsimple : ∀ c ∈ inside, c ≠ '[' ∧ c ≠ ']') (rest : List Char) :
    leadingTag? ('[' :: (inside ++ ']' :: rest)) = some (inside, rest) := by
  have hinside : (inside ++ ']' :: rest).takeWhile (fun c => c != '[' && c != ']') = inside := by
    rw [List.takeWhile_append_of_pos fun c hc => by simpa using hsimple c hc]
    simp
  obtain ⟨first, others, rfl⟩ : ∃ first others, inside = first :: others := by
    cases inside with
    | nil => simp at hstarts
    | cons first others => exact ⟨first, others, rfl⟩
  have hfirst : startsTag first = true := by simpa using hstarts
  simp only [leadingTag?, hinside, List.head?_cons, List.drop_left, if_pos hfirst]

namespace Piece

/-- Text before a tag is read until the tag starts. -/
theorem scan_append {text : List Char} (h : ∀ c ∈ text, c ≠ '[' ∧ c ≠ '\\') (seen rest : List Char) :
    scan seen (text ++ rest) = scan (text.reverse ++ seen) rest := by
  induction text generalizing seen with
  | nil => simp
  | cons c others ih =>
      obtain ⟨⟨hc, hslash⟩, hothers⟩ := List.forall_mem_cons.mp h
      have hnone : leadingTag? (c :: (others ++ rest)) = none := by
        unfold leadingTag?
        split
        · next heq => exact absurd (List.cons.inj heq).1 hc
        · rfl
      rw [List.cons_append, scan_cons_of_none (by simpa [hslash] using hnone), ih hothers, List.reverse_cons,
        List.append_assoc, List.singleton_append]

/-- A tag ends the text before it. -/
theorem scan_of_leadingTag? {rest inside after : List Char} (h : leadingTag? rest = some (inside, after))
    (seen : List Char) : scan seen rest = ofPlain seen ++ ofTag inside :: scan [] after := by
  obtain ⟨more, rfl⟩ : ∃ more, rest = '[' :: more := by
    unfold leadingTag? at h
    split at h
    · exact ⟨_, rfl⟩
    · simp at h
  rw [scan]
  split
  · next found =>
    simp only [beq_iff_eq, Char.reduceEq, not_false_eq_true, List.takeWhile_cons_of_neg, List.length_nil,
      List.drop_zero, h, Option.some.injEq, Prod.mk.injEq] at found
    obtain ⟨rfl, rfl⟩ := found
    simp [escaped]
  · next found => simp [h] at found

theorem ofTag_of_not_mem {inside : List Char} (h : '=' ∉ inside) : ofTag inside = tag inside none := by
  have hname : inside.takeWhile (· != '=') = inside :=
    List.takeWhile_eq_self_iff.mpr fun c hc => by
      simpa using fun heq : c = '=' => h (heq ▸ hc)
  simp [ofTag, hname]

/-- A text between a tag and the tag that closes it. -/
theorem ofText_styled {name text : List Char} (hname : Names name) (htext : Plain text) (hslash : '\\' ∉ text) :
    ofText ('[' :: (name ++ ']' :: (text ++ '[' :: ('/' :: name ++ [']'])))) =
      tag name none :: (ofPlain text.reverse ++ [tag ('/' :: name) none]) := by
  have hequals : '=' ∉ name := fun hmem => (hname.simple _ hmem).2.2 rfl
  have hopening := leadingTag?_cons hname.starts (fun c hc => ⟨(hname.simple c hc).1, (hname.simple c hc).2.1⟩)
    (text ++ '[' :: ('/' :: name ++ [']']))
  have hclosing : leadingTag? ('[' :: ('/' :: name ++ [']'])) = some ('/' :: name, []) :=
    leadingTag?_cons rfl (List.forall_mem_cons.mpr
      ⟨by decide, fun c hc => ⟨(hname.simple c hc).1, (hname.simple c hc).2.1⟩⟩) []
  have hbefore : ∀ c ∈ text, c ≠ '[' ∧ c ≠ '\\' := fun c hc => ⟨(htext c hc).1, fun heq => hslash (heq ▸ hc)⟩
  rw [ofText, scan_of_leadingTag? hopening, ofTag_of_not_mem hequals, scan_append hbefore,
    scan_of_leadingTag? hclosing, ofTag_of_not_mem (by simpa using hequals), List.append_nil]
  simp [ofPlain, scan]

end Piece

theorem markedOf_ofPlain {text : List Char} (h : Plain text) (position : Nat) (live : List Opened)
    (rest : List Piece) :
    markedOf position live (Piece.ofPlain text.reverse ++ rest) =
      (markedOf (position + text.length) live rest).map fun marked => { marked with text := text ++ marked.text } := by
  cases text with
  | nil => cases hrest : markedOf position live rest <;> simp [Piece.ofPlain, hrest, Except.map]
  | cons c others =>
      have hpieces : Piece.ofPlain (c :: others).reverse = [.text (c :: others)] := by simp [Piece.ofPlain]
      rw [hpieces, List.singleton_append, markedOf, h.shown]
      rfl

/-- A text between a tag and the tag that closes it is shown in the style of the tag. -/
theorem render_styled {name text : List Char} {style : String} (hname : Names name)
    (hstyle : normalForm name = .ok style) (haction : style.startsWith "@" = false) (htext : Plain text)
    (hslash : '\\' ∉ text) :
    render ('[' :: (name ++ ']' :: (text ++ '[' :: ('/' :: name ++ [']'])))) =
      .ok ⟨text, [⟨0, text.length, style.toList⟩]⟩ := by
  obtain ⟨first, others, rfl⟩ : ∃ first others, name = first :: others := by
    cases name with
    | nil => simpa using hname.starts
    | cons first others => exact ⟨first, others, rfl⟩
  have hopened : (⟨style, none, 0⟩ : Opened).isAction = false := haction
  have hclose : close (first :: others) [⟨style, none, 0⟩] = .ok (⟨style, none, 0⟩, []) := by
    simp [close, hname.trimmed, hstyle, takeOut, Opened.isSound, hopened, bind, Except.bind, pure, Except.pure]
  have hfirst : first ≠ '/' := by simpa using hname.opens
  rw [render, Piece.ofText_styled hname htext hslash, markedOf]
  · simp [hstyle, markedOf_ofPlain htext, markedOf, hclose, hopened, Opened.span, bind, Except.bind, pure,
      Except.pure, Except.map]
  · rintro _ heq
    exact hfirst (List.cons.inj heq).1

example : render "[b]word[/b]".toList = .ok ⟨"word".toList, [⟨0, 4, "bold".toList⟩]⟩ :=
  @render_styled "b".toList "word".toList "bold" ⟨by decide, by decide, by simp, by decide⟩ (by cbv) (by cbv)
    (by decide) (by decide)

end Markup

/-! ### Headings -/

namespace Console

open Markup

theorem tabbed_of_not_mem {line : List Char} (h : '\t' ∉ line) : tabbed line = [line] := by
  simp [tabbed, fields_of_not_mem h]

/-- A text on one line and without tabs is shown in one piece. -/
theorem linesOf_of_not_mem {text : List Char} (hbreak : '\n' ∉ text) (htab : '\t' ∉ text) :
    linesOf text = [[text]] := by
  rw [linesOf, fields_of_not_mem hbreak, List.map_singleton, tabbed_of_not_mem htab]

theorem plain_marked {title : String} (h : Plain title.toList) :
    Plain ("--- ".toList ++ title.toList ++ " ---".toList) :=
  (Plain.append (by decide) h).append (by decide)

/-- A plain title stands in a heading without colours as it is. -/
theorem heading_plain (console : Console) {title : String} (h : Plain title.toList) (hbreak : '\n' ∉ title.toList)
    (htab : '\t' ∉ title.toList) :
    console.heading false title = .ok ("\n--- " ++ title ++ " ---\n") := by
  have hlines : linesOf ("--- ".toList ++ title.toList ++ " ---".toList) =
      [["--- ".toList ++ title.toList ++ " ---".toList]] :=
    linesOf_of_not_mem (by simpa using hbreak) (by simpa using htab)
  have hshown : String.ofList ('\n' :: ("--- ".toList ++ title.toList ++ " ---".toList) ++ ['\n']) =
      "\n--- " ++ title ++ " ---\n" := by
    simp [← String.toList_inj]
  unfold heading
  rw [if_neg Bool.false_ne_true, render_plain (plain_marked h)]
  simp only [bind, Except.bind, Marked.lookUp_nil, hlines, List.map_singleton, List.flatten_singleton,
    List.intercalate_singleton, pure, Except.pure, hshown]

/-- A plain title can be shown, in colours or without. -/
theorem exists_heading (console : Console) (color : Bool) {title : String} (h : Plain title.toList) :
    ∃ shown, console.heading color title = .ok shown := by
  have hrule : ∃ line, rule console.isTerminal title.toList = .ok line := by
    simp only [rule, render_plain h, bind, Except.bind, Marked.lookUp_nil]
    split <;> exact ⟨_, rfl⟩
  cases color with
  | false =>
      unfold heading
      rw [if_neg Bool.false_ne_true, render_plain (plain_marked h)]
      exact ⟨_, rfl⟩
  | true =>
      obtain ⟨line, hline⟩ := hrule
      unfold heading
      rw [if_pos rfl, hline]
      exact ⟨_, rfl⟩

end Console

namespace Report

variable {τ : Type} [Quantity τ]

/-- The title over the issues is plain. -/
theorem plain_issues (count : Nat) : Markup.Plain s!"Issues ({count})".toList := by
  have hdigits : Markup.Plain (natText count) := fun c hc => by
    have hdigit := Json.isDigit_natText hc
    refine ⟨?_, ?_, isControl_of_isDigit hdigit⟩ <;> rintro rfl <;> simp at hdigit
  have htext : s!"Issues ({count})".toList = "Issues (".toList ++ natText count ++ ")".toList := by
    simp [natText, toString]
  rw [htext]
  exact (Markup.Plain.append (by decide) hdigits).append (by decide)

/-- A summary is shown if the table, which stands there for issues only, and the remarks can be: its
heading is in the way of neither. -/
theorem exists_summary_iff (disk : Disk) (console : Console) (root : Path) (look : Look) (report : Report τ) :
    (∃ shown, report.summary disk console root look = .ok shown) ↔
      (report.issues ≠ [] → ∃ table, report.table disk root look = .ok table) ∧
        ∃ lines, report.remarks disk root = .ok lines := by
  obtain ⟨title, htitle⟩ := console.exists_heading look.color (plain_issues report.issues.length)
  unfold summary
  rw [htitle]
  by_cases hissues : report.issues = []
  · cases hremarks : report.remarks disk root with
    | error fault => simp [hissues, bind, Except.bind]
    | ok lines => simp [hissues, bind, Except.bind, pure, Except.pure]
  · cases htable : report.table disk root look with
    | error fault => simp [hissues, bind, Except.bind]
    | ok table =>
      cases hremarks : report.remarks disk root with
      | error fault => simp [hissues, bind, Except.bind, pure, Except.pure]
      | ok lines => simp [hissues, bind, Except.bind, pure, Except.pure]

end Report

end FixFirst
