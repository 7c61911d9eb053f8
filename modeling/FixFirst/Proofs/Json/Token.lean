import Mathlib
import FixFirst.Json.Printer
import FixFirst.Json.Reader

/-!
# Texts and numbers in documents

A text is written with escapes and read by its code units; a whole number is written and read by its
decimal digits.  What is written is read back, whatever follows it.

## Main definitions

* `unitsOf` — the code units of a character.
* `Ends` — whether a number ends where a text starts.
* `StartsNumber` — whether a text starts as numbers do.

## Main statements

* `hexUnit_hexText` — four hexadecimal digits are read back.
* `text_written` — a text is read back, every character of it.
* `number_written` — a whole number is read back, or is a fault of its length.
-/

namespace FixFirst.Json

open Text

/-! ### Escapes -/

theorem hexValue_digitChar : ∀ digit < 16, hexValue? (Nat.digitChar digit) = some digit := by
  decide

/-- The four hexadecimal digits of a code unit. -/
theorem hexText_four {unit : Nat} (h : unit < 65536) :
    hexText 4 unit = [Nat.digitChar (unit / 4096), Nat.digitChar (unit / 256 % 16), Nat.digitChar (unit / 16 % 16),
      Nat.digitChar (unit % 16)] := by
  have hstep : ∀ n, 16 ≤ n → Nat.toDigits 16 n = Nat.toDigits 16 (n / 16) ++ [Nat.digitChar (n % 16)] :=
    fun n hn => Nat.toDigits_of_base_le (by decide) hn
  have hlast : ∀ n, n < 16 → Nat.toDigits 16 n = [Nat.digitChar n] := fun n hn => Nat.toDigits_of_lt_base hn
  have hzero : Nat.digitChar 0 = '0' := rfl
  have hsecond : unit / 16 / 16 = unit / 256 := by omega
  have hfirst : unit / 256 / 16 = unit / 4096 := by omega
  -- One digit more for each power of sixteen that the unit reaches; zeros fill the places before them.
  by_cases h16 : unit < 16
  · have htext : Nat.toDigits 16 unit = [Nat.digitChar (unit % 16)] := by
      rw [hlast unit h16, Nat.mod_eq_of_lt h16]
    have hzeros : unit / 4096 = 0 ∧ unit / 256 % 16 = 0 ∧ unit / 16 % 16 = 0 := by omega
    simp [hexText, htext, hzeros, hzero, List.replicate]
  by_cases h256 : unit < 256
  · have htext : Nat.toDigits 16 unit = [Nat.digitChar (unit / 16 % 16), Nat.digitChar (unit % 16)] := by
      rw [hstep unit (by omega), hlast (unit / 16) (by omega), Nat.mod_eq_of_lt (by omega : unit / 16 < 16)]
      rfl
    have hzeros : unit / 4096 = 0 ∧ unit / 256 % 16 = 0 := by omega
    simp [hexText, htext, hzeros, hzero, List.replicate]
  by_cases h4096 : unit < 4096
  · have htext : Nat.toDigits 16 unit =
        [Nat.digitChar (unit / 256 % 16), Nat.digitChar (unit / 16 % 16), Nat.digitChar (unit % 16)] := by
      rw [hstep unit (by omega), hstep (unit / 16) (by omega), hsecond, hlast (unit / 256) (by omega),
        Nat.mod_eq_of_lt (by omega : unit / 256 < 16)]
      rfl
    have hzeros : unit / 4096 = 0 := by omega
    simp [hexText, htext, hzeros, hzero]
  · have htext : Nat.toDigits 16 unit = [Nat.digitChar (unit / 4096), Nat.digitChar (unit / 256 % 16),
        Nat.digitChar (unit / 16 % 16), Nat.digitChar (unit % 16)] := by
      rw [hstep unit (by omega), hstep (unit / 16) (by omega), hsecond, hstep (unit / 256) (by omega), hfirst,
        hlast (unit / 4096) (by omega)]
      rfl
    simp [hexText, htext]

/-- Four hexadecimal digits are read back. -/
theorem hexUnit_hexText {unit : Nat} (h : unit < 65536) :
    ∃ a b c d, hexText 4 unit = [a, b, c, d] ∧ hexUnit? a b c d = some unit := by
  refine ⟨_, _, _, _, hexText_four h, ?_⟩
  simp only [hexUnit?, hexValue_digitChar _ (by omega : unit / 4096 < 16),
    hexValue_digitChar _ (by omega : unit / 256 % 16 < 16), hexValue_digitChar _ (by omega : unit / 16 % 16 < 16),
    hexValue_digitChar _ (by omega : unit % 16 < 16), bind, Option.bind, pure, Option.some.injEq]
  omega

theorem textUnits_unitEscape (units : List Nat) {unit : Nat} (h : unit < 65536) (rest : List Char) :
    textUnits units (unitEscape unit ++ rest) = textUnits (unit :: units) rest := by
  obtain ⟨a, b, c, d, htext, hunit⟩ := hexUnit_hexText h
  simp only [unitEscape, htext, List.cons_append, List.nil_append]
  rw [textUnits_escape, hunit]

/-! ### Code units -/

/-- The code units of a character: one, or the two halves of a pair. -/
def unitsOf (c : Char) : List Nat :=
  if c.toNat < 0x10000 then [c.toNat]
  else [0xd800 + (c.toNat - 0x10000) / 0x400, 0xdc00 + (c.toNat - 0x10000) % 0x400]

/-- No character is half of a pair. -/
theorem not_half (c : Char) : isHighHalf c.toNat = false ∧ isLowHalf c.toNat = false ∧ c.toNat < 0x110000 := by
  have hvalid : c.toNat < 0xd800 ∨ 0xdfff < c.toNat ∧ c.toNat < 0x110000 := c.valid
  simp only [isHighHalf, isLowHalf, Bool.and_eq_false_iff, decide_eq_false_iff_not]
  omega

theorem textUnits_charEscape (units : List Nat) (c : Char) (rest : List Char) :
    textUnits units (charEscape c ++ rest) = textUnits ((unitsOf c).reverse ++ units) rest := by
  have hsmall := (not_half c).2.2
  unfold charEscape unitsOf
  by_cases h : c.toNat < 0x10000
  · simp only [h, if_true]
    exact textUnits_unitEscape units h rest
  · simp only [h, if_false]
    rw [List.append_assoc, textUnits_unitEscape _ (by omega), textUnits_unitEscape _ (by omega)]
    rfl

theorem textUnits_letter (units : List Nat) {letter : Char} {unit : Nat} (rest : List Char)
    (hescape : escapeUnit? letter = some unit) (hletter : letter ≠ 'u') :
    textUnits units ('\\' :: letter :: rest) = textUnits (unit :: units) rest := by
  rw [textUnits]
  · rw [hescape]
  · intro a b c d tail hsame
    exact absurd hsame hletter

theorem textUnits_plain (units : List Nat) {c : Char} (rest : List Char) (hquote : c ≠ '"') (hslash : c ≠ '\\')
    (hspace : 0x20 ≤ c.toNat) : textUnits units (c :: rest) = textUnits (c.toNat :: units) rest := by
  rw [textUnits]
  · rw [if_neg (by omega)]
  · exact hquote
  · exact fun _ _ _ _ _ h => absurd h hslash
  · exact fun _ _ h => absurd h hslash

/-- What a short escape stands for. -/
theorem shortEscape_cases {c : Char} {escape : List Char} (h : shortEscape? c = some escape) :
    ∃ letter, escape = ['\\', letter] ∧ escapeUnit? letter = some c.toNat ∧ letter ≠ 'u' ∧ c.toNat < 0x10000 := by
  have hcode : ∀ n : Nat, n < 0x10000 → ∀ letter, escapeUnit? letter = some n → letter ≠ 'u' → c.toNat = n →
      ['\\', letter] = escape → ∃ letter, escape = ['\\', letter] ∧ escapeUnit? letter = some c.toNat ∧
        letter ≠ 'u' ∧ c.toNat < 0x10000 := by
    rintro n hn letter hunit hletter rfl hescape
    exact ⟨letter, hescape.symm, hunit, hletter, hn⟩
  unfold shortEscape? at h
  split at h
  · rename_i hc
    exact hcode 0x22 (by decide) '"' rfl (by decide) (by rw [hc]; rfl) (Option.some.inj h)
  split at h
  · rename_i hc
    exact hcode 0x5c (by decide) '\\' rfl (by decide) (by rw [hc]; rfl) (Option.some.inj h)
  split at h
  · rename_i hc
    exact hcode 0x0a (by decide) 'n' rfl (by decide) (by rw [hc]; rfl) (Option.some.inj h)
  split at h
  · rename_i hc
    exact hcode 0x0d (by decide) 'r' rfl (by decide) (by rw [hc]; rfl) (Option.some.inj h)
  split at h
  · rename_i hc
    exact hcode 0x09 (by decide) 't' rfl (by decide) (by rw [hc]; rfl) (Option.some.inj h)
  split at h
  · rename_i hc
    exact hcode 0x08 (by decide) 'b' rfl (by decide) hc (Option.some.inj h)
  split at h
  · rename_i hc
    exact hcode 0x0c (by decide) 'f' rfl (by decide) hc (Option.some.inj h)
  · cases h

/-- A character is read by its code units. -/
theorem textUnits_asciiChar (units : List Nat) (c : Char) (rest : List Char) :
    textUnits units (asciiChar c ++ rest) = textUnits ((unitsOf c).reverse ++ units) rest := by
  unfold asciiChar
  cases hshort : shortEscape? c with
  | some escape =>
      obtain ⟨letter, rfl, hunit, hletter, hsmall⟩ := shortEscape_cases hshort
      simp only [unitsOf, hsmall, if_true]
      exact textUnits_letter units rest hunit hletter
  | none =>
      by_cases hplain : (0x20 ≤ c.toNat && c.toNat < 0x7f) = true
      · have hbounds : 0x20 ≤ c.toNat ∧ c.toNat < 0x7f := by simpa using hplain
        have hsmall : c.toNat < 0x10000 := by omega
        have hquote : c ≠ '"' := by
          rintro rfl
          simp [shortEscape?] at hshort
        have hslash : c ≠ '\\' := by
          rintro rfl
          simp [shortEscape?] at hshort
        simp only [hplain, if_true, unitsOf, hsmall]
        exact textUnits_plain units rest hquote hslash hbounds.1
      · simp only [hplain, Bool.false_eq_true, if_false]
        exact textUnits_charEscape units c rest

theorem textUnits_written (units : List Nat) (chars rest : List Char) :
    textUnits units (chars.flatMap asciiChar ++ '"' :: rest) = some (units.reverse ++ chars.flatMap unitsOf, rest) := by
  induction chars generalizing units with
  | nil => simp [textUnits_quote]
  | cons c chars ih =>
      rw [List.flatMap_cons, List.append_assoc, textUnits_asciiChar, ih, List.flatMap_cons]
      simp

theorem joinUnits_whole (done : List Char) {unit : Nat} (rest : List Nat) (h : isHalf unit = false) :
    joinUnits done (unit :: rest) = joinUnits (Char.ofNat unit :: done) rest := by
  have hhigh : isHighHalf unit = false := (Bool.or_eq_false_iff.mp h).1
  cases rest with
  | nil => simp [joinUnits_one, joinUnits_nil, h]
  | cons next others => simp [joinUnits_two, hhigh, h]

theorem joinUnits_unitsOf (done : List Char) (c : Char) (rest : List Nat) :
    joinUnits done (unitsOf c ++ rest) = joinUnits (c :: done) rest := by
  obtain ⟨hhigh, hlow, hsmall⟩ := not_half c
  unfold unitsOf
  by_cases h : c.toNat < 0x10000
  · have hwhole : isHalf c.toNat = false := by rw [isHalf, hhigh, hlow, Bool.or_false]
    simp only [h, if_true, List.singleton_append]
    rw [joinUnits_whole done rest hwhole, Char.ofNat_toNat]
  · have hfirst : isHighHalf (0xd800 + (c.toNat - 0x10000) / 0x400) = true := by
      simp only [isHighHalf, Bool.and_eq_true, decide_eq_true_eq]
      omega
    have hsecond : isLowHalf (0xdc00 + (c.toNat - 0x10000) % 0x400) = true := by
      simp only [isLowHalf, Bool.and_eq_true, decide_eq_true_eq]
      omega
    have hpoint : 0x10000 + (0xd800 + (c.toNat - 0x10000) / 0x400 - 0xd800) * 0x400 +
        (0xdc00 + (c.toNat - 0x10000) % 0x400 - 0xdc00) = c.toNat := by
      omega
    simp only [h, if_false, List.cons_append, List.nil_append]
    rw [joinUnits_two, hfirst, hsecond, Bool.and_self, if_pos rfl, hpoint, Char.ofNat_toNat]

theorem joinUnits_written (done chars : List Char) :
    joinUnits done (chars.flatMap unitsOf) = some (done.reverse ++ chars) := by
  induction chars generalizing done with
  | nil => simp [joinUnits_nil]
  | cons c chars ih =>
      rw [List.flatMap_cons, joinUnits_unitsOf, ih]
      simp

/-- A text is read back, every character of it. -/
theorem text_written (body : String) (rest : List Char) :
    quotedText (body.toList.flatMap asciiChar ++ '"' :: rest) = .ok (body, rest) := by
  unfold quotedText
  rw [textUnits_written]
  simp [joinUnits_written]

/-! ### Plain characters -/

/-- Whether a character is printed as itself in ASCII. -/
def Plain (c : Char) : Prop := 0x20 ≤ c.toNat ∧ c.toNat < 0x7f

instance : DecidablePred Plain := fun _ => inferInstanceAs (Decidable (_ ∧ _))

theorem plain_of_all {text : List Char} (h : text.all (fun c => decide (Plain c)) = true) : ∀ c ∈ text, Plain c := by
  simpa using h

theorem plain_unitEscape {unit : Nat} (h : unit < 65536) : ∀ c ∈ unitEscape unit, Plain c := by
  have hdigit : ∀ digit < 16, Plain (Nat.digitChar digit) := by decide
  simp only [unitEscape, hexText_four h, List.forall_mem_cons]
  exact ⟨by decide, by decide, hdigit _ (by omega), hdigit _ (by omega), hdigit _ (by omega),
    hdigit _ (by omega), List.forall_mem_nil _⟩

theorem plain_charEscape (c : Char) : ∀ d ∈ charEscape c, Plain d := by
  have hsmall := (not_half c).2.2
  unfold charEscape
  by_cases h : c.toNat < 0x10000
  · simp only [h, if_true]
    exact plain_unitEscape h
  · simp only [h, if_false, List.forall_mem_append]
    exact ⟨plain_unitEscape (by omega), plain_unitEscape (by omega)⟩

/-- The letters of escapes are plain. -/
theorem plain_of_escapeUnit {letter : Char} {unit : Nat} (h : escapeUnit? letter = some unit) : Plain letter := by
  unfold escapeUnit? at h
  split at h <;> first | decide | cases h

/-- A text is written with plain characters, whatever its own are. -/
theorem plain_asciiChar (c : Char) : ∀ d ∈ asciiChar c, Plain d := by
  unfold asciiChar
  cases hshort : shortEscape? c with
  | some escape =>
      obtain ⟨letter, rfl, hunit, -⟩ := shortEscape_cases hshort
      simp only [List.forall_mem_cons]
      exact ⟨by decide, plain_of_escapeUnit hunit, List.forall_mem_nil _⟩
  | none =>
      by_cases hplain : (0x20 ≤ c.toNat && c.toNat < 0x7f) = true
      · simp only [hplain, if_true, List.forall_mem_singleton]
        exact (by simpa using hplain : 0x20 ≤ c.toNat ∧ c.toNat < 0x7f)
      · simp only [hplain, Bool.false_eq_true, if_false]
        exact plain_charEscape c

/-! ### Whole numbers -/

/-- Whether a number ends where a text starts: no digit follows, no point and no exponent. -/
def Ends (rest : List Char) : Prop :=
  ∀ c ∈ rest.head?, c.isDigit = false ∧ c ≠ '.' ∧ c ≠ 'e' ∧ c ≠ 'E'

/-- Whether a text starts with a digit, or with a minus and a digit, as numbers do. -/
def StartsNumber (text : List Char) : Prop :=
  ∃ c more, text = c :: more ∧ (c.isDigit = true ∨ c = '-' ∧ ∃ d others, more = d :: others ∧ d.isDigit = true)

theorem isDigit_natText {n : Nat} {c : Char} (h : c ∈ natText n) : c.isDigit = true :=
  Nat.isDigit_of_mem_toDigits (by decide) (by decide) h

theorem plain_intText (n : Int) : ∀ c ∈ intText n, Plain c := by
  have hdigits : ∀ c ∈ natText n.natAbs, Plain c := by
    intro c hc
    have hdigit := isDigit_natText hc
    simp only [Char.isDigit, Bool.and_eq_true, decide_eq_true_eq] at hdigit
    exact ⟨le_trans (by decide) (UInt32.le_iff_toNat_le.mp hdigit.1),
      lt_of_le_of_lt (UInt32.le_iff_toNat_le.mp hdigit.2) (by decide)⟩
  unfold intText
  split
  · exact List.forall_mem_cons.mpr ⟨by decide, hdigits⟩
  · exact hdigits

theorem natOfDigits_natText (n : Nat) : natOfDigits ((natText n).map asciiDigit) = n := by
  induction n using Nat.strong_induction_on with
  | _ n ih =>
      have hdigit : ∀ digit < 10, asciiDigit (Nat.digitChar digit) = digit := by decide
      by_cases h : n < 10
      · have hsingle : natText n = [Nat.digitChar n] := Nat.toDigits_of_lt_base h
        simp [hsingle, natOfDigits, hdigit n h]
      · have hmore : natText n = natText (n / 10) ++ [Nat.digitChar (n % 10)] :=
          Nat.toDigits_of_base_le (by decide) (by omega)
        rw [hmore, List.map_append, List.map_singleton, natOfDigits_concat, ih (n / 10) (by omega),
          hdigit _ (by omega)]
        omega

/-- Only zero starts with a zero. -/
theorem natText_cons (n : Nat) :
    n = 0 ∧ natText n = ['0'] ∨ ∃ c rest, natText n = c :: rest ∧ c ≠ '0' ∧ c.isDigit = true := by
  induction n using Nat.strong_induction_on with
  | _ n ih =>
      by_cases h : n < 10
      · have hsingle : natText n = [Nat.digitChar n] := Nat.toDigits_of_lt_base h
        by_cases hzero : n = 0
        · exact Or.inl ⟨hzero, by rw [hzero]; rfl⟩
        · have hdigit : ∀ digit < 10, digit ≠ 0 → Nat.digitChar digit ≠ '0' ∧ (Nat.digitChar digit).isDigit = true := by
            decide
          exact Or.inr ⟨_, _, hsingle, hdigit n h hzero⟩
      · have hmore : natText n = natText (n / 10) ++ [Nat.digitChar (n % 10)] :=
          Nat.toDigits_of_base_le (by decide) (by omega)
        rcases ih (n / 10) (by omega) with ⟨hzero, -⟩ | ⟨c, rest, htext, hc, hdigit⟩
        · omega
        · refine Or.inr ⟨c, rest ++ [Nat.digitChar (n % 10)], ?_, hc, hdigit⟩
          rw [hmore, htext, List.cons_append]

theorem startsNumber_intText (n : Int) : StartsNumber (intText n) := by
  have hdigits : ∃ c more, natText n.natAbs = c :: more ∧ c.isDigit = true := by
    rcases natText_cons n.natAbs with ⟨-, hzero⟩ | ⟨c, more, htext, -, hdigit⟩
    · exact ⟨'0', [], hzero, by decide⟩
    · exact ⟨c, more, htext, hdigit⟩
  obtain ⟨c, more, htext, hdigit⟩ := hdigits
  unfold intText
  split
  · exact ⟨'-', natText n.natAbs, rfl, Or.inr ⟨rfl, c, more, htext, hdigit⟩⟩
  · exact ⟨c, more, htext, Or.inl hdigit⟩

theorem plainDigits_append {digits rest : List Char} (hdigits : ∀ c ∈ digits, c.isDigit = true)
    (hrest : ∀ c ∈ rest.head?, c.isDigit = false) : plainDigits (digits ++ rest) = (digits.map asciiDigit, rest) := by
  unfold plainDigits
  rw [List.takeWhile_append_of_pos hdigits, List.dropWhile_append_of_pos hdigits]
  cases rest with
  | nil => simp
  | cons c rest => simp [hrest c rfl]

theorem wholeDigits_written (n : Nat) {rest : List Char} (hrest : ∀ c ∈ rest.head?, c.isDigit = false) :
    wholeDigits? (natText n ++ rest) = some ((natText n).map asciiDigit, rest) := by
  rcases natText_cons n with ⟨-, hzero⟩ | ⟨c, more, htext, hc, -⟩
  · rw [hzero]
    rfl
  · have hdigits := plainDigits_append (fun c hin => isDigit_natText (n := n) hin) hrest
    rw [htext] at hdigits ⊢
    rw [List.cons_append] at hdigits ⊢
    rw [wholeDigits?, hdigits]
    · rfl
    · exact fun tail hsame => hc (List.cons.inj hsame).1

theorem placeDigits_of_ends {rest : List Char} (h : Ends rest) : placeDigits rest = ([], rest) := by
  unfold placeDigits
  split
  · exact absurd rfl (h '.' rfl).2.1
  · rfl

theorem exponentPart_of_ends {rest : List Char} (h : Ends rest) : exponentPart rest = (none, rest) := by
  cases rest with
  | nil => rfl
  | cons c rest =>
      obtain ⟨-, -, he, hE⟩ := h c rfl
      simp [exponentPart, he, hE]

/-- A whole number is read back, unless it has too many digits. -/
theorem number_written (n : Int) {rest : List Char} (h : Ends rest) :
    number (intText n ++ rest) =
      if maxDigits < (natText n.natAbs).length then .error (.oversized (natText n.natAbs).length)
      else .ok (.int n, rest) := by
  have hwhole : wholeDigits? (natText n.natAbs ++ rest) = some ((natText n.natAbs).map asciiDigit, rest) :=
    wholeDigits_written n.natAbs fun c hc => (h c hc).1
  have hvalue := natOfDigits_natText n.natAbs
  have hplaces := placeDigits_of_ends h
  have hexponent := exponentPart_of_ends h
  unfold intText
  by_cases hsign : n < 0
  · have hsigned : signed true n.natAbs = n := by simp only [signed, if_true]; omega
    simp [number, hsign, hwhole, hplaces, hexponent, hvalue, hsigned]
  · have hsigned : signed false n.natAbs = n := by simp only [signed, Bool.false_eq_true, if_false]; omega
    have hhead : ∃ c more, natText n.natAbs = c :: more ∧ c ≠ '-' := by
      cases htext : natText n.natAbs with
      | nil => exact absurd htext Nat.toDigits_ne_nil
      | cons c more =>
          have hdigit := isDigit_natText (htext ▸ List.mem_cons_self : c ∈ natText n.natAbs)
          exact ⟨c, more, rfl, fun hminus => absurd (hminus ▸ hdigit) (by decide)⟩
    obtain ⟨c, more, htext, hminus⟩ := hhead
    rw [htext, List.cons_append] at hwhole
    rw [htext, List.map_cons] at hvalue
    rw [if_neg hsign, htext, List.cons_append]
    unfold number
    split
    rename_i negative body hsplit
    split at hsplit
    · rename_i tail heq
      exact absurd (List.cons.inj heq).1 hminus
    · cases hsplit
      simp [hwhole, hplaces, hexponent, hvalue, hsigned]

end FixFirst.Json
