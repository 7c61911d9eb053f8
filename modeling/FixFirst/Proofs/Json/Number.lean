import FixFirst.Proofs.Decimal.Bits
import FixFirst.Proofs.Json.Token

/-!
# Numbers in documents

A binary number is written with the fewest digits that tell it, in one of four layouts, and is read back.  Every
layout spells the value of the digits, which lies in the interval around the number, and the number nearest to that
value is the number.

## Main definitions

* `Json.Spells` — whether a text spells a value.

## Main statements

* `Json.spells_digitsText` — every layout spells the value of the digits.
* `Json.number_float` — a finite number is read back, whatever follows it.
-/

namespace FixFirst.Json

open Text

/-! ### Digits -/

theorem natOfDigits_append (first second : List Nat) :
    natOfDigits (first ++ second) = natOfDigits first * 10 ^ second.length + natOfDigits second := by
  induction second using List.reverseRecOn with
  | nil => simp
  | append_singleton second digit ih =>
      rw [← List.append_assoc, natOfDigits_concat, natOfDigits_concat, ih, List.length_append, List.length_singleton, pow_succ]
      ring

theorem natOfDigits_zeros (count : Nat) : natOfDigits ((List.replicate count '0').map asciiDigit) = 0 := by
  have hzero : asciiDigit '0' = 0 := rfl
  rw [List.map_replicate, hzero]
  induction count with
  | zero => rfl
  | succ count ih => rw [List.replicate_succ', natOfDigits_concat, ih]

theorem isDigit_zeros {count : Nat} {c : Char} (h : c ∈ List.replicate count '0') : c.isDigit = true := by
  rw [List.eq_of_mem_replicate h]
  rfl

/-- Zeros before digits do not count. -/
theorem natOfDigits_zeros_natText (count n : Nat) :
    natOfDigits ((List.replicate count '0' ++ natText n).map asciiDigit) = n := by
  rw [List.map_append, natOfDigits_append, natOfDigits_zeros, natOfDigits_natText, zero_mul, zero_add]

/-! ### The parts of a number -/

/-- Whether digits are a whole part: there is a zero alone, or the first digit is another one. -/
structure Whole (text : List Char) : Prop where
  digits : ∀ c ∈ text, c.isDigit = true
  starts : text = ['0'] ∨ ∃ c more, text = c :: more ∧ c ≠ '0'

theorem Whole.head {whole : List Char} (h : Whole whole) : ∃ c more, whole = c :: more ∧ c.isDigit = true := by
  rcases h.starts with rfl | ⟨c, more, rfl, -⟩
  · exact ⟨'0', [], rfl, rfl⟩
  · exact ⟨c, more, rfl, h.digits c List.mem_cons_self⟩

theorem wholeDigits_append {whole rest : List Char} (hwhole : Whole whole) (hrest : ∀ c ∈ rest.head?, c.isDigit = false) :
    wholeDigits? (whole ++ rest) = some (whole.map asciiDigit, rest) := by
  rcases hwhole.starts with rfl | ⟨c, more, htext, hc⟩
  · rfl
  · have hdigits := plainDigits_append hwhole.digits hrest
    rw [htext, List.cons_append] at hdigits ⊢
    rw [wholeDigits?, hdigits]
    · rfl
    · exact fun tail hsame => hc (List.cons.inj hsame).1

theorem placeDigits_append {places rest : List Char} (hdigits : ∀ c ∈ places, c.isDigit = true) (hsome : places ≠ [])
    (hrest : ∀ c ∈ rest.head?, c.isDigit = false) :
    placeDigits ('.' :: places ++ rest) = (places.map asciiDigit, rest) := by
  simp [placeDigits, plainDigits_append hdigits hrest, hsome]

theorem exponentPart_append (negative : Bool) {digits rest : List Char} (hdigits : ∀ c ∈ digits, c.isDigit = true)
    (hsome : digits ≠ []) (hrest : ∀ c ∈ rest.head?, c.isDigit = false) :
    exponentPart ('e' :: (if negative then '-' else '+') :: digits ++ rest) =
      (some (signed negative (natOfDigits (digits.map asciiDigit))), rest) := by
  cases negative <;> simp [exponentPart, splitSign, plainDigits_append hdigits hrest, hsome]

/-- A number with places or an exponent is the one nearest to the value that they spell. -/
theorem number_of_parts (negative : Bool) {whole afterWhole afterPlaces rest : List Char} {places : List Nat}
    {exponent : Option Int} (hwhole : Whole whole) (hafter : ∀ c ∈ afterWhole.head?, c.isDigit = false)
    (hplaces : placeDigits afterWhole = (places, afterPlaces)) (hexponent : exponentPart afterPlaces = (exponent, rest))
    (hnumber : (places.isEmpty && exponent.isNone) = false) :
    number (signText negative ++ (whole ++ afterWhole)) =
      .ok (.num (nearestDecimal negative (natOfDigits (whole.map asciiDigit ++ places))
        (exponent.getD 0 - places.length)), rest) := by
  have hdigits := wholeDigits_append hwhole hafter
  cases negative with
  | true => simp [signText, number, hdigits, hplaces, hexponent, hnumber]
  | false =>
      obtain ⟨c, more, htext, hdigit⟩ := hwhole.head
      have hminus : c ≠ '-' := by
        rintro rfl
        exact absurd hdigit (by decide)
      rw [htext, List.cons_append] at hdigits
      rw [signText, if_neg (by decide), List.nil_append, htext, List.cons_append]
      unfold number
      split
      rename_i sign body hsplit
      split at hsplit
      · rename_i tail heq
        exact absurd (List.cons.inj heq).1 hminus
      · cases hsplit
        simp [hdigits, hplaces, hexponent, hnumber]

/-! ### The four layouts -/

/-- Whether a text spells a value: it starts with a digit, and it is read as the number nearest to digits of that
value. -/
structure Spells (body : List Char) (value : ℚ) : Prop where
  starts : ∃ c more, body = c :: more ∧ c.isDigit = true
  reads : ∀ negative rest, Ends rest → ∃ digits : Digits, digits.value = value ∧
    number (signText negative ++ (body ++ rest)) = .ok (.num (nearestDecimal negative digits.digits digits.exponent), rest)

/-- Digits around a point spell a value. -/
theorem spells_places {whole places : List Char} {value : ℚ} (hwhole : Whole whole)
    (hplaces : ∀ c ∈ places, c.isDigit = true) (hsome : places ≠ [])
    (hvalue : Digits.value ⟨natOfDigits ((whole ++ places).map asciiDigit), -places.length⟩ = value) :
    Spells (whole ++ '.' :: places) value := by
  obtain ⟨c, more, htext, hdigit⟩ := hwhole.head
  refine ⟨⟨c, more ++ '.' :: places, by rw [htext, List.cons_append], hdigit⟩, fun negative rest hends => ?_⟩
  refine ⟨_, hvalue, ?_⟩
  have hrest : ∀ c ∈ rest.head?, c.isDigit = false := fun c hc => (hends c hc).1
  have hpoint : ∀ c ∈ ('.' :: places ++ rest).head?, c.isDigit = false := by simp
  have hnumber := number_of_parts negative hwhole hpoint (placeDigits_append hplaces hsome hrest)
    (exponentPart_of_ends hends) (by simp [hsome])
  rw [List.append_assoc, hnumber]
  simp

/-- Digits with an exponent spell a value; there may be places among them. -/
theorem spells_exponent {whole places exponent : List Char} (negative : Bool) {value : ℚ} (hwhole : Whole whole)
    (hplaces : ∀ c ∈ places, c.isDigit = true) (hexponent : ∀ c ∈ exponent, c.isDigit = true) (hsome : exponent ≠ [])
    (hvalue : Digits.value ⟨natOfDigits ((whole ++ places).map asciiDigit),
      signed negative (natOfDigits (exponent.map asciiDigit)) - places.length⟩ = value) :
    Spells (whole ++ (if places.isEmpty then [] else '.' :: places) ++
      'e' :: (if negative then '-' else '+') :: exponent) value := by
  obtain ⟨c, more, htext, hdigit⟩ := hwhole.head
  refine ⟨⟨c, _, by rw [htext, List.cons_append, List.cons_append], hdigit⟩, fun sign rest hends => ?_⟩
  refine ⟨_, hvalue, ?_⟩
  have hrest : ∀ c ∈ rest.head?, c.isDigit = false := fun c hc => (hends c hc).1
  have hmark := exponentPart_append negative hexponent hsome hrest
  by_cases hempty : places = []
  · have hafter : placeDigits ('e' :: (if negative then '-' else '+') :: exponent ++ rest) =
        ([], 'e' :: (if negative then '-' else '+') :: exponent ++ rest) := rfl
    have hnumber := number_of_parts sign hwhole (by simp) hafter hmark rfl
    simpa [hempty] using hnumber
  · have hfollows : ∀ c ∈ ('e' :: (if negative then '-' else '+') :: exponent ++ rest).head?, c.isDigit = false := by simp
    have hafter := placeDigits_append hplaces hempty hfollows
    have hnumber := number_of_parts sign hwhole (by simp) hafter hmark (by simp)
    simpa [hempty] using hnumber

/-- Digits that do not start with a zero. -/
theorem whole_natText_append {n : Nat} (hn : n ≠ 0) {rest : List Char} (hrest : ∀ c ∈ rest, c.isDigit = true) :
    Whole (natText n ++ rest) := by
  rcases natText_cons n with ⟨hzero, -⟩ | ⟨c, more, htext, hc, -⟩
  · exact absurd hzero hn
  · refine ⟨?_, Or.inr ⟨c, more ++ rest, by rw [htext, List.cons_append], hc⟩⟩
    rw [List.forall_mem_append]
    exact ⟨fun c hc => isDigit_natText hc, hrest⟩

theorem whole_take_natText {n : Nat} (hn : n ≠ 0) (count : Nat) : Whole ((natText n).take (count + 1)) := by
  rcases natText_cons n with ⟨hzero, -⟩ | ⟨c, more, htext, hc, -⟩
  · exact absurd hzero hn
  · refine ⟨fun c hc => isDigit_natText (List.mem_of_mem_take hc), Or.inr ⟨c, more.take count, ?_, hc⟩⟩
    rw [htext, List.take_succ_cons]

theorem length_natText_pos (n : Nat) : 0 < (natText n).length := List.length_pos_iff.mpr Nat.toDigits_ne_nil

/-- Digits with zeros behind them, up to the point. -/
theorem spells_shifted {n : Nat} (hn : n ≠ 0) (count : Nat) :
    Spells (natText n ++ List.replicate count '0' ++ ['.', '0']) (Digits.value ⟨n, count⟩) := by
  have hlast : ['0'].map asciiDigit = [0] := rfl
  have hvalue : Digits.value ⟨natOfDigits ((natText n ++ List.replicate count '0' ++ ['0']).map asciiDigit),
      -(['0'].length : Int)⟩ = Digits.value ⟨n, count⟩ := by
    rw [Digits.value, Digits.value, List.map_append, List.map_append, hlast, natOfDigits_concat, natOfDigits_append,
      natOfDigits_natText, natOfDigits_zeros, List.length_map, List.length_replicate, List.length_singleton, Nat.cast_one,
      zpow_neg_one, zpow_natCast]
    push_cast
    ring
  exact spells_places (whole_natText_append hn fun c => isDigit_zeros) (List.forall_mem_singleton.mpr rfl)
    (List.cons_ne_nil _ _) hvalue

/-- Digits with the point among them. -/
theorem spells_divided {n : Nat} (hn : n ≠ 0) {count : Nat} (hcount : count + 1 < (natText n).length) :
    Spells ((natText n).take (count + 1) ++ '.' :: (natText n).drop (count + 1))
      (Digits.value ⟨n, -((natText n).length - (count + 1) : Nat)⟩) := by
  have hsome : (natText n).drop (count + 1) ≠ [] := by
    rw [← List.length_pos_iff, List.length_drop]
    omega
  refine spells_places (whole_take_natText hn count) (fun c hc => isDigit_natText (List.mem_of_mem_drop hc)) hsome ?_
  rw [List.take_append_drop, natOfDigits_natText, List.length_drop]

/-- Digits behind the point, with zeros before them. -/
theorem spells_below (n count : Nat) :
    Spells (['0', '.'] ++ List.replicate count '0' ++ natText n) (Digits.value ⟨n, -(count + (natText n).length : Nat)⟩) := by
  have hwhole : Whole ['0'] := ⟨List.forall_mem_singleton.mpr rfl, Or.inl rfl⟩
  have hdigits : ∀ c ∈ List.replicate count '0' ++ natText n, c.isDigit = true :=
    List.forall_mem_append.mpr ⟨fun c => isDigit_zeros, fun c => isDigit_natText⟩
  have hsome : List.replicate count '0' ++ natText n ≠ [] := List.append_ne_nil_of_right_ne_nil _ Nat.toDigits_ne_nil
  have hzero : natOfDigits (['0'].map asciiDigit) = 0 := rfl
  have hspells := spells_places hwhole hdigits hsome rfl
  rw [List.map_append, natOfDigits_append, hzero, zero_mul, zero_add, natOfDigits_zeros_natText, List.length_append,
    List.length_replicate] at hspells
  exact hspells

/-- A first digit, the others behind the point if there are any, and a power of ten. -/
theorem spells_powered {n : Nat} (hn : n ≠ 0) (leading : Int) (width : Nat) :
    Spells ((natText n).take 1 ++ (if ((natText n).drop 1).isEmpty then [] else '.' :: (natText n).drop 1) ++
        'e' :: (if leading < 0 then '-' else '+') :: zeroFill width (natText leading.natAbs))
      (Digits.value ⟨n, leading - ((natText n).length - 1 : Nat)⟩) := by
  have hdigits : ∀ c ∈ zeroFill width (natText leading.natAbs), c.isDigit = true := by
    rw [zeroFill, List.forall_mem_append]
    exact ⟨fun c => isDigit_zeros, fun c => isDigit_natText⟩
  have hsome : zeroFill width (natText leading.natAbs) ≠ [] :=
    List.append_ne_nil_of_right_ne_nil _ Nat.toDigits_ne_nil
  have hleading : signed (decide (leading < 0)) (natOfDigits ((zeroFill width (natText leading.natAbs)).map asciiDigit)) =
      leading := by
    rw [zeroFill, natOfDigits_zeros_natText, signed]
    simp only [decide_eq_true_eq]
    split <;> omega
  have hplaces : ∀ c ∈ (natText n).drop 1, c.isDigit = true := fun c hc => isDigit_natText (List.mem_of_mem_drop hc)
  have hspells := spells_exponent (decide (leading < 0)) (whole_take_natText hn 0) hplaces hdigits hsome rfl
  rw [List.take_append_drop, natOfDigits_natText, hleading, List.length_drop] at hspells
  simpa using hspells

/-- Every layout spells the value of the digits. -/
theorem spells_digitsText (style : NumberStyle) {digits : Digits} (hdigits : digits.digits ≠ 0) :
    Spells (style.digitsText digits) digits.value := by
  have hfilled := length_natText_pos digits.digits
  unfold NumberStyle.digitsText
  dsimp only
  split
  · split
    · rename_i hexponent
      have hspells := spells_shifted hdigits digits.exponent.toNat
      rwa [Int.toNat_of_nonneg hexponent] at hspells
    · rename_i hexponent
      split
      · rename_i hleading
        have hspells := spells_divided hdigits
          (by omega : ((natText digits.digits).length + digits.exponent - 1).toNat + 1 < (natText digits.digits).length)
        have hplaces : -((natText digits.digits).length -
            (((natText digits.digits).length + digits.exponent - 1).toNat + 1) : Nat) = digits.exponent := by
          omega
        rwa [hplaces] at hspells
      · rename_i hleading
        have hspells := spells_below digits.digits (-((natText digits.digits).length + digits.exponent - 1) - 1).toNat
        have hplaces : -((-((natText digits.digits).length + digits.exponent - 1) - 1).toNat +
            (natText digits.digits).length : Nat) = digits.exponent := by
          omega
        rwa [hplaces] at hspells
  · have hspells := spells_powered hdigits ((natText digits.digits).length + digits.exponent - 1) style.exponentWidth
    have hexponent : (natText digits.digits).length + digits.exponent - 1 - ((natText digits.digits).length - 1 : Nat) =
        digits.exponent := by
      omega
    rwa [hexponent] at hspells

/-! ### Binary numbers -/

/-- A finite number is written by its sign and a text that spells a number in its interval, or zero. -/
theorem spells_float (style : NumberStyle) {x : Float} (h : Quantity.isFinite x = true) :
    ∃ body value, style.text x = signText (negativeBits x.toBits) ++ body ∧ Spells body value ∧
      ∀ digits : Digits, digits.value = value → nearestDecimal (negativeBits x.toBits) digits.digits digits.exponent = x := by
  have hproper := proper_ofBits x.toBits
  have hunit : 0 < (twoPower (Scaled.ofBits x.toBits).exponent).1 := (twoPower_pos _).1
  unfold NumberStyle.text
  rw [(ofFloat_of_finite h).1]
  by_cases hzero : (Scaled.ofBits x.toBits).significand = 0
  · have hwhole : Whole ['0'] := ⟨List.forall_mem_singleton.mpr rfl, Or.inl rfl⟩
    have hspells : Spells (['0'] ++ '.' :: ['0']) 0 := by
      refine spells_places hwhole (List.forall_mem_singleton.mpr rfl) (List.cons_ne_nil _ _) ?_
      have hnone : natOfDigits ((['0'] ++ ['0']).map asciiDigit) = 0 := rfl
      rw [Digits.value, hnone, Nat.cast_zero, zero_mul]
    refine ⟨_, 0, rfl, by simpa [hzero] using hspells, fun digits hvalue => ?_⟩
    have hdigits : digits.digits = 0 := by
      have hpower := (ten_zpow_pos digits.exponent).ne'
      simpa [Digits.value, hpower] using hvalue
    simp [nearestDecimal, hdigits, nearest_zero hzero]
  · have htakes := takes_shortest hproper hzero
    have hdigits : (shortest (Scaled.ofBits x.toBits)).digits ≠ 0 := by
      intro hnone
      have hpos := htakes.pos hzero
      simp [Digits.value, hnone] at hpos
    refine ⟨_, _, rfl, by simpa [hzero, hunit.ne'] using spells_digitsText style hdigits, fun digits hvalue => ?_⟩
    exact nearestDecimal_of_takes h hzero (hvalue ▸ htakes)

theorem startsNumber_float (style : NumberStyle) {x : Float} (h : Quantity.isFinite x = true) :
    StartsNumber (style.text x) := by
  obtain ⟨body, value, htext, hspells, -⟩ := spells_float style h
  obtain ⟨c, more, rfl, hdigit⟩ := hspells.starts
  rw [htext, signText]
  split
  · exact ⟨'-', _, rfl, Or.inr ⟨rfl, c, more, rfl, hdigit⟩⟩
  · exact ⟨c, more, rfl, Or.inl hdigit⟩

/-- A finite number is read back, whatever follows it. -/
theorem number_float (style : NumberStyle) {x : Float} (h : Quantity.isFinite x = true) {rest : List Char}
    (hends : Ends rest) : number (style.text x ++ rest) = .ok (.num x, rest) := by
  obtain ⟨body, value, htext, hspells, hnearest⟩ := spells_float style h
  obtain ⟨digits, hvalue, hnumber⟩ := hspells.reads (negativeBits x.toBits) rest hends
  rw [htext, List.append_assoc, hnumber, hnearest digits hvalue]

end FixFirst.Json
