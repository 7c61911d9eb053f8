import FixFirst.Proofs.Json.Number

/-!
# Documents read back

A document may be laid out with white space between its parts in many ways.  However it is laid out,
reading gives the value it was written from, as long as the value is one that a document can say,
its whole numbers are not too long, and it is not nested too deeply.  A value that is one of the
latter two is refused for that.

## Main definitions

* `Spacing` — the white space between the parts of a document.
* `Json.spaced` — a document with a spacing; `Spacing.oneLine` is the usual one for a single line.
* `Json.Definite` — whether a document can say a value; `Json.Exact` — whether its numbers are whole besides.
* `Json.Short`, `Json.nesting` — whether whole numbers are short, and how deep a value is nested.

## Main statements

* `value_spaced` — what reading the start of a text gives where a document stands.
* `read_spaced` — what reading a document gives.
* `plain_spaced` — a document in one line consists of plain characters.
-/

namespace FixFirst

/-- The white space of a document: behind a bracket that opens at a depth, behind a comma, before the
bracket that closes, and behind a colon. -/
structure Spacing where
  opening : Nat → List Char
  comma : Nat → List Char
  closing : Nat → List Char
  colon : List Char

namespace Spacing

/-- A document in one line: a space behind each comma and each colon. -/
def oneLine : Spacing := ⟨fun _ => [], fun _ => [' '], fun _ => [], [' ']⟩

/-- Whether it is all white space. -/
structure Blank (gaps : Spacing) : Prop where
  opening : ∀ depth, ∀ c ∈ gaps.opening depth, Json.isSpace c = true
  comma : ∀ depth, ∀ c ∈ gaps.comma depth, Json.isSpace c = true
  closing : ∀ depth, ∀ c ∈ gaps.closing depth, Json.isSpace c = true
  colon : ∀ c ∈ gaps.colon, Json.isSpace c = true

theorem blank_oneLine : oneLine.Blank := by
  constructor <;> simp [oneLine, Json.isSpace]

/-- Parts between two brackets; without parts the brackets touch. -/
def bracket (gaps : Spacing) (opening closing : Char) (depth : Nat) (parts : List (List Char)) : List Char :=
  if parts.isEmpty then [opening, closing]
  else opening :: gaps.opening depth ++ Json.separated (',' :: gaps.comma depth) parts ++ gaps.closing depth ++ [closing]

end Spacing

namespace Json

open Text

mutual

/-- A document of ASCII characters with a spacing. -/
def spaced (gaps : Spacing) (depth : Nat) : Json → List Char
  | .null => "null".toList
  | .bool value => boolText value
  | .int value => intText value
  | .num value => numberStyle.text value
  | .str value => textWith asciiChar value
  | .arr items => gaps.bracket '[' ']' depth (spacedItems gaps (depth + 1) items)
  | .obj members => gaps.bracket '\x7b' '\x7d' depth (spacedMembers gaps (depth + 1) members)

/-- `spaced` on the items of an array. -/
def spacedItems (gaps : Spacing) (depth : Nat) : List Json → List (List Char)
  | [] => []
  | value :: rest => spaced gaps depth value :: spacedItems gaps depth rest

/-- `spaced` on the members of an object. -/
def spacedMembers (gaps : Spacing) (depth : Nat) : List (String × Json) → List (List Char)
  | [] => []
  | (key, value) :: rest =>
    (textWith asciiChar key ++ ':' :: gaps.colon ++ spaced gaps depth value) :: spacedMembers gaps depth rest

end

section

variable (gaps : Spacing) (depth : Nat)

theorem spaced_int (n : Int) : spaced gaps depth (.int n) = intText n := rfl

theorem spaced_num (x : Float) : spaced gaps depth (.num x) = numberStyle.text x := rfl

theorem spaced_str (body : String) : spaced gaps depth (.str body) = textWith asciiChar body := rfl

theorem spaced_bool (truth : Bool) : spaced gaps depth (.bool truth) = boolText truth := rfl

theorem spaced_null : spaced gaps depth .null = ['n', 'u', 'l', 'l'] := rfl

theorem spaced_arr (items : List Json) :
    spaced gaps depth (.arr items) = gaps.bracket '[' ']' depth (spacedItems gaps (depth + 1) items) := rfl

theorem spaced_obj (members : List (String × Json)) :
    spaced gaps depth (.obj members) = gaps.bracket '\x7b' '\x7d' depth (spacedMembers gaps (depth + 1) members) := rfl

/-- What stands between brackets starts with the first of them. -/
theorem bracket_cons (opening closing : Char) (parts : List (List Char)) :
    ∃ more, gaps.bracket opening closing depth parts = opening :: more := by
  unfold Spacing.bracket
  split
  · exact ⟨_, rfl⟩
  · exact ⟨_, rfl⟩

end

mutual

/-- Whether a document can say a value exactly: its numbers are whole, and no object has a key twice. -/
def Exact : Json → Prop
  | .num _ => False
  | .arr items => ExactItems items
  | .obj members => (members.map (·.1)).Nodup ∧ ExactMembers members
  | _ => True

/-- `Exact` of all items of an array. -/
def ExactItems : List Json → Prop
  | [] => True
  | value :: rest => Exact value ∧ ExactItems rest

/-- `Exact` of all members of an object. -/
def ExactMembers : List (String × Json) → Prop
  | [] => True
  | (_, value) :: rest => Exact value ∧ ExactMembers rest

end

mutual

/-- Whether a document can say a value: its numbers are finite, and no object has a key twice. -/
def Definite : Json → Prop
  | .num value => Quantity.isFinite value = true
  | .arr items => DefiniteItems items
  | .obj members => (members.map (·.1)).Nodup ∧ DefiniteMembers members
  | _ => True

/-- `Definite` of all items of an array. -/
def DefiniteItems : List Json → Prop
  | [] => True
  | value :: rest => Definite value ∧ DefiniteItems rest

/-- `Definite` of all members of an object. -/
def DefiniteMembers : List (String × Json) → Prop
  | [] => True
  | (_, value) :: rest => Definite value ∧ DefiniteMembers rest

end

mutual

/-- What a document can say with whole numbers, it can say. -/
theorem Exact.definite : ∀ {value : Json}, value.Exact → value.Definite
  | .null, _ => trivial
  | .bool _, _ => trivial
  | .int _, _ => trivial
  | .num _, hexact => absurd hexact id
  | .str _, _ => trivial
  | .arr _, hexact => ExactItems.definite hexact
  | .obj _, hexact => ⟨hexact.1, ExactMembers.definite hexact.2⟩

/-- `Exact.definite` on the items of an array. -/
theorem ExactItems.definite : ∀ {items : List Json}, ExactItems items → DefiniteItems items
  | [], _ => trivial
  | _ :: _, hexact => ⟨hexact.1.definite, ExactItems.definite hexact.2⟩

/-- `Exact.definite` on the members of an object. -/
theorem ExactMembers.definite : ∀ {members : List (String × Json)}, ExactMembers members → DefiniteMembers members
  | [], _ => trivial
  | (_, _) :: _, hexact => ⟨hexact.1.definite, ExactMembers.definite hexact.2⟩

end

mutual

/-- Whether no whole number has too many digits. -/
def Short : Json → Prop
  | .int value => (natText value.natAbs).length ≤ maxDigits
  | .arr items => ShortItems items
  | .obj members => ShortMembers members
  | _ => True

/-- `Short` of all items of an array. -/
def ShortItems : List Json → Prop
  | [] => True
  | value :: rest => Short value ∧ ShortItems rest

/-- `Short` of all members of an object. -/
def ShortMembers : List (String × Json) → Prop
  | [] => True
  | (_, value) :: rest => Short value ∧ ShortMembers rest

end

mutual

/-- How deep arrays and objects lie in one another. -/
def nesting : Json → Nat
  | .arr items => nestingItems items + 1
  | .obj members => nestingMembers members + 1
  | _ => 0

/-- The greatest `nesting` of the items of an array. -/
def nestingItems : List Json → Nat
  | [] => 0
  | value :: rest => max (nesting value) (nestingItems rest)

/-- The greatest `nesting` of the members of an object. -/
def nestingMembers : List (String × Json) → Nat
  | [] => 0
  | (_, value) :: rest => max (nesting value) (nestingMembers rest)

end

theorem exactItems_iff {items : List Json} : ExactItems items ↔ ∀ item ∈ items, item.Exact := by
  induction items with
  | nil => simp [ExactItems]
  | cons item items ih => rw [ExactItems, ih, List.forall_mem_cons]

theorem shortItems_iff {items : List Json} : ShortItems items ↔ ∀ item ∈ items, item.Short := by
  induction items with
  | nil => simp [ShortItems]
  | cons item items ih => rw [ShortItems, ih, List.forall_mem_cons]

theorem nestingItems_le_iff {items : List Json} {depth : Nat} :
    nestingItems items ≤ depth ↔ ∀ item ∈ items, item.nesting ≤ depth := by
  induction items with
  | nil => simp [nestingItems]
  | cons item items ih => rw [nestingItems, max_le_iff, ih, List.forall_mem_cons]

/-! ### White space -/

theorem skipSpace_of_head {c : Char} {rest : List Char} (h : isSpace c = false) : skipSpace (c :: rest) = c :: rest := by
  simp [skipSpace, h]

theorem skipSpace_append {gap : List Char} (h : ∀ c ∈ gap, isSpace c = true) (rest : List Char) :
    skipSpace (gap ++ rest) = skipSpace rest := by
  unfold skipSpace
  exact List.dropWhile_append_of_pos h

/-- A number starts with a character that is no white space and closes nothing. -/
theorem StartsNumber.filled {text : List Char} (h : StartsNumber text) :
    ∃ c rest, text = c :: rest ∧ isSpace c = false ∧ c ≠ ']' ∧ c ≠ '\x7d' := by
  obtain ⟨c, rest, rfl, hstart⟩ := h
  have hother : ∀ d : Char, d.isDigit = false → d ≠ '-' → c ≠ d := by
    rintro d hdigit hminus rfl
    rcases hstart with hstart | ⟨hstart, -⟩
    · exact Bool.false_ne_true (hdigit.symm.trans hstart)
    · exact hminus hstart
  refine ⟨c, rest, rfl, ?_, hother _ (by decide) (by decide), hother _ (by decide) (by decide)⟩
  simp [isSpace, hother ' ' (by decide) (by decide), hother '\t' (by decide) (by decide),
    hother '\n' (by decide) (by decide), hother '\r' (by decide) (by decide)]

/-- A document starts with a character that is no white space and closes nothing. -/
theorem spaced_cons (gaps : Spacing) (depth : Nat) {value : Json} (h : value.Definite) :
    ∃ c rest, spaced gaps depth value = c :: rest ∧ isSpace c = false ∧ c ≠ ']' ∧ c ≠ '\x7d' := by
  cases value with
  | null => exact ⟨'n', _, rfl, by decide, by decide, by decide⟩
  | bool value => cases value <;> exact ⟨_, _, rfl, by decide, by decide, by decide⟩
  | int value => exact (startsNumber_intText value).filled
  | num value => exact (startsNumber_float numberStyle h).filled
  | str value => exact ⟨'"', _, rfl, by decide, by decide, by decide⟩
  | arr items =>
      obtain ⟨more, htext⟩ := bracket_cons gaps depth '[' ']' (spacedItems gaps (depth + 1) items)
      exact ⟨'[', more, htext, by decide, by decide, by decide⟩
  | obj members =>
      obtain ⟨more, htext⟩ := bracket_cons gaps depth '\x7b' '\x7d' (spacedMembers gaps (depth + 1) members)
      exact ⟨'\x7b', more, htext, by decide, by decide, by decide⟩

/-! ### Reading -/

/-- What comes of reading a value that is short or not and fits or not: the value, a fault of its depth, or
another fault that is more than a flaw of the grammar. -/
structure Verdict (short fits : Prop) (good result : Except ReadFault (Json × List Char)) : Prop where
  reads : short → fits → result = good
  deep : short → ¬ fits → result = .error .deepArray ∨ result = .error .deepObject
  long : ¬ short → ∃ fault, result = .error fault ∧ fault ≠ .malformed

namespace Verdict

variable {short fits : Prop} {good : Except ReadFault (Json × List Char)}

theorem good_of (hshort : short) (hfits : fits) : Verdict short fits good good :=
  ⟨fun _ _ => rfl, fun _ h => absurd hfits h, fun h => absurd hshort h⟩

/-- Too deep, whatever else. -/
theorem error_of {fault : ReadFault} (hfits : ¬ fits) (hdeep : fault = .deepArray ∨ fault = .deepObject) :
    Verdict short fits good (.error fault) := by
  refine ⟨fun _ h => absurd h hfits, fun _ _ => ?_, fun _ => ⟨fault, rfl, ?_⟩⟩
  · exact hdeep.imp (congrArg _) (congrArg _)
  · rcases hdeep with rfl | rfl <;> simp

theorem congr {shortOther fitsOther : Prop} {result : Except ReadFault (Json × List Char)}
    (h : Verdict short fits good result) (hshort : shortOther ↔ short) (hfits : fitsOther ↔ fits) :
    Verdict shortOther fitsOther good result := by
  rw [propext hshort, propext hfits]
  exact h

/-- Reading a value and then the rest: the rest is read when the value is. -/
theorem step {shortFirst fitsFirst shortRest fitsRest : Prop} {item : Json} {after : List Char}
    {first result : Except ReadFault (Json × List Char)} (h : Verdict shortFirst fitsFirst (.ok (item, after)) first)
    (hshort : short ↔ shortFirst ∧ shortRest) (hfits : fits ↔ fitsFirst ∧ fitsRest)
    (hgood : first = .ok (item, after) → Verdict shortRest fitsRest good result)
    (herror : ∀ fault, first = .error fault → result = .error fault) : Verdict short fits good result := by
  by_cases hs : shortFirst
  · by_cases hf : fitsFirst
    · exact (hgood (h.reads hs hf)).congr (by simp [hshort, hs]) (by simp [hfits, hf])
    · have hnone : ¬ fits := fun hboth => hf (hfits.mp hboth).1
      rcases h.deep hs hf with hfirst | hfirst
      · rw [herror _ hfirst]
        exact error_of hnone (Or.inl rfl)
      · rw [herror _ hfirst]
        exact error_of hnone (Or.inr rfl)
  · obtain ⟨fault, hfirst, hfault⟩ := h.long hs
    have hnone : ¬ short := fun hboth => hs (hshort.mp hboth).1
    rw [herror _ hfirst]
    exact ⟨fun hboth => absurd hboth hnone, fun hboth => absurd hboth hnone, fun _ => ⟨fault, rfl, hfault⟩⟩

end Verdict

theorem ends_of_head {c : Char} {rest : List Char} (h : c = ',' ∨ c = ']' ∨ c = '\x7d' ∨ isSpace c = true) :
    Ends (c :: rest) := by
  intro d hd
  cases Option.some.inj hd
  rcases h with rfl | rfl | rfl | hspace
  · decide
  · decide
  · decide
  · simp only [isSpace, Bool.or_eq_true, decide_eq_true_eq] at hspace
    rcases hspace with ((rfl | rfl) | rfl) | rfl <;> decide

/-- A number ends before white space and a bracket or comma. -/
theorem ends_gap {gap : List Char} (hgap : ∀ c ∈ gap, isSpace c = true) {c : Char} (rest : List Char)
    (h : c = ',' ∨ c = ']' ∨ c = '\x7d') : Ends (gap ++ c :: rest) := by
  cases gap with
  | nil =>
      apply ends_of_head
      rcases h with rfl | rfl | rfl <;> simp
  | cons d gap =>
      apply ends_of_head
      exact Or.inr (Or.inr (Or.inr (hgap d List.mem_cons_self)))

theorem value_number (fuel room : Nat) {text : List Char} (h : StartsNumber text) (rest : List Char) :
    value (fuel + 1) room (text ++ rest) = number (text ++ rest) := by
  obtain ⟨c, more, htext, hc⟩ := h
  have hother : ∀ d others, d.isDigit = false → d ≠ '-' → c :: (more ++ rest) = d :: others → False := by
    intro d others hdigit hminus hsame
    obtain ⟨rfl, -⟩ := List.cons.inj hsame
    rcases hc with hc | ⟨hc, -⟩
    · exact Bool.false_ne_true (hdigit.symm.trans hc)
    · exact hminus hc
  have hinfinite : ∀ others, c :: (more ++ rest) = '-' :: 'I' :: others → False := by
    rintro others hsame
    rw [List.cons.injEq] at hsame
    rcases hc with hc | ⟨-, d, digits, hmore, hdigit⟩
    · exact absurd (hsame.1 ▸ hc) (by decide)
    · rw [hmore, List.cons_append] at hsame
      exact absurd ((List.cons.inj hsame.2).1 ▸ hdigit) (by decide)
  rw [htext, List.cons_append, value]
  iterate 8 exact fun _ => hother _ _ (by decide) (by decide)
  exact fun _ => hinfinite _

/-- What reading gives at the start of a text where a document stands. -/
def ReadsValue (gaps : Spacing) (value : Json) : Prop :=
  ∀ depth fuel room rest, 2 * (spaced gaps depth value).length ≤ fuel → Ends rest →
    Verdict (Short value) (nesting value ≤ room) (.ok (value, rest))
      (Json.value fuel room (spaced gaps depth value ++ rest))

/-- What reading gives where the items of an array stand, up to its end. -/
def ReadsItems (gaps : Spacing) (items : List Json) : Prop :=
  ∀ depth fuel room rest done, items ≠ [] →
    2 * (separated (',' :: gaps.comma depth) (spacedItems gaps (depth + 1) items)).length + 1 ≤ fuel →
    Verdict (ShortItems items) (nestingItems items ≤ room) (.ok (.arr (done.reverse ++ items), rest))
      (elements fuel room done (separated (',' :: gaps.comma depth) (spacedItems gaps (depth + 1) items) ++
        gaps.closing depth ++ ']' :: rest))

/-- What reading gives where the members of an object stand, up to its end. -/
def ReadsMembers (gaps : Spacing) (members : List (String × Json)) : Prop :=
  ∀ depth fuel room rest done, members ≠ [] → ((done ++ members).map (·.1)).Nodup →
    2 * (separated (',' :: gaps.comma depth) (spacedMembers gaps (depth + 1) members)).length + 1 ≤ fuel →
    Verdict (ShortMembers members) (nestingMembers members ≤ room) (.ok (.obj (done ++ members), rest))
      (entries fuel room done (separated (',' :: gaps.comma depth) (spacedMembers gaps (depth + 1) members) ++
        gaps.closing depth ++ '\x7d' :: rest))

theorem separated_cons_cons (separator first second : List Char) (rest : List (List Char)) :
    separated separator (first :: second :: rest) = first ++ separator ++ separated separator (second :: rest) := rfl

theorem put_of_fresh {done : Keyed Json} {key : String} {item : Json} (h : key ∉ done.map (·.1)) :
    done.put key item = done ++ [(key, item)] := by
  induction done with
  | nil => rfl
  | cons entry done ih =>
      rw [List.map_cons, List.mem_cons, not_or] at h
      simp [Keyed.put, Ne.symm h.1, ih h.2]

section

variable {gaps : Spacing}

/-- The items of an array start with a character that is no white space and closes nothing. -/
theorem separated_items_cons (gaps : Spacing) (depth : Nat) {item : Json} (items : List Json) (hitem : item.Definite) :
    ∃ c more, separated (',' :: gaps.comma depth) (spacedItems gaps (depth + 1) (item :: items)) = c :: more ∧
      isSpace c = false ∧ c ≠ ']' := by
  obtain ⟨c, more, htext, hspace, hclose, -⟩ := spaced_cons gaps (depth + 1) hitem
  cases items with
  | nil => exact ⟨c, more, by simp [spacedItems, separated, htext], hspace, hclose⟩
  | cons second others =>
      rw [spacedItems, spacedItems, separated_cons_cons, htext]
      exact ⟨c, _, rfl, hspace, hclose⟩

/-- The members of an object start with a quote. -/
theorem separated_members_cons (gaps : Spacing) (depth : Nat) (key : String) (value : Json)
    (members : List (String × Json)) :
    ∃ more, separated (',' :: gaps.comma depth) (spacedMembers gaps (depth + 1) ((key, value) :: members)) = '"' :: more := by
  cases members with
  | nil => exact ⟨_, rfl⟩
  | cons second others =>
      obtain ⟨nextKey, nextValue⟩ := second
      rw [spacedMembers, spacedMembers, separated_cons_cons]
      exact ⟨_, rfl⟩

theorem readsItems_cons (hgaps : gaps.Blank) {item : Json} {items : List Json} (hdefinite : DefiniteItems items)
    (hitem : ReadsValue gaps item) (hitems : ReadsItems gaps items) : ReadsItems gaps (item :: items) := by
  intro depth fuel room rest done _ hfuel
  cases fuel with
  | zero => omega
  | succ fuel =>
      cases items with
      | nil =>
          simp only [spacedItems, separated] at hfuel ⊢
          have hends : Ends (gaps.closing depth ++ ']' :: rest) := ends_gap (hgaps.closing depth) rest (by simp)
          have hfirst := hitem (depth + 1) fuel room _ (by omega) hends
          rw [List.append_assoc, elements_item]
          refine hfirst.step Iff.rfl max_le_iff (fun hgood => ?_) fun fault hfault => ?_
          · simp only [hgood, skipSpace_append (hgaps.closing depth), skipSpace_of_head (by decide : isSpace ']' = false)]
            rw [List.reverse_cons]
            exact Verdict.good_of trivial (Nat.zero_le room)
          · simp only [hfault]
      | cons second others =>
          obtain ⟨c, more, hnext, hspace, -⟩ := separated_items_cons gaps depth others hdefinite.1
          rw [spacedItems, spacedItems, separated_cons_cons, ← spacedItems] at hfuel ⊢
          simp only [List.length_append, List.length_cons] at hfuel
          have hends : ∀ tail, Ends (',' :: tail) := fun tail => ends_of_head (Or.inl rfl)
          have hfirst := hitem (depth + 1) fuel room _ (by omega) (hends (gaps.comma depth ++
            (separated (',' :: gaps.comma depth) (spacedItems gaps (depth + 1) (second :: others)) ++
              (gaps.closing depth ++ ']' :: rest))))
          have hothers := hitems depth fuel room rest (item :: done) (by simp) (by omega)
          rw [elements_item]
          simp only [List.append_assoc, List.cons_append] at hfirst ⊢
          refine hfirst.step Iff.rfl max_le_iff (fun hgood => ?_) fun fault hfault => ?_
          · simp only [hgood, skipSpace_of_head (by decide : isSpace ',' = false), skipSpace_append (hgaps.comma depth)]
            rw [hnext, List.cons_append, skipSpace_of_head hspace, ← List.cons_append, ← hnext]
            simpa using hothers
          · simp only [hfault]

theorem readsMembers_cons (hgaps : gaps.Blank) (key : String) {item : Json} {members : List (String × Json)}
    (hdefinite : item.Definite) (hitem : ReadsValue gaps item) (hmembers : ReadsMembers gaps members) :
    ReadsMembers gaps ((key, item) :: members) := by
  intro depth fuel room rest done _ hkeys hfuel
  have hfresh : key ∉ done.map (·.1) := by
    rw [List.map_append, List.map_cons, List.nodup_append] at hkeys
    exact fun hin => hkeys.2.2 key hin key List.mem_cons_self rfl
  obtain ⟨c, more, htext, hspace, -⟩ := spaced_cons gaps (depth + 1) hdefinite
  cases fuel with
  | zero => omega
  | succ fuel =>
      cases members with
      | nil =>
          simp only [spacedMembers, separated, textWith, List.length_append, List.length_cons] at hfuel ⊢
          have hends : Ends (gaps.closing depth ++ '\x7d' :: rest) := ends_gap (hgaps.closing depth) rest (by simp)
          have hfirst := hitem (depth + 1) fuel room _ (by omega) hends
          simp only [List.append_assoc, List.cons_append, List.nil_append]
          rw [entries_member, text_written]
          simp only [skipSpace_of_head (by decide : isSpace ':' = false), skipSpace_append hgaps.colon]
          rw [htext, List.cons_append, skipSpace_of_head hspace, ← List.cons_append, ← htext]
          refine hfirst.step Iff.rfl max_le_iff (fun hgood => ?_) fun fault hfault => ?_
          · simp only [hgood, skipSpace_append (hgaps.closing depth), skipSpace_of_head (by decide : isSpace '\x7d' = false)]
            rw [put_of_fresh hfresh]
            exact Verdict.good_of trivial (Nat.zero_le room)
          · simp only [hfault]
      | cons second others =>
          obtain ⟨nextKey, nextItem⟩ := second
          obtain ⟨tail, hnext⟩ := separated_members_cons gaps depth nextKey nextItem others
          rw [spacedMembers, spacedMembers, separated_cons_cons, ← spacedMembers] at hfuel ⊢
          simp only [textWith, List.length_append, List.length_cons] at hfuel
          have hends : ∀ tail, Ends (',' :: tail) := fun tail => ends_of_head (Or.inl rfl)
          have hfirst := hitem (depth + 1) fuel room _ (by omega) (hends (gaps.comma depth ++
            (separated (',' :: gaps.comma depth) (spacedMembers gaps (depth + 1) ((nextKey, nextItem) :: others)) ++
              (gaps.closing depth ++ '\x7d' :: rest))))
          have hothers := hmembers depth fuel room rest (done ++ [(key, item)]) (by simp) (by simpa using hkeys) (by omega)
          simp only [textWith, List.append_assoc, List.cons_append, List.nil_append] at hfirst hothers ⊢
          rw [entries_member, text_written]
          simp only [skipSpace_of_head (by decide : isSpace ':' = false), skipSpace_append hgaps.colon]
          rw [htext, List.cons_append, skipSpace_of_head hspace, ← List.cons_append, ← htext]
          refine hfirst.step Iff.rfl max_le_iff (fun hgood => ?_) fun fault hfault => ?_
          · simp only [hgood, skipSpace_of_head (by decide : isSpace ',' = false), skipSpace_append (hgaps.comma depth)]
            rw [put_of_fresh hfresh, hnext, List.cons_append, skipSpace_of_head (by decide), ← List.cons_append, ← hnext]
            simpa using hothers
          · simp only [hfault]

/-- The verdict on an array or object is that on its parts, with room for one level less. -/
theorem readsValue_arr (hgaps : gaps.Blank) {items : List Json} (hdefinite : DefiniteItems items)
    (hitems : ReadsItems gaps items) : ReadsValue gaps (.arr items) := by
  intro depth fuel room rest hfuel _
  obtain ⟨more, hopening⟩ := bracket_cons gaps depth '[' ']' (spacedItems gaps (depth + 1) items)
  rw [← spaced_arr] at hopening
  cases fuel with
  | zero =>
      rw [hopening, List.length_cons] at hfuel
      omega
  | succ fuel =>
      cases room with
      | zero =>
          rw [hopening, List.cons_append, value_deepArray]
          exact Verdict.error_of (by simp [nesting]) (Or.inl rfl)
      | succ inside =>
          cases items with
          | nil =>
              have htext : spaced gaps depth (.arr []) = ['[', ']'] := rfl
              rw [htext, List.cons_append, List.singleton_append, value_array, skipSpace_of_head (by decide)]
              exact Verdict.good_of trivial (by simp [nesting, nestingItems])
          | cons item items =>
              obtain ⟨c, more, hstart, hspace, hclose⟩ := separated_items_cons gaps depth items hdefinite.1
              have htext : spaced gaps depth (.arr (item :: items)) = '[' :: gaps.opening depth ++
                  separated (',' :: gaps.comma depth) (spacedItems gaps (depth + 1) (item :: items)) ++
                  gaps.closing depth ++ [']'] := rfl
              rw [htext] at hfuel ⊢
              simp only [List.length_append, List.length_cons, List.length_nil] at hfuel
              have hverdict := hitems depth fuel inside rest [] (by simp) (by omega)
              simp only [List.append_assoc, List.cons_append, List.nil_append] at hverdict ⊢
              rw [value_array]
              simp only [skipSpace_append (hgaps.opening depth)]
              rw [hstart, List.cons_append] at hverdict ⊢
              rw [skipSpace_of_head hspace]
              split
              · rename_i after hsame
                exact absurd (List.cons.inj hsame).1 hclose
              · exact hverdict.congr Iff.rfl Nat.add_le_add_iff_right

theorem readsValue_obj (hgaps : gaps.Blank) {members : List (String × Json)} (hkeys : (members.map (·.1)).Nodup)
    (hmembers : ReadsMembers gaps members) : ReadsValue gaps (.obj members) := by
  intro depth fuel room rest hfuel _
  obtain ⟨more, hopening⟩ := bracket_cons gaps depth '\x7b' '\x7d' (spacedMembers gaps (depth + 1) members)
  rw [← spaced_obj] at hopening
  cases fuel with
  | zero =>
      rw [hopening, List.length_cons] at hfuel
      omega
  | succ fuel =>
      cases room with
      | zero =>
          rw [hopening, List.cons_append, value_deepObject]
          exact Verdict.error_of (by simp [nesting]) (Or.inr rfl)
      | succ inside =>
          cases members with
          | nil =>
              have htext : spaced gaps depth (.obj []) = ['\x7b', '\x7d'] := rfl
              rw [htext, List.cons_append, List.singleton_append, value_object, skipSpace_of_head (by decide)]
              exact Verdict.good_of trivial (by simp [nesting, nestingMembers])
          | cons first members =>
              obtain ⟨key, item⟩ := first
              obtain ⟨more, hstart⟩ := separated_members_cons gaps depth key item members
              have htext : spaced gaps depth (.obj ((key, item) :: members)) = '\x7b' :: gaps.opening depth ++
                  separated (',' :: gaps.comma depth) (spacedMembers gaps (depth + 1) ((key, item) :: members)) ++
                  gaps.closing depth ++ ['\x7d'] := rfl
              rw [htext] at hfuel ⊢
              simp only [List.length_append, List.length_cons, List.length_nil] at hfuel
              have hverdict := hmembers depth fuel inside rest [] (by simp) hkeys (by omega)
              simp only [List.append_assoc, List.cons_append, List.nil_append] at hverdict ⊢
              rw [value_object]
              simp only [skipSpace_append (hgaps.opening depth)]
              rw [hstart, List.cons_append] at hverdict ⊢
              rw [skipSpace_of_head (by decide)]
              split
              · rename_i after hsame
                exact absurd (List.cons.inj hsame).1 (by decide)
              · exact hverdict.congr Iff.rfl Nat.add_le_add_iff_right

theorem readsValue_int (n : Int) : ReadsValue gaps (.int n) := by
  intro depth fuel room rest hfuel hends
  obtain ⟨c, more, htext, -⟩ := startsNumber_intText n
  cases fuel with
  | zero => simp [spaced_int, htext] at hfuel
  | succ fuel =>
      rw [spaced_int, value_number fuel room (startsNumber_intText n), number_written n hends]
      constructor
      · intro hshort _
        rw [if_neg (not_lt.mpr hshort)]
      · intro _ hdeep
        exact absurd (Nat.zero_le room) hdeep
      · intro hlong
        rw [if_pos (not_le.mp hlong)]
        exact ⟨_, rfl, by simp⟩

theorem readsValue_num {x : Float} (h : Quantity.isFinite x = true) : ReadsValue gaps (.num x) := by
  intro depth fuel room rest hfuel hends
  have hstarts := startsNumber_float numberStyle h
  obtain ⟨c, more, htext, -⟩ := hstarts
  cases fuel with
  | zero => simp [spaced_num, htext] at hfuel
  | succ fuel =>
      rw [spaced_num, value_number fuel room (startsNumber_float numberStyle h), number_float numberStyle h hends]
      exact Verdict.good_of trivial (Nat.zero_le room)

/-- A word or a text is read whatever the room. -/
theorem readsValue_of_read {value : Json} (hshort : Short value) (hflat : nesting value = 0)
    (hfilled : ∀ depth, spaced gaps depth value ≠ [])
    (hread : ∀ depth fuel room rest, Json.value (fuel + 1) room (spaced gaps depth value ++ rest) = .ok (value, rest)) :
    ReadsValue gaps value := by
  intro depth fuel room rest hfuel _
  cases fuel with
  | zero => exact absurd (List.eq_nil_of_length_eq_zero (by omega)) (hfilled depth)
  | succ fuel =>
      rw [hread]
      exact Verdict.good_of hshort (by omega)

theorem readsValue_str (body : String) : ReadsValue gaps (.str body) := by
  have hshort : Short (.str body) := trivial
  apply readsValue_of_read hshort rfl
  · intro depth
    simp [spaced_str, textWith]
  · intro depth fuel room rest
    simp [spaced_str, textWith, value_quote, text_written]

theorem readsValue_bool (truth : Bool) : ReadsValue gaps (.bool truth) := by
  have hshort : Short (.bool truth) := trivial
  apply readsValue_of_read hshort rfl
  · intro depth
    cases truth <;> simp [spaced_bool, boolText]
  · intro depth fuel room rest
    cases truth <;> simp [spaced_bool, boolText, value_true, value_false]

theorem readsValue_null : ReadsValue gaps .null := by
  have hshort : Short .null := trivial
  apply readsValue_of_read hshort rfl
  · intro depth
    simp [spaced_null]
  · intro depth fuel room rest
    simp [spaced_null, value_null]

mutual

/-- What reading the start of a text gives where a document stands. -/
theorem value_spaced (hgaps : gaps.Blank) : ∀ value : Json, value.Definite → ReadsValue gaps value
  | .null, _ => readsValue_null
  | .bool truth, _ => readsValue_bool truth
  | .int n, _ => readsValue_int n
  | .num _, hdefinite => readsValue_num hdefinite
  | .str body, _ => readsValue_str body
  | .arr items, hdefinite => readsValue_arr hgaps hdefinite (items_spaced hgaps items hdefinite)
  | .obj members, hdefinite => readsValue_obj hgaps hdefinite.1 (members_spaced hgaps members hdefinite.2)

/-- `value_spaced` on the items of an array. -/
theorem items_spaced (hgaps : gaps.Blank) : ∀ items : List Json, DefiniteItems items → ReadsItems gaps items
  | [], _ => fun _ _ _ _ _ hfilled => absurd rfl hfilled
  | item :: items, hdefinite =>
    readsItems_cons hgaps hdefinite.2 (value_spaced hgaps item hdefinite.1) (items_spaced hgaps items hdefinite.2)

/-- `value_spaced` on the members of an object. -/
theorem members_spaced (hgaps : gaps.Blank) : ∀ members : List (String × Json), DefiniteMembers members →
    ReadsMembers gaps members
  | [], _ => fun _ _ _ _ _ hfilled => absurd rfl hfilled
  | (key, item) :: members, hdefinite =>
    readsMembers_cons hgaps key hdefinite.1 (value_spaced hgaps item hdefinite.1) (members_spaced hgaps members hdefinite.2)

end

/-- What reading a document gives when white space follows, or nothing. -/
theorem read_spaced (hgaps : gaps.Blank) (room : Nat) {value : Json} (hdefinite : value.Definite) (depth : Nat) :
    (Short value → nesting value ≤ room → read room (spaced gaps depth value) = .ok value) ∧
    (Short value → room < nesting value →
      read room (spaced gaps depth value) = .error .deepArray ∨ read room (spaced gaps depth value) = .error .deepObject) ∧
    (¬ Short value → ∃ fault, read room (spaced gaps depth value) = .error fault ∧ fault ≠ .malformed) := by
  obtain ⟨c, more, htext, hspace, -⟩ := spaced_cons gaps depth hdefinite
  have hverdict := value_spaced hgaps value hdefinite depth (2 * (spaced gaps depth value).length + 2) room []
    (by omega) (by simp [Ends])
  have hskip : skipSpace (spaced gaps depth value) = spaced gaps depth value := by
    rw [htext]
    exact skipSpace_of_head hspace
  rw [List.append_nil] at hverdict
  unfold read
  rw [hskip]
  refine ⟨fun hshort hfits => ?_, fun hshort hdeep => ?_, fun hlong => ?_⟩
  · rw [hverdict.reads hshort hfits]
    rfl
  · rcases hverdict.deep hshort (not_le.mpr hdeep) with hfault | hfault
    · exact Or.inl (by rw [hfault])
    · exact Or.inr (by rw [hfault])
  · obtain ⟨fault, hfault, hcause⟩ := hverdict.long hlong
    exact ⟨fault, by rw [hfault], hcause⟩

/-- Where something else follows, there is no document. -/
theorem read_spaced_append (hgaps : gaps.Blank) {room : Nat} {value : Json} (hdefinite : value.Definite)
    (hshort : Short value) (hfits : nesting value ≤ room) (depth : Nat) {rest : List Char} (hends : Ends rest)
    (hrest : skipSpace rest ≠ []) : read room (spaced gaps depth value ++ rest) = .error .malformed := by
  obtain ⟨c, more, htext, hspace, -⟩ := spaced_cons gaps depth hdefinite
  have hverdict := value_spaced hgaps value hdefinite depth (2 * (spaced gaps depth value ++ rest).length + 2) room rest
    (by rw [List.length_append]; omega) hends
  have hskip : skipSpace (spaced gaps depth value ++ rest) = spaced gaps depth value ++ rest := by
    rw [htext]
    exact skipSpace_of_head hspace
  unfold read
  rw [hskip, hverdict.reads hshort hfits]
  simp [hrest]

end

/-! ### Characters -/

theorem forall_mem_separated {P : Char → Prop} {separator : List Char} (hseparator : ∀ c ∈ separator, P c)
    {parts : List (List Char)} (hparts : ∀ part ∈ parts, ∀ c ∈ part, P c) : ∀ c ∈ separated separator parts, P c := by
  induction parts with
  | nil => exact List.forall_mem_nil _
  | cons first rest ih =>
      obtain ⟨hfirst, hrest⟩ := List.forall_mem_cons.mp hparts
      cases rest with
      | nil => exact hfirst
      | cons second others =>
          simp only [separated_cons_cons, List.forall_mem_append]
          exact ⟨⟨hfirst, hseparator⟩, ih hrest⟩

theorem plain_bracket {opening closing : Char} (hopening : Plain opening) (hclosing : Plain closing) (depth : Nat)
    {parts : List (List Char)} (hparts : ∀ part ∈ parts, ∀ c ∈ part, Plain c) :
    ∀ c ∈ Spacing.oneLine.bracket opening closing depth parts, Plain c := by
  have hseparator : ∀ c ∈ [',', ' '], Plain c := plain_of_all rfl
  unfold Spacing.bracket
  split
  · simpa using ⟨hopening, hclosing⟩
  · simpa [Spacing.oneLine, or_imp, forall_and, hopening, hclosing] using forall_mem_separated hseparator hparts

theorem plain_textWith (body : String) : ∀ c ∈ textWith asciiChar body, Plain c := by
  have hquote : Plain '"' := by decide
  simp only [textWith, List.forall_mem_append, List.forall_mem_cons, List.forall_mem_flatMap]
  exact ⟨⟨hquote, fun c _ => plain_asciiChar c⟩, hquote, List.forall_mem_nil _⟩

mutual

/-- A document in one line has plain characters only. -/
theorem plain_spaced (depth : Nat) : ∀ value : Json, value.Exact → ∀ c ∈ spaced Spacing.oneLine depth value, Plain c
  | .null, _ => (plain_of_all rfl : ∀ c ∈ ['n', 'u', 'l', 'l'], Plain c)
  | .bool true, _ => (plain_of_all rfl : ∀ c ∈ ['t', 'r', 'u', 'e'], Plain c)
  | .bool false, _ => (plain_of_all rfl : ∀ c ∈ ['f', 'a', 'l', 's', 'e'], Plain c)
  | .int n, _ => plain_intText n
  | .num _, hexact => absurd hexact id
  | .str body, _ => plain_textWith body
  | .arr items, hexact => plain_bracket (by decide) (by decide) depth
      (plain_spacedItems (depth + 1) items hexact)
  | .obj members, hexact => plain_bracket (by decide) (by decide) depth
      (plain_spacedMembers (depth + 1) members hexact.2)

/-- `plain_spaced` on the items of an array. -/
theorem plain_spacedItems (depth : Nat) : ∀ items : List Json, ExactItems items →
    ∀ part ∈ spacedItems Spacing.oneLine depth items, ∀ c ∈ part, Plain c
  | [], _ => List.forall_mem_nil _
  | item :: items, hexact =>
    List.forall_mem_cons.mpr ⟨plain_spaced depth item hexact.1, plain_spacedItems depth items hexact.2⟩

/-- `plain_spaced` on the members of an object. -/
theorem plain_spacedMembers (depth : Nat) : ∀ members : List (String × Json), ExactMembers members →
    ∀ part ∈ spacedMembers Spacing.oneLine depth members, ∀ c ∈ part, Plain c
  | [], _ => List.forall_mem_nil _
  | (key, item) :: members, hexact => by
      refine List.forall_mem_cons.mpr ⟨?_, plain_spacedMembers depth members hexact.2⟩
      have hcolon : ∀ c ∈ [':', ' '], Plain c := plain_of_all rfl
      simp only [List.forall_mem_append]
      exact ⟨⟨plain_textWith key, hcolon⟩, plain_spaced depth item hexact.1⟩

end

end Json

end FixFirst
