import FixFirst.Proofs.Json.Token

/-!
# Documents that end by themselves

A compact document that keeps the characters beyond ASCII as they are tells where it ends, as long as no
number is in it: if two such documents, each with something behind it, are the same text, then they are of
the same value, and the same is behind them.

## Main definitions

* `Json.Numberless` — whether no number is in a value.

## Main statements

* `Json.openText_append_inj` — a text between quotes ends by itself.
* `Json.separated_append_inj` — parts that end by themselves, between commas and up to a bracket.
* `Json.write_append_inj` — a document without numbers ends by itself.
-/

namespace FixFirst.Json

open Text

/-! ### Texts -/

/-- A character is read by its code point, whether it is escaped or not. -/
theorem textUnits_openChar (units : List Nat) (c : Char) (rest : List Char) :
    textUnits units (openChar c ++ rest) = textUnits (c.toNat :: units) rest := by
  unfold openChar
  cases hshort : shortEscape? c with
  | some escape =>
      obtain ⟨letter, rfl, hunit, hletter, -⟩ := shortEscape_cases hshort
      exact textUnits_letter units rest hunit hletter
  | none =>
      by_cases hopen : 0x20 ≤ c.toNat
      · have hquote : c ≠ '"' := by
          rintro rfl
          simp [shortEscape?] at hshort
        have hslash : c ≠ '\\' := by
          rintro rfl
          simp [shortEscape?] at hshort
        simp only [hopen, if_true]
        exact textUnits_plain units rest hquote hslash hopen
      · have hsmall : c.toNat < 0x10000 := by omega
        simp only [hopen, if_false]
        rw [textUnits_charEscape, unitsOf, if_pos hsmall]
        rfl

theorem textUnits_open (units : List Nat) (chars rest : List Char) :
    textUnits units (chars.flatMap openChar ++ '"' :: rest) = some (units.reverse ++ chars.map Char.toNat, rest) := by
  induction chars generalizing units with
  | nil => simp [textUnits]
  | cons c chars ih =>
      rw [List.flatMap_cons, List.append_assoc, textUnits_openChar, ih, List.map_cons]
      simp

/-- A text between quotes ends by itself. -/
theorem openText_append_inj {first second : String} {rest other : List Char}
    (h : textWith openChar first ++ rest = textWith openChar second ++ other) : first = second ∧ rest = other := by
  have hbody : first.toList.flatMap openChar ++ '"' :: rest = second.toList.flatMap openChar ++ '"' :: other := by
    simpa [textWith] using h
  have hunits := congrArg (textUnits []) hbody
  rw [textUnits_open, textUnits_open, Option.some.injEq, Prod.mk.injEq] at hunits
  refine ⟨String.toList_inj.mp ?_, hunits.2⟩
  exact List.map_injective_iff.mpr (fun _ _ => Char.toNat_inj.mp) hunits.1

/-! ### Parts between commas -/

theorem separated_cons (separator first : List Char) (rest : List (List Char)) (tail : List Char) :
    separated separator (first :: rest) ++ tail =
      first ++ (if rest = [] then tail else separator ++ (separated separator rest ++ tail)) := by
  cases rest with
  | nil => rfl
  | cons second others =>
      rw [if_neg (List.cons_ne_nil _ _)]
      simp [separated]

/-- Parts that end by themselves and do not start with the bracket, between commas and up to the bracket, are
told apart, and so is what is behind the bracket. -/
theorem separated_append_inj {α : Type} {part : α → List Char} {closing : Char} (hclosing : closing ≠ ',')
    {items others : List α} (hitems : ∀ item ∈ items, ∃ c more, part item = c :: more ∧ c ≠ closing)
    (hothers : ∀ other ∈ others, ∃ c more, part other = c :: more ∧ c ≠ closing)
    (hends : ∀ item ∈ items, ∀ other ∈ others, ∀ rest tail, part item ++ rest = part other ++ tail →
      item = other ∧ rest = tail)
    {rest tail : List Char}
    (h : separated [','] (items.map part) ++ closing :: rest = separated [','] (others.map part) ++ closing :: tail) :
    items = others ∧ rest = tail := by
  -- Where one list is at its end, the bracket stands where the other list has a part.
  have hend : ∀ item more behind before, (∃ c more, part item = c :: more ∧ c ≠ closing) →
      separated [','] ((item :: more).map part) ++ before ≠ closing :: behind := by
    rintro item more behind before ⟨c, chars, hpart, hc⟩ heq
    rw [List.map_cons, separated_cons, hpart, List.cons_append] at heq
    exact hc (List.cons.inj heq).1
  induction items generalizing others with
  | nil =>
      cases others with
      | nil => exact ⟨rfl, (List.cons.inj h).2⟩
      | cons other others => exact absurd h.symm (hend _ _ _ _ (hothers _ List.mem_cons_self))
  | cons item items ih =>
      cases others with
      | nil => exact absurd h (hend _ _ _ _ (hitems _ List.mem_cons_self))
      | cons other others =>
          rw [List.map_cons, List.map_cons, separated_cons, separated_cons] at h
          obtain ⟨rfl, hrest⟩ := hends item List.mem_cons_self other List.mem_cons_self _ _ h
          simp only [List.map_eq_nil_iff] at hrest
          by_cases hlast : items = [] <;> by_cases hlast' : others = []
          · rw [if_pos hlast, if_pos hlast'] at hrest
            exact ⟨by rw [hlast, hlast'], (List.cons.inj hrest).2⟩
          · rw [if_pos hlast, if_neg hlast'] at hrest
            exact absurd (List.cons.inj hrest).1 hclosing
          · rw [if_neg hlast, if_pos hlast'] at hrest
            exact absurd (List.cons.inj hrest).1.symm hclosing
          · rw [if_neg hlast, if_neg hlast'] at hrest
            obtain ⟨rfl, htail⟩ := ih (List.forall_mem_cons.mp hitems).2 (List.forall_mem_cons.mp hothers).2
              (fun left hleft right hright =>
                hends left (List.mem_cons_of_mem _ hleft) right (List.mem_cons_of_mem _ hright))
              (List.append_cancel_left hrest)
            exact ⟨rfl, htail⟩

/-! ### Documents -/

mutual

/-- Whether no number is in a value. -/
def Numberless : Json → Prop
  | .int _ => False
  | .num _ => False
  | .arr items => NumberlessItems items
  | .obj members => NumberlessMembers members
  | _ => True

/-- `Numberless` of all items of an array. -/
def NumberlessItems : List Json → Prop
  | [] => True
  | value :: rest => Numberless value ∧ NumberlessItems rest

/-- `Numberless` of all members of an object. -/
def NumberlessMembers : List (String × Json) → Prop
  | [] => True
  | (_, value) :: rest => Numberless value ∧ NumberlessMembers rest

end

theorem numberlessItems_iff {items : List Json} : NumberlessItems items ↔ ∀ item ∈ items, item.Numberless := by
  induction items with
  | nil => simp [NumberlessItems]
  | cons item items ih => rw [NumberlessItems, ih, List.forall_mem_cons]

theorem numberlessMembers_iff {members : List (String × Json)} :
    NumberlessMembers members ↔ ∀ entry ∈ members, entry.2.Numberless := by
  induction members with
  | nil => simp [NumberlessMembers]
  | cons entry members ih => rw [NumberlessMembers, ih, List.forall_mem_cons]

/-- The document of a member of an object. -/
def memberText (depth : Nat) (entry : String × Json) : List Char :=
  textWith openChar entry.1 ++ ':' :: write openStyle depth entry.2

theorem write_arr_append (depth : Nat) (items : List Json) (rest : List Char) :
    write openStyle depth (.arr items) ++ rest =
      '[' :: (separated [','] (items.map (write openStyle (depth + 1))) ++ ']' :: rest) := by
  have hitems : writeItems openStyle (depth + 1) items = items.map (write openStyle (depth + 1)) := by
    induction items with
    | nil => rfl
    | cons item items ih => rw [writeItems, ih, List.map_cons]
  rw [write, hitems, Style.bracket]
  cases items with
  | nil => rfl
  | cons item items => simp [Style.newLine, openStyle]

theorem write_obj_append (depth : Nat) (members : List (String × Json)) (rest : List Char) :
    write openStyle depth (.obj members) ++ rest =
      '\x7b' :: (separated [','] (members.map (memberText (depth + 1))) ++ '\x7d' :: rest) := by
  have hmembers : writeMembers openStyle (depth + 1) members = members.map (memberText (depth + 1)) := by
    induction members with
    | nil => rfl
    | cons entry members ih =>
        rw [writeMembers, ih, List.map_cons, memberText]
        simp [openStyle]
  rw [write, hmembers, Style.bracket]
  cases members with
  | nil => rfl
  | cons entry members => simp [Style.newLine, openStyle]

variable {first second : Json} {depth : Nat} {rest tail : List Char}

/-- The character that a document starts with. -/
def opening : Json → Char
  | .null => 'n'
  | .bool true => 't'
  | .bool false => 'f'
  | .int _ | .num _ => '0'
  | .str _ => '"'
  | .arr _ => '['
  | .obj _ => '\x7b'

theorem write_eq_cons (depth : Nat) (h : first.Numberless) : ∃ more, write openStyle depth first = first.opening :: more := by
  rcases first with _ | (_ | _) | _ | _ | _ | items | members
  · exact ⟨_, rfl⟩
  · exact ⟨_, rfl⟩
  · exact ⟨_, rfl⟩
  · exact absurd h id
  · exact absurd h id
  · exact ⟨_, rfl⟩
  · exact ⟨_, (List.append_nil _).symm.trans (write_arr_append depth items [])⟩
  · exact ⟨_, (List.append_nil _).symm.trans (write_obj_append depth members [])⟩

theorem opening_ne_closing (value : Json) : value.opening ≠ ']' := by
  rcases value with _ | (_ | _) | _ | _ | _ | _ | _ <;> simp [opening]

/-- Documents of values of different sorts start differently. -/
theorem opening_eq_of_write (hfirst : first.Numberless) (hsecond : second.Numberless)
    (h : write openStyle depth first ++ rest = write openStyle depth second ++ tail) :
    first.opening = second.opening := by
  obtain ⟨_, hone⟩ := write_eq_cons depth hfirst
  obtain ⟨_, hother⟩ := write_eq_cons depth hsecond
  rw [hone, hother] at h
  exact (List.cons.inj h).1

mutual

/-- A document without numbers ends by itself. -/
theorem write_append_inj : ∀ {first : Json}, first.Numberless → ∀ {second : Json}, second.Numberless →
    ∀ {depth : Nat} {rest tail : List Char},
      write openStyle depth first ++ rest = write openStyle depth second ++ tail → first = second ∧ rest = tail
  | .null, hfirst, second, hsecond, _, _, _, h => by
      have hopening := opening_eq_of_write hfirst hsecond h
      rcases second with _ | (_ | _) | _ | _ | _ | _ | _
      case null => exact ⟨rfl, List.append_cancel_left h⟩
      all_goals simp [opening] at hopening
  | .bool true, hfirst, second, hsecond, _, _, _, h => by
      have hopening := opening_eq_of_write hfirst hsecond h
      rcases second with _ | (_ | _) | _ | _ | _ | _ | _
      case bool.true => exact ⟨rfl, List.append_cancel_left h⟩
      all_goals simp [opening] at hopening
  | .bool false, hfirst, second, hsecond, _, _, _, h => by
      have hopening := opening_eq_of_write hfirst hsecond h
      rcases second with _ | (_ | _) | _ | _ | _ | _ | _
      case bool.false => exact ⟨rfl, List.append_cancel_left h⟩
      all_goals simp [opening] at hopening
  | .int _, hfirst, _, _, _, _, _, _ => absurd hfirst id
  | .num _, hfirst, _, _, _, _, _, _ => absurd hfirst id
  | .str body, hfirst, second, hsecond, _, _, _, h => by
      have hopening := opening_eq_of_write hfirst hsecond h
      rcases second with _ | (_ | _) | _ | _ | _ | _ | _
      case str =>
        obtain ⟨rfl, hrest⟩ := openText_append_inj h
        exact ⟨rfl, hrest⟩
      all_goals simp [opening] at hopening
  | .arr items, hfirst, second, hsecond, depth, _, _, h => by
      have hopening := opening_eq_of_write hfirst hsecond h
      rcases second with _ | (_ | _) | _ | _ | _ | others | others
      case arr =>
        rw [write_arr_append, write_arr_append] at h
        have hstarts : ∀ item : Json, item.Numberless → ∃ c more, write openStyle (depth + 1) item = c :: more ∧ c ≠ ']' :=
          fun item hitem => (write_eq_cons (depth + 1) hitem).elim fun _ hwrite => ⟨_, _, hwrite, item.opening_ne_closing⟩
        have hitems : ∀ item ∈ items, item.Numberless := numberlessItems_iff.mp hfirst
        have hothers : ∀ other ∈ others, other.Numberless := numberlessItems_iff.mp hsecond
        obtain ⟨rfl, hrest⟩ := separated_append_inj (by decide) (fun item hin => hstarts item (hitems item hin))
          (fun other hin => hstarts other (hothers other hin))
          (fun item hin other hother rest tail => items_append_inj items hfirst item hin (hothers other hother))
          (List.cons.inj h).2
        exact ⟨rfl, hrest⟩
      all_goals simp [opening] at hopening
  | .obj members, hfirst, second, hsecond, depth, _, _, h => by
      have hopening := opening_eq_of_write hfirst hsecond h
      rcases second with _ | (_ | _) | _ | _ | _ | others | others
      case obj =>
        rw [write_obj_append, write_obj_append] at h
        have hothers : ∀ other ∈ others, other.2.Numberless := numberlessMembers_iff.mp hsecond
        obtain ⟨rfl, hrest⟩ := separated_append_inj (by decide) (fun entry _ => ⟨'"', _, rfl, by decide⟩)
          (fun entry _ => ⟨'"', _, rfl, by decide⟩)
          (fun entry hin other hother rest tail => members_append_inj members hfirst entry hin (hothers other hother))
          (List.cons.inj h).2
        exact ⟨rfl, hrest⟩
      all_goals simp [opening] at hopening

/-- `write_append_inj` on the items of an array. -/
theorem items_append_inj : ∀ items : List Json, NumberlessItems items → ∀ item ∈ items, ∀ {other : Json},
    other.Numberless → ∀ {depth : Nat} {rest tail : List Char},
      write openStyle depth item ++ rest = write openStyle depth other ++ tail → item = other ∧ rest = tail
  | [], _, _, hin, _, _, _, _, _, _ => absurd hin List.not_mem_nil
  | first :: items, hitems, item, hin, other, hother, depth, rest, tail, h => by
      rcases List.mem_cons.mp hin with heq | hmem
      · exact heq ▸ write_append_inj hitems.1 hother (heq ▸ h)
      · exact items_append_inj items hitems.2 item hmem hother h

/-- `write_append_inj` on the members of an object. -/
theorem members_append_inj : ∀ members : List (String × Json), NumberlessMembers members → ∀ entry ∈ members,
    ∀ {other : String × Json}, other.2.Numberless → ∀ {depth : Nat} {rest tail : List Char},
      memberText depth entry ++ rest = memberText depth other ++ tail → entry = other ∧ rest = tail
  | [], _, _, hin, _, _, _, _, _, _ => absurd hin List.not_mem_nil
  | (key, value) :: members, hmembers, entry, hin, other, hother, depth, rest, tail, h => by
      rcases List.mem_cons.mp hin with heq | hmem
      · rw [heq, memberText, memberText, List.append_assoc, List.append_assoc] at h
        obtain ⟨hkey, hvalue⟩ := openText_append_inj h
        obtain ⟨hsame, hrest⟩ := write_append_inj hmembers.1 hother (List.cons.inj hvalue).2
        exact ⟨heq.trans (Prod.ext hkey hsame), hrest⟩
      · exact members_append_inj members hmembers.2 entry hmem hother h

end

end FixFirst.Json
