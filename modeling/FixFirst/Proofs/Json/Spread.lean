import FixFirst.Proofs.Json.Document

/-!
# Documents with a line for each part

A document may have a line for each item and member.  It is one of the layouts that are read back; whether it can be
written, and read, is a matter of the whole numbers in it.

## Main definitions

* `Spacing.lines` — the white space of such a document.
* `Json.numbers` — the whole numbers of a value in the order of its document.

## Main statements

* `Json.write_spread` — such a document is one with a spacing.
* `Json.isWritable_iff` — a value can be written if each of its whole numbers can.
* `Json.read_spread` — what is written is read back.
-/

namespace FixFirst

/-- A line for each part, indented by two for each bracket around it, and a space behind each colon. -/
def Spacing.lines : Spacing :=
  ⟨fun depth => Json.spreadStyle.newLine (depth + 1), fun depth => Json.spreadStyle.newLine (depth + 1),
    Json.spreadStyle.newLine, [' ']⟩

theorem Spacing.blank_lines : lines.Blank := by
  have hline : ∀ depth, ∀ c ∈ Json.spreadStyle.newLine depth, Json.isSpace c = true := by
    intro depth
    have hspread : Json.spreadStyle.newLine depth = '\n' :: List.replicate (2 * depth) ' ' := rfl
    rw [hspread, List.forall_mem_cons]
    refine ⟨rfl, fun c hc => ?_⟩
    rw [List.eq_of_mem_replicate hc]
    rfl
  exact ⟨fun depth => hline (depth + 1), fun depth => hline (depth + 1), hline, List.forall_mem_singleton.mpr rfl⟩

namespace Json

open Text

mutual

/-- A document with a line for each part is one with a spacing. -/
theorem write_spread (depth : Nat) : ∀ value : Json, write spreadStyle depth value = spaced Spacing.lines depth value
  | .null | .bool _ | .int _ | .num _ | .str _ => rfl
  | .arr items => by
      rw [write, spaced, write_spreadItems (depth + 1) items]
      rfl
  | .obj members => by
      rw [write, spaced, write_spreadMembers (depth + 1) members]
      rfl

/-- `write_spread` on the items of an array. -/
theorem write_spreadItems (depth : Nat) : ∀ items : List Json,
    writeItems spreadStyle depth items = spacedItems Spacing.lines depth items
  | [] => rfl
  | item :: items => by rw [writeItems, spacedItems, write_spread depth item, write_spreadItems depth items]

/-- `write_spread` on the members of an object. -/
theorem write_spreadMembers (depth : Nat) : ∀ members : List (String × Json),
    writeMembers spreadStyle depth members = spacedMembers Spacing.lines depth members
  | [] => rfl
  | (key, item) :: members => by
      have hkey : spreadStyle.afterKey = ':' :: Spacing.lines.colon := rfl
      rw [writeMembers, spacedMembers, write_spread depth item, write_spreadMembers depth members, hkey]
      rfl

end

/-! ### Whole numbers -/

mutual

/-- The whole numbers of a value in the order of its document. -/
def numbers : Json → List Int
  | .int value => [value]
  | .arr items => itemNumbers items
  | .obj members => memberNumbers members
  | _ => []

/-- The `numbers` of the items of an array. -/
def itemNumbers : List Json → List Int
  | [] => []
  | value :: rest => numbers value ++ itemNumbers rest

/-- The `numbers` of the members of an object. -/
def memberNumbers : List (String × Json) → List Int
  | [] => []
  | (_, value) :: rest => numbers value ++ memberNumbers rest

end

mutual

/-- A value can be written if each of its whole numbers can. -/
theorem isWritable_iff : ∀ value : Json, value.isWritable = true ↔ ∀ n ∈ value.numbers, Text.isWritable n = true
  | .null | .bool _ | .num _ | .str _ => by simp [isWritable, numbers]
  | .int _ => by simp [isWritable, numbers]
  | .arr items => by rw [isWritable, numbers, areItemsWritable_iff]
  | .obj members => by rw [isWritable, numbers, areMembersWritable_iff]

/-- `isWritable_iff` on the items of an array. -/
theorem areItemsWritable_iff : ∀ items : List Json,
    areItemsWritable items = true ↔ ∀ n ∈ itemNumbers items, Text.isWritable n = true
  | [] => by simp [areItemsWritable, itemNumbers]
  | item :: items => by
      rw [areItemsWritable, itemNumbers, Bool.and_eq_true, List.forall_mem_append, isWritable_iff item,
        areItemsWritable_iff items]

/-- `isWritable_iff` on the members of an object. -/
theorem areMembersWritable_iff : ∀ members : List (String × Json),
    areMembersWritable members = true ↔ ∀ n ∈ memberNumbers members, Text.isWritable n = true
  | [] => by simp [areMembersWritable, memberNumbers]
  | (_, item) :: members => by
      rw [areMembersWritable, memberNumbers, Bool.and_eq_true, List.forall_mem_append, isWritable_iff item,
        areMembersWritable_iff members]

end

mutual

/-- What can be written is not too long to be read. -/
theorem short_of_isWritable : ∀ value : Json, value.isWritable = true → value.Short
  | .null, _ | .bool _, _ | .num _, _ | .str _, _ => trivial
  | .int value, h => (of_decide_eq_true h : (natText value.natAbs).length ≤ maxDigits)
  | .arr items, h => shortItems_of_areWritable items h
  | .obj members, h => shortMembers_of_areWritable members h

/-- `short_of_isWritable` on the items of an array. -/
theorem shortItems_of_areWritable : ∀ items : List Json, areItemsWritable items = true → ShortItems items
  | [], _ => trivial
  | item :: items, h => by
      rw [areItemsWritable, Bool.and_eq_true] at h
      exact ⟨short_of_isWritable item h.1, shortItems_of_areWritable items h.2⟩

/-- `short_of_isWritable` on the members of an object. -/
theorem shortMembers_of_areWritable : ∀ members : List (String × Json), areMembersWritable members = true →
    ShortMembers members
  | [], _ => trivial
  | (_, item) :: members, h => by
      rw [areMembersWritable, Bool.and_eq_true] at h
      exact ⟨short_of_isWritable item h.1, shortMembers_of_areWritable members h.2⟩

end

/-- A value that is written with a line for each part is read back. -/
theorem read_spread {room : Nat} {value : Json} (hdefinite : value.Definite) (hwritable : value.isWritable = true)
    (hfits : value.nesting ≤ room) : read room value.spread.toList = .ok value := by
  rw [spread, String.toList_ofList, write_spread]
  exact (read_spaced Spacing.blank_lines room hdefinite 0).1 (short_of_isWritable value hwritable) hfits

end Json

end FixFirst
