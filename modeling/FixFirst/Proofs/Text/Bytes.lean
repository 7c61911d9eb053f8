import Mathlib
import FixFirst.Digest.Bytes

/-!
# The bytes of a text

A text is written in UTF-8.  Texts with the same bytes are the same, and a character that is not one of ASCII
starts with a byte that is not one either.

## Main statements

* `textBytes_eq` — the bytes of a text are those of its characters, one after the other.
* `textBytes_injective` — different texts have different bytes.
* `textBytes_prefix` — of two texts whose bytes one list starts with, one starts with the other.
* `exists_large_byte` — what the bytes of a character that is not one of ASCII show.
-/

namespace FixFirst.Digest

theorem toList_loop (bytes : ByteArray) (start : Nat) (done : List UInt8) :
    ByteArray.toList.loop bytes start done = done.reverse ++ bytes.data.toList.drop start := by
  fun_induction ByteArray.toList.loop bytes start done with
  | case1 start done h ih =>
      have hstart : start < bytes.data.toList.length := by simpa using h
      rw [ih, List.drop_eq_getElem_cons hstart]
      simp [ByteArray.get!, h]
  | case2 start done h =>
      rw [List.drop_eq_nil_of_le (by simpa using h), List.append_nil]

theorem toList_byteArray (bytes : ByteArray) : bytes.toList = bytes.data.toList := by
  rw [ByteArray.toList, toList_loop]
  rfl

/-- The bytes of a text are those of its characters, one after the other. -/
theorem textBytes_eq (text : String) : textBytes text = text.toList.flatMap String.utf8EncodeChar := by
  unfold textBytes
  rw [toList_byteArray, String.toUTF8_eq_toByteArray, ← String.utf8Encode_toList]
  exact List.toList_data_toByteArray

/-- Different texts have different bytes. -/
theorem textBytes_injective : Function.Injective textBytes := by
  intro first second h
  unfold textBytes at h
  rw [toList_byteArray, toList_byteArray, Array.toList_inj] at h
  exact String.toByteArray_inj.mp (ByteArray.ext h)

/-- A character is told by the bytes that a list starts with. -/
theorem utf8EncodeChar_append_inj {c d : Char} {rest tail : List UInt8}
    (h : String.utf8EncodeChar c ++ rest = String.utf8EncodeChar d ++ tail) : c = d := by
  have hread : ∀ (c : Char) (rest : List UInt8),
      (String.utf8EncodeChar c ++ rest).toByteArray.utf8DecodeChar? 0 = some c := by
    intro c rest
    rw [List.toByteArray_append]
    exact ByteArray.utf8DecodeChar?_utf8EncodeChar_append
  exact Option.some.inj ((hread c rest).symm.trans (h ▸ hread d tail))

/-- Of two texts whose bytes one list starts with, one starts with the other. -/
theorem textBytes_prefix {first second : String} {rest tail : List UInt8}
    (h : textBytes first ++ rest = textBytes second ++ tail) :
    first.toList <+: second.toList ∨ second.toList <+: first.toList := by
  rw [textBytes_eq, textBytes_eq] at h
  generalize first.toList = chars at h
  generalize second.toList = others at h
  induction chars generalizing others with
  | nil => exact Or.inl (List.nil_prefix)
  | cons c chars ih =>
      cases others with
      | nil => exact Or.inr (List.nil_prefix)
      | cons d others =>
          rw [List.flatMap_cons, List.flatMap_cons, List.append_assoc, List.append_assoc] at h
          obtain rfl := utf8EncodeChar_append_inj h
          exact (ih others (List.append_cancel_left h)).imp (List.prefix_cons_inj c).mpr (List.prefix_cons_inj c).mpr

theorem utf8EncodeChar_small {c : Char} (h : c.toNat < 128) : String.utf8EncodeChar c = [UInt8.ofNat c.toNat] := by
  have hsmall : c.val.toNat ≤ 127 := Nat.le_of_lt_succ h
  exact if_pos hsmall

/-- A character that is not small starts with a byte that is not small. -/
theorem exists_large_byte {c : Char} (h : 128 ≤ c.toNat) : ∃ byte ∈ String.utf8EncodeChar c, 128 ≤ byte.toNat := by
  have hlarge : ¬ c.val.toNat ≤ 127 := Nat.not_le.mpr h
  unfold String.utf8EncodeChar
  simp only [hlarge, if_false]
  split
  · exact ⟨_, List.mem_cons_self, by simp; omega⟩
  · split
    · exact ⟨_, List.mem_cons_self, by simp; omega⟩
    · exact ⟨_, List.mem_cons_self, by simp; omega⟩

/-- A text has no more characters than bytes. -/
theorem length_le_length_textBytes (text : String) : text.length ≤ (textBytes text).length := by
  rw [textBytes_eq, List.length_flatMap, ← String.length_toList]
  refine List.length_le_sum_of_one_le _ ?_ |>.trans_eq' (by simp)
  intro size hsize
  obtain ⟨c, -, rfl⟩ := List.mem_map.mp hsize
  rw [String.length_utf8EncodeChar]
  exact c.utf8Size_pos

end FixFirst.Digest
