import Mathlib.Data.List.Basic
import Mathlib.Data.String.Defs

/-!
# The bytes of a text

A text is read back from its bytes, and the bytes of characters below 128 are their numbers.
-/

namespace LearnerPersona.Text

private theorem toList_loop_eq (bytes : ByteArray) (position : Nat) (seen : List UInt8) :
    ByteArray.toList.loop bytes position seen =
      seen.reverse ++ bytes.data.toList.drop position := by
  fun_induction ByteArray.toList.loop bytes position seen with
  | case1 position seen h ih =>
      have hposition : position < bytes.data.toList.length := by simpa using h
      rw [ih, List.drop_eq_getElem_cons hposition]
      simp [ByteArray.get!, h]
  | case2 position seen h =>
      rw [List.drop_eq_nil_of_le (by simpa using Nat.le_of_not_lt h), List.append_nil]

theorem toList_eq_data_toList (bytes : ByteArray) : bytes.toList = bytes.data.toList := by
  rw [ByteArray.toList, toList_loop_eq, List.reverse_nil, List.nil_append, List.drop_zero]

theorem fromUTF8?_toList_toUTF8 (text : String) :
    String.fromUTF8? text.toUTF8.toList.toByteArray = some text := by
  have hbytes : text.toUTF8.toList.toByteArray = text.toUTF8 := by
    apply ByteArray.ext
    rw [toList_eq_data_toList, List.data_toByteArray, Array.toArray_toList]
  rw [hbytes]
  exact dif_pos text.isValidUTF8

theorem fromUTF8?_eq_some_iff {bytes : List UInt8} {text : String} :
    String.fromUTF8? bytes.toByteArray = some text ↔ bytes = text.toUTF8.toList := by
  constructor
  · intro h
    obtain ⟨hvalid, htext⟩ := Option.dite_none_right_eq_some.mp h
    obtain rfl := Option.some.inj htext
    have hdata : bytes.toByteArray.data.toList = bytes := by rw [List.data_toByteArray]
    rw [toList_eq_data_toList]
    exact hdata.symm
  · rintro rfl
    exact fromUTF8?_toList_toUTF8 text

private theorem toList_toUTF8_ofList (chars : List Char) :
    (String.ofList chars).toUTF8.toList = chars.flatMap String.utf8EncodeChar := by
  rw [String.toUTF8_eq_toByteArray, String.toByteArray_ofList, toList_eq_data_toList,
    List.utf8Encode, List.data_toByteArray]

theorem toList_toUTF8_of_ascii {chars : List Char} (h : ∀ char ∈ chars, char.toNat < 128) :
    (String.ofList chars).toUTF8.toList = chars.map fun char => char.toNat.toUInt8 := by
  rw [toList_toUTF8_ofList]
  induction chars with
  | nil => rfl
  | cons char chars ih =>
      obtain ⟨hchar, hchars⟩ := List.forall_mem_cons.mp h
      have hsmall : char.val.toNat ≤ 127 := Nat.le_of_lt_succ hchar
      rw [List.flatMap_cons, ih hchars, List.map_cons, String.utf8EncodeChar]
      simp only [if_pos hsmall]
      rfl

theorem toList_toUTF8_ne_nil {text : String} (h : text ≠ "") : text.toUTF8.toList ≠ [] := by
  have hempty : "".toUTF8.toList = [] := toList_toUTF8_ofList []
  intro hnil
  have hread := fromUTF8?_toList_toUTF8 text
  rw [hnil, ← hempty, fromUTF8?_toList_toUTF8] at hread
  exact h (Option.some.inj hread).symm

end LearnerPersona.Text
