import LearnerPersona.Proofs.Text.Bytes
import LearnerPersona.Text.Bytes

/-!
# Bytes decoded into letters

The bytes of a text are decoded into its characters.  Bytes that have been decoded can be
cut behind any letter, and what follows an ASCII character does not matter to the letters in
front of it.
-/

namespace LearnerPersona.Text

open Letter (decodeAfter frontChar?)
open String (utf8EncodeChar)

/-! ## Bytes of characters -/

private theorem utf8EncodeChar_ne_nil (char : Char) : utf8EncodeChar char ≠ [] := by
  rw [← List.length_pos_iff, String.length_utf8EncodeChar]
  exact char.utf8Size_pos

private theorem le_or_of_le {byte high : UInt8} (h : 128 ≤ high) : 128 ≤ byte ||| high := by
  rw [UInt8.le_iff_toNat_le] at h ⊢
  exact Nat.le_trans h (by rw [UInt8.toNat_or]; exact Nat.right_le_or)

private theorem utf8EncodeChar_eq_singleton_of_mem {char : Char} {byte : UInt8}
    (h : byte ∈ utf8EncodeChar char) (hlt : byte < 128) : utf8EncodeChar char = [byte] := by
  have hhigh {low high : UInt8} (hle : 128 ≤ high) : byte ≠ low ||| high := fun heq =>
    absurd hlt (UInt8.not_lt.mpr (heq ▸ le_or_of_le hle))
  rcases char.utf8Size_eq with hsize | hsize | hsize | hsize
  · rw [String.utf8EncodeChar_eq_singleton hsize] at h ⊢
    rw [List.mem_singleton.mp h]
  · rw [String.utf8EncodeChar_eq_cons_cons hsize] at h
    simp [hhigh (by decide : (128 : UInt8) ≤ 0xc0), hhigh (by decide : (128 : UInt8) ≤ 0x80)] at h
  · rw [String.utf8EncodeChar_eq_cons_cons_cons hsize] at h
    simp [hhigh (by decide : (128 : UInt8) ≤ 0xe0), hhigh (by decide : (128 : UInt8) ≤ 0x80)] at h
  · rw [String.utf8EncodeChar_eq_cons_cons_cons_cons hsize] at h
    simp [hhigh (by decide : (128 : UInt8) ≤ 0xf0), hhigh (by decide : (128 : UInt8) ≤ 0x80)] at h

theorem frontChar?_eq_some_iff {bytes : List UInt8} {char : Char} :
    frontChar? bytes = some char ↔ utf8EncodeChar char <+: bytes := by
  constructor
  · intro h
    obtain ⟨rest, hrest⟩ := ByteArray.exists_of_utf8DecodeChar?_eq_some h
    have htake : bytes.take 4 = utf8EncodeChar char ++ rest.data.toList := by
      simpa using congrArg (·.data.toList) hrest
    exact (htake ▸ List.prefix_append _ _).trans (List.take_prefix 4 bytes)
  · rintro ⟨rest, rfl⟩
    have hlength : (utf8EncodeChar char).length ≤ 4 := by
      rw [String.length_utf8EncodeChar]
      exact char.utf8Size_le_four
    rw [frontChar?, List.take_append, List.take_of_length_le hlength, List.toByteArray_append]
    exact ByteArray.utf8DecodeChar?_utf8EncodeChar_append

private theorem frontChar?_append {char : Char} (bytes : List UInt8) :
    frontChar? (utf8EncodeChar char ++ bytes) = some char :=
  frontChar?_eq_some_iff.mpr (List.prefix_append _ _)

private theorem frontChar?_eq_none_of_append {front rest : List UInt8}
    (h : frontChar? (front ++ rest) = none) : frontChar? front = none := by
  cases hfront : frontChar? front with
  | none => rfl
  | some char =>
      have hprefix := (frontChar?_eq_some_iff.mp hfront).trans (List.prefix_append front rest)
      rw [frontChar?_eq_some_iff.mpr hprefix] at h
      cases h

/-- No character goes on behind a byte below 128. -/
private theorem frontChar?_append_eq_none {front rest : List UInt8} (hne : front ≠ [])
    (h : frontChar? front = none) (hlast : ∀ byte ∈ front.getLast?, byte < 128) :
    frontChar? (front ++ rest) = none := by
  cases hwhole : frontChar? (front ++ rest) with
  | none => rfl
  | some char =>
      have hfront : ¬ utf8EncodeChar char <+: front := fun hprefix => by
        rw [frontChar?_eq_some_iff.mpr hprefix] at h
        cases h
      have hchar := frontChar?_eq_some_iff.mp hwhole
      rcases List.prefix_or_prefix_of_prefix hchar (List.prefix_append front rest) with
        hprefix | hprefix
      · exact absurd hprefix hfront
      · have hmem := hprefix.mem (List.getLast_mem hne)
        have hsingle := utf8EncodeChar_eq_singleton_of_mem hmem
          (hlast _ (List.getLast?_eq_some_getLast hne))
        have hsame : front = utf8EncodeChar char :=
          hprefix.eq_of_length_le (by rw [hsingle]; exact List.length_pos_iff.mpr hne)
        exact absurd (hsame ▸ List.prefix_rfl) hfront

/-! ## Decoding -/

private theorem decodeAfter_eq (known : Nat) (bytes : List UInt8) :
    decodeAfter known bytes = decodeAfter 0 (bytes.drop known) := by
  induction known generalizing bytes with
  | zero => rfl
  | succ known ih =>
      cases bytes with
      | nil => rfl
      | cons byte bytes => exact ih bytes

theorem decode_char (char : Char) (bytes : List UInt8) :
    decodeAfter 0 (utf8EncodeChar char ++ bytes) = .char char :: decodeAfter 0 bytes := by
  have hfront := @frontChar?_append char bytes
  obtain ⟨byte, others, hbytes⟩ := List.exists_cons_of_ne_nil (utf8EncodeChar_ne_nil char)
  have hsize : char.utf8Size - 1 = others.length := by
    rw [← String.length_utf8EncodeChar, hbytes]
    rfl
  rw [hbytes, List.cons_append] at hfront ⊢
  rw [decodeAfter, hfront]
  simp only
  rw [decodeAfter_eq, hsize, List.drop_left]

theorem decode_stray {byte : UInt8} {bytes : List UInt8}
    (h : frontChar? (byte :: bytes) = none) :
    decodeAfter 0 (byte :: bytes) = .stray byte :: decodeAfter 0 bytes := by
  rw [decodeAfter, h]

theorem decode_induction {motive : List UInt8 → Prop} (nil : motive [])
    (char : ∀ char bytes, motive bytes → motive (utf8EncodeChar char ++ bytes))
    (stray : ∀ byte bytes, frontChar? (byte :: bytes) = none → motive bytes →
      motive (byte :: bytes)) (bytes : List UInt8) : motive bytes := by
  induction hlength : bytes.length using Nat.strongRecOn generalizing bytes with
  | ind length ih =>
      subst hlength
      cases bytes with
      | nil => exact nil
      | cons byte bytes =>
          cases hfront : frontChar? (byte :: bytes) with
          | none => exact stray byte bytes hfront (ih _ (Nat.lt_succ_self _) bytes rfl)
          | some found =>
              obtain ⟨rest, hrest⟩ := frontChar?_eq_some_iff.mp hfront
              rw [← hrest]
              refine char found rest (ih _ ?_ rest rfl)
              rw [← hrest, List.length_append]
              exact Nat.lt_add_of_pos_left (List.length_pos_iff.mpr (utf8EncodeChar_ne_nil found))

theorem letters_ofText (text : String) : (Bytes.ofText text).letters = text.toList.map .char := by
  rw [Bytes.letters, Bytes.ofText]
  induction text.toList with
  | nil => rfl
  | cons char chars ih => rw [List.flatMap_cons, decode_char, ih, List.map_cons]

theorem exists_bytes_of_decode {bytes : List UInt8} {front rest : List Letter}
    (h : decodeAfter 0 bytes = front ++ rest) :
    ∃ frontBytes restBytes, bytes = frontBytes ++ restBytes ∧
      decodeAfter 0 frontBytes = front := by
  induction bytes using decode_induction generalizing front with
  | nil =>
      obtain ⟨rfl, -⟩ := List.append_eq_nil_iff.mp h.symm
      exact ⟨[], [], rfl, rfl⟩
  | char char bytes ih =>
      cases front with
      | nil => exact ⟨[], _, rfl, rfl⟩
      | cons letter front =>
          rw [decode_char] at h
          obtain ⟨rfl, hrest⟩ := List.cons.inj h
          obtain ⟨frontBytes, restBytes, rfl, hfront⟩ := ih hrest
          refine ⟨utf8EncodeChar char ++ frontBytes, restBytes, by simp, ?_⟩
          rw [decode_char, hfront]
  | stray byte bytes hstray ih =>
      cases front with
      | nil => exact ⟨[], _, rfl, rfl⟩
      | cons letter front =>
          rw [decode_stray hstray] at h
          obtain ⟨rfl, hrest⟩ := List.cons.inj h
          obtain ⟨frontBytes, restBytes, rfl, hfront⟩ := ih hrest
          refine ⟨byte :: frontBytes, restBytes, rfl, ?_⟩
          rw [decode_stray (frontChar?_eq_none_of_append hstray), hfront]

private theorem lt_of_getLast?_append {front bytes : List UInt8}
    (h : ∀ byte ∈ (front ++ bytes).getLast?, byte < 128) : ∀ byte ∈ bytes.getLast?, byte < 128 := by
  intro byte hbyte
  exact h byte (by rw [List.getLast?_append, hbyte]; rfl)

/-- The letters in front of a place behind an ASCII character are decoded by themselves. -/
theorem decode_append {front : List UInt8} (h : ∀ byte ∈ front.getLast?, byte < 128)
    (rest : List UInt8) :
    decodeAfter 0 (front ++ rest) = decodeAfter 0 front ++ decodeAfter 0 rest := by
  induction front using decode_induction with
  | nil => rfl
  | char char bytes ih =>
      rw [List.append_assoc, decode_char, decode_char, ih (lt_of_getLast?_append h),
        List.cons_append]
  | stray byte bytes hstray ih =>
      have hwhole := @frontChar?_append_eq_none _ rest (List.cons_ne_nil byte bytes) hstray h
      rw [List.cons_append] at hwhole ⊢
      rw [decode_stray hwhole, decode_stray hstray,
        ih (@lt_of_getLast?_append [byte] bytes h), List.cons_append]

theorem decode_ne_nil {bytes : List UInt8} (h : bytes ≠ []) : decodeAfter 0 bytes ≠ [] := by
  induction bytes using decode_induction with
  | nil => exact absurd rfl h
  | char char bytes => simp [decode_char]
  | stray byte bytes hstray => simp [decode_stray hstray]

/-- Bytes whose last letter is an ASCII character end with a byte below 128. -/
theorem lt_of_getLast?_decode {bytes : List UInt8} {last : Char} (hlast : last.toNat < 128)
    (h : (decodeAfter 0 bytes).getLast? = some (.char last)) :
    ∀ byte ∈ bytes.getLast?, byte < 128 := by
  induction bytes using decode_induction with
  | nil => simp
  | char char bytes ih =>
      rw [decode_char] at h
      rcases eq_or_ne bytes [] with rfl | hne
      · obtain rfl : char = last := by simpa [decodeAfter] using h
        have hsize : char.utf8Size = 1 := Char.utf8Size_eq_one_iff.mpr (Nat.le_of_lt_succ hlast)
        have hbyte : char.val.toUInt8 < 128 := by
          rw [UInt8.lt_iff_toNat_lt, UInt32.toNat_toUInt8]
          exact Nat.lt_of_le_of_lt (Nat.mod_le _ _) hlast
        simpa [String.utf8EncodeChar_eq_singleton hsize] using hbyte
      · rw [List.getLast?_cons_of_ne_nil (decode_ne_nil hne)] at h
        rw [List.getLast?_append_of_ne_nil _ hne]
        exact ih h
  | stray byte bytes hstray ih =>
      rw [decode_stray hstray] at h
      rcases eq_or_ne bytes [] with rfl | hne
      · simp [decodeAfter] at h
      · rw [List.getLast?_cons_of_ne_nil (decode_ne_nil hne)] at h
        rw [List.getLast?_cons_of_ne_nil hne]
        exact ih h

end LearnerPersona.Text
