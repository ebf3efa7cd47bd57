import LearnerPersona.Http.Percent
import LearnerPersona.Proofs.Text.Bytes

/-!
# Spellings of a text in a path

A text can stand in a segment of a path in many ways: every byte of it as a percent sign and
two digits of either case, and many characters also as they are.  Each of these spellings is
read as the text, and none of them has a character that would end the segment.
-/

namespace LearnerPersona.Http.Percent

def plainSigns : List Char :=
  ['-', '.', '_', '~', '!', '$', '&', '\x27', '(', ')', '*', '+', ',', ';', '=', ':', '@']

def IsWord (char : Char) : Prop :=
  '0' ≤ char ∧ char ≤ '9' ∨ 'A' ≤ char ∧ char ≤ 'Z' ∨ 'a' ≤ char ∧ char ≤ 'z'

def IsPlain (char : Char) : Prop := IsWord char ∨ char ∈ plainSigns

inductive SpellsByte : List Char → UInt8 → Prop
  | plain {char : Char} (h : IsPlain char) : SpellsByte [char] char.toNat.toUInt8
  | escaped {high low : Char} {upper lower : Nat} (hhigh : Text.hexValue? high = some upper)
      (hlow : Text.hexValue? low = some lower) :
      SpellsByte ['%', high, low] (upper * 16 + lower).toUInt8

inductive SpellsBytes : List Char → List UInt8 → Prop
  | nil : SpellsBytes [] []
  | cons {chars rest : List Char} {byte : UInt8} {bytes : List UInt8}
      (hbyte : SpellsByte chars byte) (hrest : SpellsBytes rest bytes) :
      SpellsBytes (chars ++ rest) (byte :: bytes)

/-- The segment is one of the percent encodings of the text. -/
def Spells (segment : List Char) (text : String) : Prop :=
  SpellsBytes segment text.toUTF8.toList

/-! ## Characters of a spelling -/

/-- The character is one byte and ends neither a segment nor a path. -/
def Inner (char : Char) : Prop := char.toNat < 128 ∧ char ∉ ['/', '?', '#']

theorem isWord_iff {char : Char} : IsWord char ↔
    48 ≤ char.toNat ∧ char.toNat ≤ 57 ∨ 65 ≤ char.toNat ∧ char.toNat ≤ 90 ∨
      97 ≤ char.toNat ∧ char.toNat ≤ 122 :=
  Iff.rfl

private theorem isWord_of_hexValue? {char : Char} {value : Nat}
    (h : Text.hexValue? char = some value) :
    IsWord char := by
  have hrange : 48 ≤ char.toNat ∧ char.toNat ≤ 57 ∨ 65 ≤ char.toNat ∧ char.toNat ≤ 70 ∨
      97 ≤ char.toNat ∧ char.toNat ≤ 102 := by
    unfold Text.hexValue? at h
    split at h
    next hdigit => exact .inl hdigit
    next =>
      split at h
      next hlower => exact .inr (.inr hlower)
      next =>
        split at h
        next hupper => exact .inr (.inl hupper)
        next => cases h
  rw [isWord_iff]
  omega

private theorem inner_of_isPlain {char : Char} (h : IsPlain char) : Inner char ∧ char ≠ '%' := by
  rcases h with hword | hsign
  · have hrange := isWord_iff.mp hword
    refine ⟨⟨by omega, ?_⟩, ?_⟩
    · simp only [List.mem_cons, List.not_mem_nil, or_false]
      rintro (rfl | rfl | rfl) <;> simp at hrange
    · rintro rfl
      simp at hrange
  · have hsigns : ∀ sign ∈ plainSigns, Inner sign ∧ sign ≠ '%' := by simp [plainSigns, Inner]
    exact hsigns char hsign

private theorem inner_of_hexValue? {char : Char} {value : Nat}
    (h : Text.hexValue? char = some value) :
    Inner char :=
  (inner_of_isPlain (.inl (isWord_of_hexValue? h))).1

theorem SpellsByte.inner {chars : List Char} {byte : UInt8} (h : SpellsByte chars byte) :
    ∀ char ∈ chars, Inner char := by
  cases h with
  | plain h => simpa using (inner_of_isPlain h).1
  | escaped hhigh hlow =>
      have hsign : Inner '%' := by simp [Inner]
      simpa using ⟨hsign, inner_of_hexValue? hhigh, inner_of_hexValue? hlow⟩

theorem SpellsBytes.inner {chars : List Char} {bytes : List UInt8} (h : SpellsBytes chars bytes) :
    ∀ char ∈ chars, Inner char := by
  induction h with
  | nil => simp
  | cons hbyte _ ih => exact List.forall_mem_append.mpr ⟨hbyte.inner, ih⟩

theorem SpellsBytes.ne_nil {chars : List Char} {bytes : List UInt8} (h : SpellsBytes chars bytes)
    (hne : bytes ≠ []) : chars ≠ [] := by
  cases h with
  | nil => contradiction
  | cons hbyte => cases hbyte <;> simp

/-! ## Reading -/

private theorem decodeBytes_cons {byte : UInt8} (h : byte ≠ sign) (bytes : List UInt8) :
    decodeBytes (byte :: bytes) = byte :: decodeBytes bytes := by
  match bytes with
  | [] => rfl
  | [_] => rfl
  | _ :: _ :: _ => rw [decodeBytes, if_neg h]

private theorem decodeBytes_pair {high low value : UInt8} (h : pair? high low = some value)
    (bytes : List UInt8) :
    decodeBytes (sign :: high :: low :: bytes) = value :: decodeBytes bytes := by
  rw [decodeBytes, if_pos rfl, h]

theorem toNat_toUInt8 {char : Char} (h : char.toNat < 128) :
    char.toNat.toUInt8.toNat = char.toNat := by
  simp only [Nat.toUInt8_eq, UInt8.toNat_ofNat']
  omega

private theorem toUInt8_ne_sign {char : Char} (h : char.toNat < 128) (hne : char ≠ '%') :
    char.toNat.toUInt8 ≠ sign := by
  intro hbyte
  have hnumber : char.toNat = '%'.toNat := by
    rw [← toNat_toUInt8 h, hbyte]
    rfl
  exact hne (Char.toNat_inj.mp hnumber)

private theorem digitValue?_toUInt8 {char : Char} (h : char.toNat < 128) :
    digitValue? char.toNat.toUInt8 = Text.hexValue? char := by
  rw [digitValue?, toNat_toUInt8 h, Char.ofNat_toNat]

private theorem SpellsByte.decodeBytes_append {chars : List Char} {byte : UInt8}
    (h : SpellsByte chars byte) (bytes : List UInt8) :
    decodeBytes (chars.map (·.toNat.toUInt8) ++ bytes) = byte :: decodeBytes bytes := by
  cases h with
  | plain h =>
      obtain ⟨⟨hlt, -⟩, hne⟩ := inner_of_isPlain h
      exact decodeBytes_cons (toUInt8_ne_sign hlt hne) bytes
  | escaped hhigh hlow =>
      apply decodeBytes_pair
      rw [pair?, digitValue?_toUInt8 (inner_of_hexValue? hhigh).1,
        digitValue?_toUInt8 (inner_of_hexValue? hlow).1, hhigh, hlow]
      rfl

theorem SpellsBytes.decodeBytes_eq {chars : List Char} {bytes : List UInt8}
    (h : SpellsBytes chars bytes) : decodeBytes (chars.map (·.toNat.toUInt8)) = bytes := by
  induction h with
  | nil => rfl
  | cons hbyte _ ih => rw [List.map_append, hbyte.decodeBytes_append, ih]

theorem Spells.decode?_eq {segment : List Char} {text : String} (h : Spells segment text) :
    decode? segment = some text := by
  rw [decode?, Text.toList_toUTF8_of_ascii fun char hchar => (h.inner char hchar).1,
    h.decodeBytes_eq, Text.fromUTF8?_toList_toUTF8]

/-! ## Writing -/

/-- Every byte is written as a percent sign and two digits. -/
def encode (text : String) : List Char :=
  (text.toUTF8.toList.flatMap encodeByte).map fun byte => Char.ofNat byte.toNat

private theorem hexValue?_digit : ∀ value < 16,
    Text.hexValue? (Char.ofNat (digit value).toNat) = some value := by
  decide

theorem spells_encode (text : String) : Spells (encode text) text := by
  rw [Spells, encode]
  induction text.toUTF8.toList with
  | nil => exact .nil
  | cons byte bytes ih =>
      have hlt := byte.toNat_lt
      have hbyte := SpellsByte.escaped (hexValue?_digit (byte.toNat / 16) (by omega))
        (hexValue?_digit (byte.toNat % 16) (by omega))
      have hvalue : (byte.toNat / 16 * 16 + byte.toNat % 16).toUInt8 = byte := by
        rw [Nat.div_add_mod']
        simp
      rw [hvalue] at hbyte
      exact .cons hbyte ih

end LearnerPersona.Http.Percent
