import LearnerPersona.Json.Number
import LearnerPersona.Json.Value
import LearnerPersona.Proofs.Json.Reading

/-!
# Written values read back

The text of a value spells the document that mirrors the value, so this is what a reader
finds.  Whatever the characters of a text, they are escaped as themselves, and the digits
of a number denote it as long as it fits a word.
-/

namespace LearnerPersona.Json

open LearnerPersona.Text (Letter)

/-! ## Texts -/

private theorem hexNumber?_control {value : Nat} (h : value < 0x20) :
    Text.hexNumber? ['0', '0', hexDigit (value / 16), hexDigit (value % 16)] = some value := by
  revert value
  decide

private theorem TextUnit.ofNat_control {char : Char} (h : char.toNat < 0x20) :
    TextUnit.ofNat char.toNat = .char char := by
  rw [TextUnit.ofNat, if_neg (by omega), if_neg (by omega), Char.ofNat_toNat]

private theorem spellsUnit_escaped (char : Char) :
    SpellsUnit ((escaped char).map .char) (.char char) := by
  unfold escaped
  split
  · exact .short rfl
  · exact .short rfl
  · exact .short rfl
  · exact .short rfl
  · exact .short rfl
  · exact .short rfl
  · exact .short rfl
  next hquote hescape _ _ _ _ _ =>
    split
    next hcontrol =>
      rw [← TextUnit.ofNat_control hcontrol]
      exact .hex (hexNumber?_control hcontrol)
    next hcontrol => exact .plain (Nat.le_of_not_lt hcontrol) hquote hescape

theorem spellsUnits_flatMap (chars : List Char) :
    SpellsUnits ((chars.flatMap escaped).map .char) (chars.map .char) := by
  induction chars with
  | nil => exact .nil
  | cons char chars ih =>
      rw [List.flatMap_cons, List.map_append]
      exact .cons (spellsUnit_escaped char) ih

theorem joinUnits_map (chars : List Char) :
    joinUnits (chars.map .char) .closed = .ok chars := by
  induction chars with
  | nil => rfl
  | cons char chars ih =>
      rw [List.map_cons, joinUnits, ih]
      rfl

/-! ## Numbers -/

theorem digits_toDigits (value : Nat) : Digits (Nat.toDigits 10 value) :=
  ⟨Nat.toDigits_ne_nil, fun _ hchar => Nat.isDigit_of_mem_toDigits (by omega) (by omega) hchar⟩

private theorem head_toDigits {value : Nat} (h : 0 < value) :
    (Nat.toDigits 10 value).head? ≠ some '0' := by
  induction value using Nat.strongRecOn with
  | ind value ih =>
      by_cases hlt : value < 10
      · rw [Nat.toDigits_of_lt_base hlt]
        have hdigits : ∀ digit < 10, 0 < digit → [Nat.digitChar digit].head? ≠ some '0' := by
          decide
        exact hdigits value hlt h
      · have hquotient := ih (value / 10) (by omega) (by omega)
        obtain ⟨digit, digits, hdigits⟩ :=
          List.exists_cons_of_ne_nil (Nat.toDigits_ne_nil : Nat.toDigits 10 (value / 10) ≠ [])
        rw [Nat.toDigits_of_base_le (by omega) (by omega), hdigits]
        rwa [hdigits] at hquotient

theorem spellsNumeral_toDigits (value : Nat) :
    SpellsNumeral (Nat.toDigits 10 value) ⟨false, Nat.toDigits 10 value, [], none⟩ := by
  have hwhole : SpellsWhole (Nat.toDigits 10 value) := by
    refine ⟨digits_toDigits value, fun hhead => ?_⟩
    rcases Nat.eq_zero_or_pos value with rfl | hpos
    · exact Nat.toDigits_zero 10
    · exact absurd hhead (head_toDigits hpos)
  simpa using SpellsNumeral.mk hwhole .absent .absent

namespace Numeral

theorem le_ofDigitChars (digits : List Char) (total : Nat) :
    total ≤ Nat.ofDigitChars 10 digits total := by
  rw [Nat.ofDigitChars_eq_ofDigitChars_zero]
  have hpow : 1 ≤ 10 ^ digits.length := Nat.one_le_pow _ _ (by omega)
  calc
    total ≤ 10 ^ digits.length * total := Nat.le_mul_of_pos_left _ hpow
    _ ≤ _ := Nat.le_add_right _ _

private theorem accumulate_eq {bound total : Nat} {digits : List Char}
    (h : Nat.ofDigitChars 10 digits total ≤ bound) :
    accumulate bound total digits = (Nat.ofDigitChars 10 digits total, []) := by
  induction digits generalizing total with
  | nil => rfl
  | cons digit digits ih =>
      rw [Nat.ofDigitChars_cons, Nat.mul_comm] at h ⊢
      have hnext := Nat.le_trans (le_ofDigitChars digits _) h
      rw [accumulate]
      simp only [if_neg (Nat.not_lt_of_le hnext)]
      exact ih h

theorem value_toDigits {value : Nat} (h : value ≤ greatestWord) :
    Numeral.value ⟨false, Nat.toDigits 10 value, [], none⟩ = .ok (.integer value) := by
  have hdigits : accumulate greatestWord 0 (Nat.toDigits 10 value) = (value, []) := by
    have hvalue : Nat.ofDigitChars 10 (Nat.toDigits 10 value) 0 = value :=
      Nat.ofDigitChars_ten_toDigits
    rw [accumulate_eq (le_of_eq_of_le hvalue h), hvalue]
  simp [Numeral.value, integer?, hdigits]

end Numeral

/-! ## The document of a value -/

mutual

/-- What a reader finds in the text of the value. -/
def document : Json → Document
  | .null => .null
  | .boolean value => .boolean value
  | .number value => .number ⟨false, Nat.toDigits 10 value, [], none⟩
  | .string text => .string (text.toList.map .char) .closed
  | .array items => .array (itemDocuments items) .closed
  | .object members => .object (memberDocuments members) .closed

def itemDocuments : List Json → List Document
  | [] => []
  | item :: items => item.document :: itemDocuments items

def memberDocuments : List (String × Json) → List (Document × Document)
  | [] => []
  | (key, value) :: members =>
      (.string (key.toList.map .char) .closed, value.document) :: memberDocuments members

end

theorem itemDocuments_eq_map (items : List Json) :
    itemDocuments items = items.map document := by
  induction items with
  | nil => rfl
  | cons item items ih => rw [itemDocuments, ih, List.map_cons]

def memberDocument (member : String × Json) : Document × Document :=
  ((Json.string member.1).document, member.2.document)

theorem memberDocuments_eq_map (members : List (String × Json)) :
    memberDocuments members = members.map memberDocument := by
  induction members with
  | nil => rfl
  | cons member members ih =>
      rw [memberDocuments, ih, List.map_cons, memberDocument, document]

/-! ## The text of a value -/

theorem Spells.padded {letters : List Letter} {document : Document} (h : Spells letters document) :
    SpellsPadded letters document := by
  simpa using SpellsPadded.mk blank_nil h blank_nil

theorem spells_stringChars (text : String) :
    Spells ((stringChars text).map .char) (.string (text.toList.map .char) .closed) := by
  simpa [stringChars] using Spells.string (spellsUnits_flatMap text.toList)

private theorem spellsMember {key : String} {value : Json}
    (h : Spells (value.chars.map .char) value.document) :
    SpellsMember ((stringChars key ++ ':' :: value.chars).map .char)
      (.string (key.toList.map .char) .closed, value.document) := by
  simpa using SpellsMember.mk (spells_stringChars key).padded h.padded

mutual

theorem spells_chars : (value : Json) → Spells (value.chars.map .char) value.document
  | .null => .null
  | .boolean true => .yes
  | .boolean false => .no
  | .number value => .positive (spellsNumeral_toDigits value) rfl
  | .string text => spells_stringChars text
  | .array [] => .emptyArray blank_nil
  | .array (item :: items) => by
      simpa [chars, document] using Spells.array (spellsItems_itemsChars (item :: items) (by simp))
  | .object [] => .emptyObject blank_nil
  | .object (member :: members) => by
      simpa [chars, document] using
        Spells.object (spellsMembers_membersChars (member :: members) (by simp))

theorem spellsItems_itemsChars : (items : List Json) → items ≠ [] →
    SpellsItems ((itemsChars items).map .char) (itemDocuments items)
  | [], h => absurd rfl h
  | [item], _ => .one item.spells_chars.padded
  | item :: next :: items, _ => by
      have hrest := spellsItems_itemsChars (next :: items) (by simp)
      simpa [itemsChars, itemDocuments] using SpellsItems.more item.spells_chars.padded hrest

theorem spellsMembers_membersChars : (members : List (String × Json)) → members ≠ [] →
    SpellsMembers ((membersChars members).map .char) (memberDocuments members)
  | [], h => absurd rfl h
  | [(_, value)], _ => .one (spellsMember value.spells_chars)
  | (key, value) :: next :: members, _ => by
      have hmember := @spellsMember key value value.spells_chars
      have hrest := spellsMembers_membersChars (next :: members) (by simp)
      simpa [membersChars, memberDocuments] using SpellsMembers.more hmember hrest

end

theorem read_of_spells {text : String} {chars : List Char} {document : Document}
    (htext : text.toList = chars) (h : Spells (chars.map .char) document) :
    Document.read text = (document, []) := by
  rw [Document.read, htext]
  simpa using Document.readLetters_append blank_nil h stops_nil.ends

theorem read_compact (value : Json) : Document.read value.compact = (value.document, []) :=
  read_of_spells String.toList_ofList value.spells_chars

/-! ## The indented text of a value -/

private theorem blank_newline (level : Nat) : Blank ((newline level).map .char) := by
  intro letter hletter
  rw [newline, List.map_cons, List.map_replicate, List.mem_cons, List.mem_replicate] at hletter
  rcases hletter with rfl | ⟨-, rfl⟩ <;> rfl

private theorem blank_space : Blank [.char ' '] := by
  simp [Blank, isBlank]

private theorem spellsMember_indented (key : String) {before after : List Letter}
    {chars : List Char} {value : Json} (hbefore : Blank before) (hafter : Blank after)
    (h : Spells (chars.map .char) value.document) :
    SpellsMember (before ++ (stringChars key ++ [':', ' '] ++ chars).map .char ++ after)
      (.string (key.toList.map .char) .closed, value.document) := by
  have hkey := SpellsPadded.mk hbefore (spells_stringChars key) blank_nil
  have hvalue := SpellsPadded.mk blank_space h hafter
  simpa using SpellsMember.mk hkey hvalue

mutual

theorem spells_indentedChars (level : Nat) :
    (value : Json) → Spells ((value.indentedChars level).map .char) value.document
  | .null => spells_chars .null
  | .boolean value => spells_chars (.boolean value)
  | .number value => spells_chars (.number value)
  | .string text => spells_chars (.string text)
  | .array [] => spells_chars (.array [])
  | .array (item :: items) => by
      have hitems := spellsItems_indentedItems (level + 1) (item :: items) (by simp)
        (blank_newline (level + 1)) (blank_newline level)
      simpa [indentedChars, document] using Spells.array hitems
  | .object [] => spells_chars (.object [])
  | .object (member :: members) => by
      have hmembers := spellsMembers_indentedMembers (level + 1) (member :: members) (by simp)
        (blank_newline (level + 1)) (blank_newline level)
      simpa [indentedChars, document] using Spells.object hmembers

-- The blanks in front of an item and behind it stand on either side of a comma, so they
-- come with the list and not with its brackets.
theorem spellsItems_indentedItems (level : Nat) : (items : List Json) → items ≠ [] →
    {before after : List Letter} → Blank before → Blank after →
    SpellsItems (before ++ (indentedItems level items).map .char ++ after) (itemDocuments items)
  | [], h, _, _, _, _ => absurd rfl h
  | [item], _, _, _, hbefore, hafter =>
      .one (.mk hbefore (item.spells_indentedChars level) hafter)
  | item :: next :: items, _, _, _, hbefore, hafter => by
      have hitem := SpellsPadded.mk hbefore (item.spells_indentedChars level) blank_nil
      have hrest := spellsItems_indentedItems level (next :: items) (by simp)
        (blank_newline level) hafter
      simpa [indentedItems, itemDocuments] using SpellsItems.more hitem hrest

theorem spellsMembers_indentedMembers (level : Nat) : (members : List (String × Json)) →
    members ≠ [] → {before after : List Letter} → Blank before → Blank after →
    SpellsMembers (before ++ (indentedMembers level members).map .char ++ after)
      (memberDocuments members)
  | [], h, _, _, _, _ => absurd rfl h
  | [(key, value)], _, _, _, hbefore, hafter =>
      .one (spellsMember_indented key hbefore hafter (value.spells_indentedChars level))
  | (key, value) :: next :: members, _, _, _, hbefore, hafter => by
      have hmember :=
        spellsMember_indented key hbefore blank_nil (value.spells_indentedChars level)
      have hrest := spellsMembers_indentedMembers level (next :: members) (by simp)
        (blank_newline level) hafter
      simpa [indentedMembers, memberDocuments] using SpellsMembers.more hmember hrest

end

theorem read_indented (value : Json) : Document.read value.indented = (value.document, []) :=
  read_of_spells String.toList_ofList (value.spells_indentedChars 0)

end LearnerPersona.Json
