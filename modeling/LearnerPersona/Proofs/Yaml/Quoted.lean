import LearnerPersona.Proofs.Json.Document
import LearnerPersona.Yaml.Scalar.Quoted

/-!
# Escaped texts between double quotes

Every escape that JSON writes means the same between double quotes in YAML, and a character
that is written as it is stands for itself, blanks at either end included.
-/

namespace LearnerPersona.Yaml

open LearnerPersona.Json (escaped hexDigit)

/-! ## Characters -/

/-- JSON escapes the character, or YAML lets it stand as it is. -/
def IsShared (char : Char) : Prop :=
  ¬ (0x7F ≤ char.toNat ∧ char.toNat ≤ 0x9F) ∧ char ≠ '\u2028' ∧ char ≠ '\u2029' ∧
    char ≠ '\uFEFF' ∧ char ≠ '\uFFFE' ∧ char ≠ '\uFFFF'

instance : DecidablePred IsShared := fun _ => inferInstanceAs (Decidable (_ ∧ _))

/-- The character is found in a text just as it is written there. -/
def IsVerbatim (char : Char) : Prop :=
  isPrintable char = true ∧ char ≠ '\r' ∧ char ≠ '\u0085'

instance : DecidablePred IsVerbatim := fun _ => inferInstanceAs (Decidable (_ ∧ _))

theorem unifyBreaks_of_verbatim {chars : List Char} (h : ∀ char ∈ chars, IsVerbatim char) :
    unifyBreaks chars = chars := by
  induction chars with
  | nil => rfl
  | cons char chars ih =>
      rw [List.forall_mem_cons] at h
      obtain ⟨⟨-, hreturn, hnext⟩, hchars⟩ := h
      have hstep : unifyBreaks (char :: chars) =
          (if char = '\r' || char = '\u0085' then '\n' else char) :: unifyBreaks chars := by
        cases chars <;> simp [unifyBreaks, hreturn]
      rw [hstep, ih hchars]
      simp [hreturn, hnext]

private theorem toNat_ne {char other : Char} (h : char ≠ other) : char.toNat ≠ other.toNat :=
  fun hsame => h (Char.toNat_inj.mp hsame)

private theorem verbatim_of_shared {char : Char} (h : IsShared char)
    (hcontrol : 0x20 ≤ char.toNat) :
    IsVerbatim char := by
  obtain ⟨hdelete, -, -, -, hreverse, hlast⟩ := h
  have hreverse' : char.toNat ≠ 0xFFFE := toNat_ne hreverse
  have hlast' : char.toNat ≠ 0xFFFF := toNat_ne hlast
  refine ⟨?_, ?_, ?_⟩
  · simp only [isPrintable, Bool.or_eq_true, Bool.and_eq_true, decide_eq_true_eq]
    omega
  · rintro rfl
    exact absurd hcontrol (by decide)
  · rintro rfl
    exact hdelete (by decide)

private theorem verbatim_hexDigit {value : Nat} (h : value < 16) : IsVerbatim (hexDigit value) := by
  revert value
  decide

private theorem verbatim_short {letter : Char} (h : IsVerbatim letter) :
    ∀ written ∈ ['\\', letter], IsVerbatim written :=
  List.forall_mem_cons.mpr ⟨by decide, List.forall_mem_singleton.mpr h⟩

theorem verbatim_escaped {char : Char} (h : IsShared char) :
    ∀ written ∈ escaped char, IsVerbatim written := by
  unfold escaped
  split
  · exact verbatim_short (by decide)
  · exact verbatim_short (by decide)
  · exact verbatim_short (by decide)
  · exact verbatim_short (by decide)
  · exact verbatim_short (by decide)
  · exact verbatim_short (by decide)
  · exact verbatim_short (by decide)
  next =>
    split
    next hcontrol =>
      have hhigh : IsVerbatim (hexDigit (char.toNat / 16)) := verbatim_hexDigit (by omega)
      have hlow : IsVerbatim (hexDigit (char.toNat % 16)) := verbatim_hexDigit (by omega)
      simp only [List.forall_mem_cons]
      exact ⟨by decide, by decide, by decide, by decide, hhigh, hlow, List.forall_mem_nil _⟩
    next hcontrol =>
      rw [List.forall_mem_singleton]
      exact verbatim_of_shared h (Nat.le_of_not_lt hcontrol)

/-! ## Places -/

/-- Further on in the same line, at most so many bytes. -/
structure Place.Within (place : Place) (reach : Nat) (behind : Place) : Prop where
  line : behind.line = place.line
  column : 0 < behind.column
  bytes : behind.bytes ≤ place.bytes + reach

theorem Place.Within.trans {place middle behind : Place} {reach reach' : Nat}
    (h : place.Within reach middle) (h' : middle.Within reach' behind) :
    place.Within (reach + reach') behind where
  line := h'.line.trans h.line
  column := h'.column
  bytes := by
    have hfirst := h.bytes
    have hlast := h'.bytes
    omega

private theorem Place.within_skip (place : Place) {count : Nat} (hfirst : 0 < count)
    (hlast : count ≤ 6) :
    place.Within 6 (place.skip count) where
  line := rfl
  column := by simp [skip]; omega
  bytes := by simp [skip]; omega

theorem Place.within_next (place : Place) : place.Within 1 place.next where
  line := rfl
  column := Nat.succ_pos _
  bytes := Nat.le_refl _

private theorem Place.within_after (place : Place) (char : Char) :
    place.Within 6 (place.after char) where
  line := rfl
  column := Nat.succ_pos _
  bytes := by
    have hsize := char.utf8Size_le_four
    simp [after]
    omega

/-! ## Scalars -/

/-- The characters say the text up to the closing quote, and the rest stands behind it. -/
def Closes (chars : List Char) (place : Place) (text rest : List Char) (behind : Place) : Prop :=
  ∀ gap : Gap, gap.folded = false →
    doubleQuoted gap chars place = some (gap.text ++ text, ⟨rest, behind⟩)

private theorem codePoint?_control {value : Nat} (h : value < 0x20) :
    codePoint? ['0', '0', hexDigit (value / 16), hexDigit (value % 16)] =
      some (Char.ofNat value) := by
  revert value
  decide

private theorem atDocumentMark_eq_false {place : Place} (hcolumn : 0 < place.column)
    (chars : List Char) : (place.column = 0 && atDocumentMark chars) = false := by
  simp [hcolumn.ne']

namespace Closes

variable {chars text rest : List Char} {place behind : Place}

theorem quote (hcolumn : 0 < place.column) (rest : List Char) :
    Closes ('"' :: rest) place [] rest place.next := by
  intro gap _
  unfold doubleQuoted
  simp [atDocumentMark_eq_false hcolumn]

theorem short {letter char : Char} (hcolumn : 0 < place.column)
    (hletter : letter ∉ ['x', 'u', 'U', '\n', '\u2028', '\u2029'])
    (hshort : shortEscape? letter = some char)
    (h : Closes chars (place.skip 2) text rest behind) :
    Closes ('\\' :: letter :: chars) place (char :: text) rest behind := by
  intro gap _
  simp only [List.mem_cons, List.not_mem_nil, or_false, not_or] at hletter
  unfold doubleQuoted
  simp [atDocumentMark_eq_false hcolumn, hletter, isBreak, hshort, h {} rfl, Reading.push,
    Gap.text]

theorem hex {value : Nat} (hcolumn : 0 < place.column) (hvalue : value < 0x20)
    (h : Closes chars (place.skip 6) text rest behind) :
    Closes ('\\' :: 'u' :: '0' :: '0' :: hexDigit (value / 16) :: hexDigit (value % 16) :: chars)
      place (Char.ofNat value :: text) rest behind := by
  intro gap _
  unfold doubleQuoted
  simp [atDocumentMark_eq_false hcolumn, codePoint?_control hvalue, h {} rfl, Reading.push,
    Gap.text]

theorem space (hcolumn : 0 < place.column) (h : Closes chars place.next text rest behind) :
    Closes (' ' :: chars) place (' ' :: text) rest behind := by
  intro gap hgap
  have hblank : doubleQuoted (gap.addBlank ' ') chars place.next =
      some ((gap.text ++ [' ']) ++ text, ⟨rest, behind⟩) := by
    rw [h _ (by simp [Gap.addBlank, hgap])]
    simp [Gap.text, Gap.addBlank, hgap]
  unfold doubleQuoted
  simp [atDocumentMark_eq_false hcolumn, isBlank, hblank]

theorem plain {char : Char} (hcolumn : 0 < place.column) (hquote : char ≠ '"')
    (hescape : char ≠ '\\') (hblank : isBlank char = false) (hbreak : isBreak char = false)
    (h : Closes chars (place.after char) text rest behind) :
    Closes (char :: chars) place (char :: text) rest behind := by
  intro gap _
  unfold doubleQuoted
  simp [atDocumentMark_eq_false hcolumn, hescape, hblank, hbreak, h {} rfl, Reading.push,
    Gap.text]

/-- One character takes six bytes at most, however it is written. -/
theorem escaped {char : Char} (hshared : IsShared char) (hcolumn : 0 < place.column) :
    ∃ middle, place.Within 6 middle ∧ ∀ {chars text rest behind},
      Closes chars middle text rest behind →
      Closes (Json.escaped char ++ chars) place (char :: text) rest behind := by
  unfold Json.escaped
  split
  next => exact ⟨_, place.within_skip (by decide) (by decide), short hcolumn (by decide) rfl⟩
  next => exact ⟨_, place.within_skip (by decide) (by decide), short hcolumn (by decide) rfl⟩
  next => exact ⟨_, place.within_skip (by decide) (by decide), short hcolumn (by decide) rfl⟩
  next => exact ⟨_, place.within_skip (by decide) (by decide), short hcolumn (by decide) rfl⟩
  next => exact ⟨_, place.within_skip (by decide) (by decide), short hcolumn (by decide) rfl⟩
  next => exact ⟨_, place.within_skip (by decide) (by decide), short hcolumn (by decide) rfl⟩
  next => exact ⟨_, place.within_skip (by decide) (by decide), short hcolumn (by decide) rfl⟩
  next hquote hescape _ _ hfeed _ htab =>
    split
    next hcontrol =>
      refine ⟨place.skip 6, place.within_skip (by decide) (by decide), fun h => ?_⟩
      have hhex := hex hcolumn hcontrol h
      rwa [Char.ofNat_toNat] at hhex
    next =>
      by_cases hspace : char = ' '
      · subst hspace
        exact ⟨_, place.within_skip (by decide) (by decide), space hcolumn⟩
      · have hblank : isBlank char = false := by
          simp only [isBlank, Bool.or_eq_false_iff, decide_eq_false_iff_not]
          exact ⟨hspace, htab⟩
        have hbreak : isBreak char = false := by
          simp only [isBreak, Bool.or_eq_false_iff, decide_eq_false_iff_not]
          exact ⟨⟨hfeed, hshared.2.1⟩, hshared.2.2.1⟩
        exact ⟨_, place.within_after char, plain hcolumn hquote hescape hblank hbreak⟩

/-- The escaped text is read as the text itself. -/
theorem flatMap_escaped (rest : List Char) {text : List Char}
    (hshared : ∀ char ∈ text, IsShared char) (hcolumn : 0 < place.column) :
    ∃ behind, place.Within (6 * text.length + 1) behind ∧
      Closes (text.flatMap Json.escaped ++ '"' :: rest) place text rest behind := by
  induction text generalizing place with
  | nil => exact ⟨_, place.within_next, quote hcolumn rest⟩
  | cons char text ih =>
      rw [List.forall_mem_cons] at hshared
      obtain ⟨middle, hmiddle, hchar⟩ := escaped hshared.1 hcolumn
      obtain ⟨behind, hbehind, htext⟩ := ih hshared.2 hmiddle.column
      refine ⟨behind, ?_, ?_⟩
      · have hwithin := hmiddle.trans hbehind
        rw [List.length_cons]
        convert hwithin using 1
        omega
      · rw [List.flatMap_cons, List.append_assoc]
        exact hchar htext

end Closes

end LearnerPersona.Yaml
