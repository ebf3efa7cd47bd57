import LearnerPersona.Proofs.Json.Grammar
import LearnerPersona.Proofs.Success

/-!
# Texts and numbers are read as the grammar spells them

What spells a text or a number is read as it, up to the quote that ends the text and up
to the first character that cannot go on with the number; and nothing else is read as one.
-/

namespace LearnerPersona.Json

open LearnerPersona.Text (Letter)

/-! ## Texts -/

private theorem readText_unit {letters : List Letter} {unit : TextUnit}
    (h : SpellsUnit letters unit) (rest : List Letter) :
    readText (letters ++ rest) = (readText rest).push unit := by
  cases h with
  | plain hcontrol hquote hescape =>
      rw [List.singleton_append, readText.eq_def]
      split <;> simp_all [Nat.not_lt_of_le]
  | stray byte => rw [List.singleton_append, readText]
  | @short letter char h =>
      have hletter : letter ≠ 'u' := by
        rintro rfl
        cases h
      simp [readText, hletter, h]
  | hex h =>
      simp only [List.cons_append, List.nil_append]
      rw [readText, h]

theorem readText_units {letters : List Letter} {units : List TextUnit}
    (h : SpellsUnits letters units) (rest : List Letter) :
    readText (letters ++ .char '"' :: rest) = ⟨units, .closed, rest⟩ := by
  induction h with
  | nil => rfl
  | cons hunit _ ih => rw [List.append_assoc, readText_unit hunit, ih]; rfl

private theorem TextReading.push_eq_iff {unit : TextUnit} {units : List TextUnit}
    {reading : TextReading} {ending : Ending} {rest : List Letter} :
    reading.push unit = ⟨units, ending, rest⟩ ↔
      ∃ others, reading = ⟨others, ending, rest⟩ ∧ unit :: others = units := by
  obtain ⟨others, ending', rest'⟩ := reading
  constructor
  · rintro ⟨rfl, rfl, rfl⟩
    exact ⟨others, rfl, rfl⟩
  · rintro ⟨_, ⟨rfl, rfl, rfl⟩, rfl⟩
    rfl

theorem spellsUnits_of_readText {letters rest : List Letter} {units : List TextUnit}
    (h : readText letters = ⟨units, .closed, rest⟩) :
    ∃ inner, letters = inner ++ .char '"' :: rest ∧ SpellsUnits inner units := by
  fun_induction readText letters generalizing units with
  | case1 | case3 | case5 | case6 | case7 | case9 | case10 => cases h
  | case2 =>
      cases h
      exact ⟨[], rfl, .nil⟩
  | case4 a b c d tail unit hunit ih =>
      obtain ⟨others, htail, rfl⟩ := TextReading.push_eq_iff.mp h
      obtain ⟨inner, rfl, hinner⟩ := ih htail
      exact ⟨_, rfl, .cons (.hex hunit) hinner⟩
  | case8 letter tail _ _ char hchar ih =>
      obtain ⟨others, htail, rfl⟩ := TextReading.push_eq_iff.mp h
      obtain ⟨inner, rfl, hinner⟩ := ih htail
      exact ⟨_, rfl, .cons (.short hchar) hinner⟩
  | case11 char tail hquote _ _ hlast hescape hstray hcontrol ih =>
      have hplain : char ≠ '\\' := by
        rintro rfl
        rcases tail with _ | ⟨letter | byte, tail⟩
        · exact hlast rfl rfl
        · exact hescape letter tail rfl rfl
        · exact hstray byte tail rfl rfl
      obtain ⟨others, htail, rfl⟩ := TextReading.push_eq_iff.mp h
      obtain ⟨inner, rfl, hinner⟩ := ih htail
      exact ⟨_, rfl, .cons (.plain (Nat.le_of_not_lt hcontrol) hquote hplain) hinner⟩
  | case12 byte tail ih =>
      obtain ⟨others, htail, rfl⟩ := TextReading.push_eq_iff.mp h
      obtain ⟨inner, rfl, hinner⟩ := ih htail
      exact ⟨_, rfl, .cons (.stray byte) hinner⟩

/-! ## Numbers -/

/-- No digit goes on here. -/
def StopsDigits (rest : List Letter) : Prop :=
  ∀ char, rest.head? = some (.char char) → !char.isDigit

private theorem readDigits_of_stops {rest : List Letter} (h : StopsDigits rest) :
    readDigits rest = ([], rest) := by
  rcases rest with _ | ⟨char | byte, rest⟩
  · rfl
  · have hchar := h char rfl
    simp_all [readDigits]
  · rfl

private theorem readDigits_append {digits : List Char} {rest : List Letter}
    (hdigits : ∀ char ∈ digits, char.isDigit) (hrest : StopsDigits rest) :
    readDigits (digits.map .char ++ rest) = (digits, rest) := by
  induction digits with
  | nil => exact readDigits_of_stops hrest
  | cons digit digits ih =>
      obtain ⟨hdigit, hdigits⟩ := List.forall_mem_cons.mp hdigits
      simp [readDigits, hdigit, ih hdigits]

private theorem digits_of_readDigits {letters rest : List Letter} {digits : List Char}
    (h : readDigits letters = (digits, rest)) :
    letters = digits.map .char ++ rest ∧ ∀ char ∈ digits, char.isDigit := by
  induction letters generalizing digits with
  | nil =>
      cases h
      simp
  | cons letter letters ih =>
      cases letter with
      | stray byte =>
          cases h
          simp
      | char char =>
          rw [readDigits] at h
          split at h
          next hchar =>
            cases h
            obtain ⟨hletters, hdigits⟩ := ih rfl
            exact ⟨congrArg (.char char :: ·) hletters, List.forall_mem_cons.mpr ⟨hchar, hdigits⟩⟩
          next =>
            cases h
            simp

/-- No number goes on here. -/
def Stops (rest : List Letter) : Prop :=
  ∀ char, rest.head? = some (.char char) →
    !char.isDigit ∧ char ≠ '.' ∧ char ≠ 'e' ∧ char ≠ 'E'

theorem Stops.digits {rest : List Letter} (h : Stops rest) : StopsDigits rest :=
  fun char hchar => (h char hchar).1

private theorem readWhole_append {whole : List Char} {rest : List Letter} (h : SpellsWhole whole)
    (hrest : StopsDigits rest) : readWhole (whole.map .char ++ rest) = .ok (whole, rest) := by
  obtain ⟨⟨hne, hdigits⟩, hzero⟩ := h
  rw [readWhole, readDigits_append hdigits hrest]
  split
  next heq => exact absurd (congrArg Prod.fst heq) hne
  next heq =>
    obtain ⟨rfl, rfl⟩ := Prod.mk.inj heq
    cases hzero rfl
  next => rfl

private theorem readFraction_append {chars digits : List Char} {rest : List Letter}
    (h : SpellsFraction chars digits) (hrest : StopsDigits rest)
    (hdot : rest.head? ≠ some (.char '.')) :
    readFraction (chars.map .char ++ rest) = .ok (digits, rest) := by
  cases h with
  | absent =>
      rw [List.map_nil, List.nil_append]
      unfold readFraction
      split
      next => exact absurd rfl hdot
      next => rfl
  | present h =>
      rw [List.map_cons, List.cons_append, readFraction, readDigits_append h.2 hrest]
      split
      next heq => exact absurd (congrArg Prod.fst heq) h.1
      next => rfl

private theorem readExponent_append {chars : List Char} {rest : List Letter}
    {exponent? : Option (Bool × List Char)} (h : SpellsExponent chars exponent?)
    (hrest : Stops rest) : readExponent (chars.map .char ++ rest) = .ok (exponent?, rest) := by
  cases h with
  | absent =>
      rw [List.map_nil, List.nil_append]
      unfold readExponent
      split
      next => exact absurd rfl (hrest 'e' rfl).2.2.1
      next => exact absurd rfl (hrest 'E' rfl).2.2.2
      next => rfl
  | @present mark sign digits negative hmark hsign h =>
      obtain ⟨digit, others, rfl⟩ := List.exists_cons_of_ne_nil h.1
      have hdigit : digit.isDigit := h.2 digit List.mem_cons_self
      have hminus : digit ≠ '-' := by rintro rfl; cases hdigit
      have hplus : digit ≠ '+' := by rintro rfl; cases hdigit
      have hread := readDigits_append h.2 hrest.digits
      simp only [List.map_cons, List.cons_append] at hread
      rcases hmark with rfl | rfl <;> cases hsign <;>
        simp [readExponent, hread, hminus, hplus]

private theorem stopsDigits_append {chars : List Char} {rest : List Letter}
    {exponent? : Option (Bool × List Char)} (h : SpellsExponent chars exponent?)
    (hrest : Stops rest) :
    StopsDigits (chars.map .char ++ rest) ∧
      (chars.map Letter.char ++ rest).head? ≠ some (.char '.') := by
  cases h with
  | absent =>
      refine ⟨hrest.digits, fun hdot => ?_⟩
      exact (hrest '.' hdot).2.1 rfl
  | present hmark => rcases hmark with rfl | rfl <;> simp [StopsDigits]

theorem readNumeral_append {chars : List Char} {rest : List Letter} {numeral : Numeral}
    (h : SpellsNumeral chars numeral) (hrest : Stops rest) :
    readNumeral numeral.negative (chars.map .char ++ rest) = .ok (numeral, rest) := by
  cases h with
  | @mk negative whole fraction fractionChars exponentChars exponent? hwhole hfraction hexponent =>
  obtain ⟨hdigits, hdot⟩ := stopsDigits_append hexponent hrest
  have hafter :
      StopsDigits (fractionChars.map .char ++ (exponentChars.map .char ++ rest)) := by
    cases hfraction with
    | absent => exact hdigits
    | present => simp [StopsDigits]
  simp [readNumeral, List.append_assoc, readWhole_append hwhole hafter,
    readFraction_append hfraction hdigits hdot, readExponent_append hexponent hrest, bind,
    Except.bind, pure, Except.pure]

private theorem spellsWhole_of_readWhole {letters rest : List Letter} {whole : List Char}
    (h : readWhole letters = .ok (whole, rest)) :
    letters = whole.map .char ++ rest ∧ SpellsWhole whole := by
  unfold readWhole at h
  split at h
  · cases h
  · cases h
  next hempty hzero =>
    have hread : readDigits letters = (whole, rest) := Except.ok.inj h
    have hne : whole ≠ [] := by
      rintro rfl
      exact hempty rest hread
    obtain ⟨hletters, hdigits⟩ := digits_of_readDigits hread
    refine ⟨hletters, ⟨hne, hdigits⟩, fun hhead => ?_⟩
    obtain ⟨others, rfl⟩ := List.head?_eq_some_iff.mp hhead
    cases others with
    | nil => rfl
    | cons digit others => exact (hzero digit others rest hread).elim

private theorem spellsFraction_of_readFraction {letters rest : List Letter} {fraction : List Char}
    (h : readFraction letters = .ok (fraction, rest)) :
    ∃ inner : List Char, letters = inner.map .char ++ rest ∧ SpellsFraction inner fraction := by
  unfold readFraction at h
  split at h
  next after =>
    split at h
    · cases h
    next hempty =>
      have hread : readDigits after = (fraction, rest) := Except.ok.inj h
      have hne : fraction ≠ [] := by
        rintro rfl
        exact hempty rest hread
      obtain ⟨rfl, hdigits⟩ := digits_of_readDigits hread
      exact ⟨'.' :: fraction, rfl, .present ⟨hne, hdigits⟩⟩
  · cases h
    exact ⟨[], rfl, .absent⟩

private theorem spellsSign_of_readExponent {mark : Char} {after rest : List Letter}
    {exponent? : Option (Bool × List Char)} (hmark : mark = 'e' ∨ mark = 'E')
    (h : readExponent (.char mark :: after) = .ok (exponent?, rest)) :
    ∃ (sign : List Char) (negative : Bool) (digits : List Char),
      after = sign.map .char ++ (digits.map .char ++ rest) ∧ SpellsSign sign negative ∧
      Digits digits ∧ exponent? = some (negative, digits) := by
  obtain ⟨sign, negative, body, rfl, hsign, hread⟩ :
      ∃ (sign : List Char) (negative : Bool) (body : List Letter),
        after = sign.map .char ++ body ∧ SpellsSign sign negative ∧
        ∀ digits tail, readDigits body = (digits, tail) →
          readExponent (.char mark :: after) =
            if digits = [] then .error (noDigitFlaw tail)
            else .ok (some (negative, digits), tail) := by
    by_cases hminus : ∃ body, after = .char '-' :: body
    · obtain ⟨body, rfl⟩ := hminus
      refine ⟨['-'], true, body, rfl, .minus, fun digits tail hdigits => ?_⟩
      rcases hmark with rfl | rfl <;> cases digits <;> simp [readExponent, hdigits]
    by_cases hplus : ∃ body, after = .char '+' :: body
    · obtain ⟨body, rfl⟩ := hplus
      refine ⟨['+'], false, body, rfl, .plus, fun digits tail hdigits => ?_⟩
      rcases hmark with rfl | rfl <;> cases digits <;> simp [readExponent, hdigits]
    · refine ⟨[], false, after, rfl, .absent, fun digits tail hdigits => ?_⟩
      rcases hmark with rfl | rfl <;> cases digits <;> simp_all [readExponent]
  rcases hdigits : readDigits body with ⟨digits, tail⟩
  rw [hread digits tail hdigits] at h
  split at h
  · cases h
  next hne =>
    cases h
    obtain ⟨rfl, hall⟩ := digits_of_readDigits hdigits
    exact ⟨sign, negative, digits, rfl, hsign, ⟨hne, hall⟩, rfl⟩

private theorem spellsExponent_of_readExponent {letters rest : List Letter}
    {exponent? : Option (Bool × List Char)}
    (h : readExponent letters = .ok (exponent?, rest)) :
    ∃ inner : List Char, letters = inner.map .char ++ rest ∧ SpellsExponent inner exponent? := by
  by_cases hmark : ∃ mark after, letters = .char mark :: after ∧ (mark = 'e' ∨ mark = 'E')
  · obtain ⟨mark, after, rfl, hmark⟩ := hmark
    obtain ⟨sign, negative, digits, rfl, hsign, hdigits, rfl⟩ := spellsSign_of_readExponent hmark h
    exact ⟨mark :: sign ++ digits, by simp, .present hmark hsign hdigits⟩
  · unfold readExponent at h
    split at h
    · exact absurd ⟨'e', _, rfl, .inl rfl⟩ hmark
    · exact absurd ⟨'E', _, rfl, .inr rfl⟩ hmark
    · cases h
      exact ⟨[], rfl, .absent⟩

theorem spellsNumeral_of_readNumeral {negative : Bool} {letters rest : List Letter}
    {numeral : Numeral} (h : readNumeral negative letters = .ok (numeral, rest)) :
    numeral.negative = negative ∧
      ∃ inner : List Char, letters = inner.map .char ++ rest ∧ SpellsNumeral inner numeral := by
  obtain ⟨⟨whole, afterWhole⟩, hwhole, h⟩ := bind_eq_ok_iff.mp h
  obtain ⟨⟨fraction, afterFraction⟩, hfraction, h⟩ := bind_eq_ok_iff.mp h
  obtain ⟨⟨exponent?, afterExponent⟩, hexponent, h⟩ := bind_eq_ok_iff.mp h
  cases h
  obtain ⟨hletters, hwhole⟩ := spellsWhole_of_readWhole hwhole
  obtain ⟨fractionChars, hafterWhole, hfraction⟩ := spellsFraction_of_readFraction hfraction
  obtain ⟨exponentChars, hafterFraction, hexponent⟩ := spellsExponent_of_readExponent hexponent
  refine ⟨rfl, whole ++ fractionChars ++ exponentChars, ?_, .mk hwhole hfraction hexponent⟩
  rw [hletters, hafterWhole, hafterFraction, List.map_append, List.map_append,
    List.append_assoc, List.append_assoc]

end LearnerPersona.Json
