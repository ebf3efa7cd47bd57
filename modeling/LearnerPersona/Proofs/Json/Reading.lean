import Mathlib.Data.List.TakeWhile
import LearnerPersona.Proofs.Json.Scalar
import LearnerPersona.Proofs.Text.Letters
import LearnerPersona.Wire.FromJson

/-!
# Documents are read as the grammar spells them

The reader finds every document that the grammar spells, wherever in a text it stands,
and a document that it finds without a fault is spelled by the letters it has read.
-/

namespace LearnerPersona.Json

open LearnerPersona.Text (Bytes Letter)

/-! ## Blanks -/

theorem blank_nil : Blank [] := by
  simp [Blank]

private theorem skipBlanks_append {blanks : List Letter} (h : Blank blanks) (rest : List Letter) :
    skipBlanks (blanks ++ rest) = skipBlanks rest :=
  List.dropWhile_append_of_pos h

private theorem skipBlanks_nil : skipBlanks [] = [] := rfl

theorem skipBlanks_of_blank {blanks : List Letter} (h : Blank blanks) : skipBlanks blanks = [] := by
  rw [← List.append_nil blanks, skipBlanks_append h, skipBlanks_nil]

private theorem skipBlanks_cons {letter : Letter} (rest : List Letter)
    (h : isBlank letter = false) :
    skipBlanks (letter :: rest) = letter :: rest := by
  simp [skipBlanks, h]

private theorem exists_blank_append_skipBlanks (letters : List Letter) :
    ∃ blanks, letters = blanks ++ skipBlanks letters ∧ Blank blanks :=
  ⟨letters.takeWhile isBlank, List.takeWhile_append_dropWhile.symm,
    fun _ hletter => List.mem_takeWhile_imp hletter⟩

theorem stops_nil : Stops [] := by
  simp [Stops]

private theorem stops_cons {char : Char} {rest : List Letter}
    (h : !char.isDigit ∧ char ≠ '.' ∧ char ≠ 'e' ∧ char ≠ 'E') : Stops (.char char :: rest) := by
  simpa [Stops] using h

theorem Blank.stops {blanks rest : List Letter} (h : Blank blanks) (hrest : Stops rest) :
    Stops (blanks ++ rest) := by
  cases blanks with
  | nil => exact hrest
  | cons letter blanks =>
      have hletter := h letter List.mem_cons_self
      simp only [isBlank, Bool.or_eq_true, decide_eq_true_eq] at hletter
      rcases hletter with ((rfl | rfl) | rfl) | rfl <;> exact stops_cons (by decide)

/-! ## First letters -/

private theorem isDigit_ne {char other : Char} (h : char.isDigit) (hother : other.isDigit = false) :
    char ≠ other := by
  rintro rfl
  simp_all

private theorem isBlank_of_isDigit {char : Char} (h : char.isDigit) :
    isBlank (.char char) = false := by
  simp [isBlank, isDigit_ne h (rfl : ' '.isDigit = false),
    isDigit_ne h (rfl : '\n'.isDigit = false), isDigit_ne h (rfl : '\t'.isDigit = false),
    isDigit_ne h (rfl : '\r'.isDigit = false)]

private theorem SpellsNumeral.exists_digit {chars : List Char} {numeral : Numeral}
    (h : SpellsNumeral chars numeral) :
    ∃ digit rest, chars = digit :: rest ∧ digit.isDigit := by
  cases h with
  | @mk negative whole fraction fractionChars exponentChars exponent? hwhole =>
      obtain ⟨digit, digits, rfl⟩ := List.exists_cons_of_ne_nil hwhole.1.1
      exact ⟨digit, digits ++ fractionChars ++ exponentChars, by simp,
        hwhole.1.2 digit List.mem_cons_self⟩

/-- A letter at which a value can begin: neither a blank nor the end of an array. -/
def BeginsValue (letter : Letter) : Prop := isBlank letter = false ∧ letter ≠ .char ']'

private theorem Spells.exists_cons {letters : List Letter} {document : Document}
    (h : Spells letters document) :
    ∃ letter rest, letters = letter :: rest ∧ BeginsValue letter := by
  cases h with
  | null | yes | no | negative | string | emptyArray | array | emptyObject | object =>
      exact ⟨_, _, rfl, rfl, by decide⟩
  | positive h =>
      obtain ⟨digit, rest, rfl, hdigit⟩ := h.exists_digit
      refine ⟨_, _, rfl, isBlank_of_isDigit hdigit, fun hclose => ?_⟩
      exact isDigit_ne hdigit rfl (Letter.char.inj hclose)

private theorem SpellsPadded.exists_skipBlanks {letters : List Letter} {document : Document}
    (h : SpellsPadded letters document) (rest : List Letter) :
    ∃ letter after, skipBlanks (letters ++ rest) = letter :: after ∧ BeginsValue letter := by
  cases h with
  | @mk before inner behind _ hbefore h hafter =>
      obtain ⟨letter, others, rfl, hletter⟩ := h.exists_cons
      refine ⟨letter, others ++ (behind ++ rest), ?_, hletter⟩
      rw [List.append_assoc, List.append_assoc, skipBlanks_append hbefore, List.cons_append,
        skipBlanks_cons _ hletter.1]

private theorem SpellsItems.exists_skipBlanks {letters : List Letter} {items : List Document}
    (h : SpellsItems letters items) (rest : List Letter) :
    ∃ letter after, skipBlanks (letters ++ rest) = letter :: after ∧ BeginsValue letter := by
  cases h with
  | one h => exact h.exists_skipBlanks rest
  | more h =>
      rw [List.append_assoc]
      exact h.exists_skipBlanks _

private theorem SpellsMembers.exists_skipBlanks {letters : List Letter}
    {members : List (Document × Document)} (h : SpellsMembers letters members)
    (rest : List Letter) :
    ∃ after, skipBlanks (letters ++ rest) = .char '"' :: after := by
  have hmember {letters : List Letter} {member : Document × Document}
      (h : SpellsMember letters member) (rest : List Letter) :
      ∃ after, skipBlanks (letters ++ rest) = .char '"' :: after := by
    cases h with
    | mk hkey =>
        cases hkey with
        | mk hbefore hkey hafter =>
            cases hkey
            simp only [List.append_assoc, List.cons_append, skipBlanks_append hbefore]
            exact ⟨_, skipBlanks_cons _ rfl⟩
  cases h with
  | one h => exact hmember h rest
  | more h =>
      rw [List.append_assoc]
      exact hmember h _

/-! ## Spelled values are read -/

/-- Only a number can go on with what follows it. -/
def Ends (document : Document) (rest : List Letter) : Prop :=
  ∀ numeral, document = .number numeral → Stops rest

theorem Stops.ends {document : Document} {rest : List Letter} (h : Stops rest) :
    Ends document rest :=
  fun _ _ => h

private theorem readValue_skipBlanks {blanks : List Letter} (h : Blank blanks) (fuel : Nat)
    (rest : List Letter) : readValue fuel (blanks ++ rest) = readValue fuel rest := by
  cases fuel with
  | zero => rfl
  | succ fuel => rw [readValue, readValue, skipBlanks_append h]

private theorem readNumber_append {chars : List Char} {rest : List Letter} {numeral : Numeral}
    (h : SpellsNumeral chars numeral) (hrest : Stops rest) :
    readNumber numeral.negative (chars.map .char ++ rest) = (.number numeral, rest) := by
  rw [readNumber, readNumeral_append h hrest]

/-- With this much fuel every value of the fitting length is read. -/
def ReadsValues (fuel : Nat) : Prop :=
  ∀ {letters : List Letter} {document : Document} {rest : List Letter}, Spells letters document →
    2 * letters.length ≤ fuel → Ends document rest →
      readValue fuel (letters ++ rest) = (document, rest)

def ReadsItems (fuel : Nat) : Prop :=
  ∀ {letters : List Letter} {items : List Document} (rest : List Letter),
    SpellsItems letters items → 2 * letters.length + 1 ≤ fuel →
      readItems fuel (letters ++ .char ']' :: rest) = (items, .closed, rest)

def ReadsMembers (fuel : Nat) : Prop :=
  ∀ {letters : List Letter} {members : List (Document × Document)} (rest : List Letter),
    SpellsMembers letters members → 2 * letters.length + 1 ≤ fuel →
      readMembers fuel (letters ++ .char '}' :: rest) = (members, .closed, rest)

theorem ReadsValues.padded {fuel : Nat} (h : ReadsValues fuel) {letters rest : List Letter}
    {document : Document} (hspells : SpellsPadded letters document)
    (hfuel : 2 * letters.length ≤ fuel) (hrest : Stops rest) :
    ∃ after, readValue fuel (letters ++ rest) = (document, after) ∧
      skipBlanks after = skipBlanks rest := by
  cases hspells with
  | @mk before inner after _ hbefore hinner hafter =>
      simp only [List.length_append] at hfuel
      refine ⟨after ++ rest, ?_, skipBlanks_append hafter rest⟩
      rw [List.append_assoc, List.append_assoc, readValue_skipBlanks hbefore]
      exact h hinner (by omega) (hafter.stops hrest).ends

private theorem readsValues_succ {fuel : Nat} (hitems : ReadsItems fuel)
    (hmembers : ReadsMembers fuel) :
    ReadsValues (fuel + 1) := by
  intro letters document rest hspells hfuel hrest
  cases hspells with
  | null | yes | no => rfl
  | @positive _ numeral h hsign =>
      obtain ⟨digit, digits, rfl, hdigit⟩ := h.exists_digit
      have hread := readNumber_append h (hrest numeral rfl)
      rw [hsign, List.map_cons, List.cons_append] at hread
      rw [List.map_cons, List.cons_append, readValue, skipBlanks_cons _ (isBlank_of_isDigit hdigit)]
      split <;> simp_all
  | @negative _ numeral h hsign =>
      have hread := readNumber_append h (hrest numeral rfl)
      rw [hsign] at hread
      rw [List.cons_append, readValue, skipBlanks_cons _ rfl]
      exact hread
  | string h =>
      rw [List.cons_append, List.cons_append, readValue, skipBlanks_cons _ rfl]
      simp [readText_units h]
  | emptyArray h =>
      rw [List.cons_append, List.cons_append, readValue, skipBlanks_cons _ rfl]
      simp [skipBlanks_append h, skipBlanks_cons rest (rfl : isBlank (.char ']') = false)]
  | array h =>
      simp only [List.cons_append, List.append_assoc, List.nil_append, List.length_cons,
        List.length_append] at hfuel ⊢
      obtain ⟨letter, after, hskip, -, hclose⟩ := h.exists_skipBlanks (.char ']' :: rest)
      have hread := hitems rest h (by omega)
      rw [readValue, skipBlanks_cons _ rfl]
      simp [hskip, hclose, hread]
  | emptyObject h =>
      rw [List.cons_append, List.cons_append, readValue, skipBlanks_cons _ rfl]
      simp [skipBlanks_append h, skipBlanks_cons rest (rfl : isBlank (.char '}') = false)]
  | object h =>
      simp only [List.cons_append, List.append_assoc, List.nil_append, List.length_cons,
        List.length_append] at hfuel ⊢
      obtain ⟨after, hskip⟩ := h.exists_skipBlanks (.char '}' :: rest)
      have hread := hmembers rest h (by omega)
      rw [readValue, skipBlanks_cons _ rfl]
      simp [hskip, hread]

private theorem readsItems_succ {fuel : Nat} (hvalues : ReadsValues fuel)
    (hitems : ReadsItems fuel) :
    ReadsItems (fuel + 1) := by
  intro letters items rest hspells hfuel
  cases hspells with
  | one h =>
      obtain ⟨after, hread, hskip⟩ := hvalues.padded h (by omega)
        (stops_cons (by decide) : Stops (.char ']' :: rest))
      rw [readItems, hread]
      simp [hskip, skipBlanks_cons rest (rfl : isBlank (.char ']') = false)]
  | @more letters others item items h hothers =>
      simp only [List.append_assoc, List.cons_append, List.length_append,
        List.length_cons] at hfuel ⊢
      obtain ⟨after, hread, hskip⟩ := hvalues.padded h (by omega)
        (stops_cons (by decide) : Stops (.char ',' :: (others ++ .char ']' :: rest)))
      rw [readItems, hread]
      simp [hskip, skipBlanks_cons _ (rfl : isBlank (.char ',') = false),
        hitems rest hothers (by omega)]

theorem ReadsValues.member {fuel : Nat} (h : ReadsValues fuel) {letters rest : List Letter}
    {member : Document × Document} (hspells : SpellsMember letters member)
    (hfuel : 2 * letters.length ≤ fuel) (hrest : Stops rest) :
    ∃ between after, readValue fuel (letters ++ rest) = (member.1, between) ∧
      (∃ value, skipBlanks between = .char ':' :: value ∧
        readValue fuel value = (member.2, after)) ∧
      skipBlanks after = skipBlanks rest := by
  cases hspells with
  | @mk key letters units value hkey hvalue =>
      simp only [List.length_append, List.length_cons] at hfuel
      obtain ⟨between, hreadKey, hskipKey⟩ := h.padded hkey (by omega)
        (stops_cons (by decide) : Stops (.char ':' :: (letters ++ rest)))
      obtain ⟨after, hreadValue, hskipValue⟩ := h.padded hvalue (by omega) hrest
      rw [skipBlanks_cons _ rfl] at hskipKey
      rw [List.append_assoc, List.cons_append]
      exact ⟨between, after, hreadKey, ⟨_, hskipKey, hreadValue⟩, hskipValue⟩

private theorem readsMembers_succ {fuel : Nat} (hvalues : ReadsValues fuel)
    (hmembers : ReadsMembers fuel) : ReadsMembers (fuel + 1) := by
  intro letters members rest hspells hfuel
  cases hspells with
  | @one _ member h =>
      obtain ⟨between, after, hkey, ⟨value, hcolon, hvalue⟩, hskip⟩ := hvalues.member h (by omega)
        (stops_cons (by decide) : Stops (.char '}' :: rest))
      rw [readMembers, hkey]
      simp [hcolon, hvalue, hskip, skipBlanks_cons rest (rfl : isBlank (.char '}') = false)]
  | @more letters others member members h hothers =>
      simp only [List.append_assoc, List.cons_append, List.length_append,
        List.length_cons] at hfuel ⊢
      obtain ⟨between, after, hkey, ⟨value, hcolon, hvalue⟩, hskip⟩ := hvalues.member h (by omega)
        (stops_cons (by decide) : Stops (.char ',' :: (others ++ .char '}' :: rest)))
      rw [readMembers, hkey]
      simp [hcolon, hvalue, hskip, skipBlanks_cons _ (rfl : isBlank (.char ',') = false),
        hmembers rest hothers (by omega)]

theorem reads (fuel : Nat) : ReadsValues fuel ∧ ReadsItems fuel ∧ ReadsMembers fuel := by
  induction fuel with
  | zero =>
      refine ⟨fun h hfuel _ => ?_, fun _ _ hfuel => ?_, fun _ _ hfuel => ?_⟩
      · obtain ⟨char, others, rfl, -⟩ := h.exists_cons
        simp at hfuel
      · omega
      · omega
  | succ fuel ih =>
      obtain ⟨hvalues, hitems, hmembers⟩ := ih
      exact ⟨readsValues_succ hitems hmembers, readsItems_succ hvalues hitems,
        readsMembers_succ hvalues hmembers⟩

/-! ## Values that are read are spelled -/

private theorem blank_of_skipBlanks {letters rest : List Letter} (h : skipBlanks letters = rest) :
    ∃ blanks, letters = blanks ++ rest ∧ Blank blanks := by
  obtain ⟨blanks, hletters, hblanks⟩ := exists_blank_append_skipBlanks letters
  exact ⟨blanks, h ▸ hletters, hblanks⟩

/-- The letters that have been read with a value: blanks, and what spells it. -/
def Finds (letters : List Letter) (document : Document) (rest : List Letter) : Prop :=
  ∃ blanks inner, letters = blanks ++ inner ++ rest ∧ Blank blanks ∧ Spells inner document

def FindsValues (fuel : Nat) : Prop :=
  ∀ {letters rest : List Letter} {document : Document}, readValue fuel letters = (document, rest) →
    document.skip = .ok () → Finds letters document rest

def FindsItems (fuel : Nat) : Prop :=
  ∀ {letters rest : List Letter} {items : List Document},
    readItems fuel letters = (items, .closed, rest) → Document.skipItems items = .ok () →
      ∃ inner, letters = inner ++ .char ']' :: rest ∧ SpellsItems inner items

def FindsMembers (fuel : Nat) : Prop :=
  ∀ {letters rest : List Letter} {members : List (Document × Document)},
    readMembers fuel letters = (members, .closed, rest) → Document.skipMembers members = .ok () →
      ∃ inner, letters = inner ++ .char '}' :: rest ∧ SpellsMembers inner members

private theorem readWord_eq {start : Start} {value document : Document} {word : List Char}
    {letters rest : List Letter} (h : readWord start value word letters = (document, rest))
    (hskip : document.skip = .ok ()) : letters = word.map .char ++ rest ∧ value = document := by
  induction word generalizing letters with
  | nil =>
      obtain ⟨rfl, rfl⟩ := Prod.mk.inj h
      exact ⟨rfl, rfl⟩
  | cons expected word ih =>
      cases letters with
      | nil =>
          cases h
          cases start <;> cases hskip
      | cons letter letters =>
          rw [readWord] at h
          split at h
          next hletter =>
            obtain ⟨rfl, hvalue⟩ := ih h
            exact ⟨by rw [hletter]; rfl, hvalue⟩
          next =>
            cases h
            cases start <;> cases hskip

private theorem spellsNumeral_of_readNumber {negative : Bool} {letters rest : List Letter}
    {document : Document} (h : readNumber negative letters = (document, rest))
    (hskip : document.skip = .ok ()) :
    ∃ (numeral : Numeral) (inner : List Char), document = .number numeral ∧
      numeral.negative = negative ∧ letters = inner.map .char ++ rest ∧
      SpellsNumeral inner numeral := by
  unfold readNumber at h
  split at h
  next numeral tail hread =>
    cases h
    obtain ⟨hsign, inner, hletters, hnumeral⟩ := spellsNumeral_of_readNumeral hread
    exact ⟨numeral, inner, rfl, hsign, hletters, hnumeral⟩
  next =>
    cases h
    cases hskip

def FindsInner (letters : List Letter) (document : Document) (rest : List Letter) : Prop :=
  ∃ inner, skipBlanks letters = inner ++ rest ∧ Spells inner document

private theorem findsInner_array {fuel : Nat} (hitems : FindsItems fuel)
    {letters after rest : List Letter} {document : Document}
    (hopen : skipBlanks letters = .char '[' :: after)
    (h : readValue (fuel + 1) letters = (document, rest)) (hskip : document.skip = .ok ()) :
    FindsInner letters document rest := by
  simp only [readValue, hopen] at h
  split at h
  next =>
    cases h
    cases hskip
  next tail hclose =>
    cases h
    obtain ⟨between, rfl, hbetween⟩ := blank_of_skipBlanks hclose
    exact ⟨.char '[' :: between ++ [.char ']'], by simp [hopen], .emptyArray hbetween⟩
  next =>
    rcases hread : readItems fuel after with ⟨items, ending, tail⟩
    rw [hread] at h
    cases h
    obtain ⟨⟨⟩, hskipItems, hending⟩ := bind_eq_ok_iff.mp hskip
    cases ending with
    | broken flaw => cases hending
    | closed =>
        obtain ⟨inner, rfl, hspells⟩ := hitems hread hskipItems
        exact ⟨.char '[' :: inner ++ [.char ']'], by simp [hopen], .array hspells⟩

private theorem findsInner_object {fuel : Nat} (hmembers : FindsMembers fuel)
    {letters after rest : List Letter} {document : Document}
    (hopen : skipBlanks letters = .char '{' :: after)
    (h : readValue (fuel + 1) letters = (document, rest)) (hskip : document.skip = .ok ()) :
    FindsInner letters document rest := by
  simp only [readValue, hopen] at h
  split at h
  next =>
    cases h
    cases hskip
  next tail hclose =>
    cases h
    obtain ⟨between, rfl, hbetween⟩ := blank_of_skipBlanks hclose
    exact ⟨.char '{' :: between ++ [.char '}'], by simp [hopen], .emptyObject hbetween⟩
  next =>
    rcases hread : readMembers fuel after with ⟨members, ending, tail⟩
    rw [hread] at h
    cases h
    obtain ⟨⟨⟩, hskipMembers, hending⟩ := bind_eq_ok_iff.mp hskip
    cases ending with
    | broken flaw => cases hending
    | closed =>
        obtain ⟨inner, rfl, hspells⟩ := hmembers hread hskipMembers
        exact ⟨.char '{' :: inner ++ [.char '}'], by simp [hopen], .object hspells⟩

private theorem findsInner_succ {fuel : Nat} (hitems : FindsItems fuel)
    (hmembers : FindsMembers fuel) {letters rest : List Letter} {document : Document}
    (h : readValue (fuel + 1) letters = (document, rest)) (hskip : document.skip = .ok ()) :
    FindsInner letters document rest := by
  have hread := h
  rw [readValue] at h
  split at h
  next =>
    cases h
    cases hskip
  next hnull =>
    obtain ⟨rfl, rfl⟩ := readWord_eq h hskip
    exact ⟨_, hnull, .null⟩
  next htrue =>
    obtain ⟨rfl, rfl⟩ := readWord_eq h hskip
    exact ⟨_, htrue, .yes⟩
  next hfalse =>
    obtain ⟨rfl, rfl⟩ := readWord_eq h hskip
    exact ⟨_, hfalse, .no⟩
  next after hquote =>
    rcases htext : readText after with ⟨units, ending, tail⟩
    rw [htext] at h
    cases h
    cases ending with
    | broken flaw => cases hskip
    | closed =>
        obtain ⟨inner, rfl, hunits⟩ := spellsUnits_of_readText htext
        exact ⟨.char '"' :: inner ++ [.char '"'], by simp [hquote], .string hunits⟩
  next after hminus =>
    obtain ⟨numeral, inner, rfl, hsign, rfl, hnumeral⟩ := spellsNumeral_of_readNumber h hskip
    exact ⟨.char '-' :: inner.map .char, hminus, .negative hnumeral hsign⟩
  next after hopen => exact findsInner_array hitems hopen hread hskip
  next after hopen => exact findsInner_object hmembers hopen hread hskip
  next char after _ _ _ _ _ _ _ hchar =>
    split at h
    next hdigit =>
      obtain ⟨numeral, inner, rfl, hsign, hdigits, hnumeral⟩ := spellsNumeral_of_readNumber h hskip
      exact ⟨_, hchar.trans hdigits, .positive hnumeral hsign⟩
    next =>
      cases h
      cases hskip
  next =>
    cases h
    cases hskip

private theorem findsValues_succ {fuel : Nat} (hitems : FindsItems fuel)
    (hmembers : FindsMembers fuel) :
    FindsValues (fuel + 1) := by
  intro letters rest document h hskip
  obtain ⟨blanks, hletters, hblanks⟩ := exists_blank_append_skipBlanks letters
  obtain ⟨inner, hinner, hspells⟩ := findsInner_succ hitems hmembers h hskip
  exact ⟨blanks, inner, by rw [List.append_assoc, ← hinner]; exact hletters, hblanks, hspells⟩

theorem Finds.padded {letters after rest : List Letter} {document : Document}
    (h : Finds letters document after) (hrest : skipBlanks after = rest) :
    ∃ inner, letters = inner ++ rest ∧ SpellsPadded inner document := by
  obtain ⟨before, inner, rfl, hbefore, hinner⟩ := h
  obtain ⟨behind, rfl, hbehind⟩ := blank_of_skipBlanks hrest
  exact ⟨before ++ inner ++ behind, by simp, .mk hbefore hinner hbehind⟩

private theorem findsItems_succ {fuel : Nat} (hvalues : FindsValues fuel)
    (hitems : FindsItems fuel) :
    FindsItems (fuel + 1) := by
  intro letters rest items h hskip
  rcases hread : readValue fuel letters with ⟨item, after⟩
  rw [readItems, hread] at h
  dsimp only at h
  split at h
  next tail hcomma =>
    rcases hothers : readItems fuel tail with ⟨others, ending, last⟩
    rw [hothers] at h
    cases h
    obtain ⟨⟨⟩, hskipItem, hskipOthers⟩ := bind_eq_ok_iff.mp hskip
    obtain ⟨inner, rfl, hinner⟩ := (hvalues hread hskipItem).padded hcomma
    obtain ⟨innerOthers, rfl, hspells⟩ := hitems hothers hskipOthers
    exact ⟨inner ++ .char ',' :: innerOthers, by simp, .more hinner hspells⟩
  next tail hclose =>
    cases h
    obtain ⟨⟨⟩, hskipItem, -⟩ := bind_eq_ok_iff.mp hskip
    obtain ⟨inner, rfl, hinner⟩ := (hvalues hread hskipItem).padded hclose
    exact ⟨inner, rfl, .one hinner⟩
  next => cases h
  next => cases h

private theorem skipKey_eq_ok_iff {key : Document} :
    Document.skipKey key = .ok () ↔ ∃ units, key = .string units .closed := by
  cases key with
  | string units ending => cases ending <;> simp [Document.skipKey, Ending.check]
  | null | boolean | number | array | object | broken | missing => simp [Document.skipKey]

/-- An object is not closed behind a key that has no value. -/
private theorem exists_colon_of_readMembers {fuel : Nat} {letters between rest : List Letter}
    {key : Document} {members : List (Document × Document)}
    (hkey : readValue fuel letters = (key, between))
    (h : readMembers (fuel + 1) letters = (members, .closed, rest)) :
    ∃ body, skipBlanks between = .char ':' :: body := by
  rw [readMembers, hkey] at h
  rcases hbetween : skipBlanks between with _ | ⟨char, body⟩
  · simp [hbetween, skipBlanks_nil] at h
  · by_cases hcolon : char = .char ':'
    · exact ⟨body, by rw [hcolon]⟩
    · simp [hbetween, hcolon, skipBlanks_nil] at h

private theorem findsMembers_succ {fuel : Nat} (hvalues : FindsValues fuel)
    (hmembers : FindsMembers fuel) : FindsMembers (fuel + 1) := by
  intro letters rest members h hskip
  rcases hreadKey : readValue fuel letters with ⟨key, between⟩
  obtain ⟨body, hcolon⟩ := exists_colon_of_readMembers hreadKey h
  rcases hreadValue : readValue fuel body with ⟨value, after⟩
  rw [readMembers, hreadKey] at h
  simp only [hcolon, hreadValue] at h
  have hmember (hskipKey : Document.skipKey key = .ok ()) (hskipValue : value.skip = .ok ())
      {tail : List Letter} (htail : skipBlanks after = tail) :
      ∃ inner, letters = inner ++ tail ∧ SpellsMember inner (key, value) := by
    obtain ⟨units, rfl⟩ := skipKey_eq_ok_iff.mp hskipKey
    obtain ⟨innerKey, rfl, hinnerKey⟩ := (hvalues hreadKey hskipKey).padded hcolon
    obtain ⟨innerValue, rfl, hinnerValue⟩ := (hvalues hreadValue hskipValue).padded htail
    exact ⟨innerKey ++ .char ':' :: innerValue, by simp, .mk hinnerKey hinnerValue⟩
  split at h
  next tail hcomma =>
    rcases hothers : readMembers fuel tail with ⟨others, ending, last⟩
    rw [hothers] at h
    cases h
    obtain ⟨⟨⟩, hskipKey, hskip⟩ := bind_eq_ok_iff.mp hskip
    obtain ⟨⟨⟩, hskipValue, hskipOthers⟩ := bind_eq_ok_iff.mp hskip
    obtain ⟨inner, rfl, hinner⟩ := hmember hskipKey hskipValue hcomma
    obtain ⟨innerOthers, rfl, hspells⟩ := hmembers hothers hskipOthers
    exact ⟨inner ++ .char ',' :: innerOthers, by simp, .more hinner hspells⟩
  next tail hclose =>
    cases h
    obtain ⟨⟨⟩, hskipKey, hskip⟩ := bind_eq_ok_iff.mp hskip
    obtain ⟨⟨⟩, hskipValue, -⟩ := bind_eq_ok_iff.mp hskip
    obtain ⟨inner, rfl, hinner⟩ := hmember hskipKey hskipValue hclose
    exact ⟨inner, rfl, .one hinner⟩
  next => cases h
  next => cases h

theorem finds (fuel : Nat) : FindsValues fuel ∧ FindsItems fuel ∧ FindsMembers fuel := by
  induction fuel with
  | zero =>
      refine ⟨fun h hskip => ?_, fun h _ => ?_, fun h _ => ?_⟩
      · cases h
        cases hskip
      · cases h
      · cases h
  | succ fuel ih =>
      obtain ⟨hvalues, hitems, hmembers⟩ := ih
      exact ⟨findsValues_succ hitems hmembers, findsItems_succ hvalues hitems,
        findsMembers_succ hvalues hmembers⟩

/-! ## Whole texts -/

namespace Document

variable {document : Document}

/-- What spells a document that no number ends is read as the document, whatever follows. -/
theorem readLetters_append {blanks letters rest : List Letter} (hblanks : Blank blanks)
    (h : Spells letters document) (hrest : Ends document rest) :
    readLetters (blanks ++ letters ++ rest) = (document, rest) := by
  rw [readLetters, List.append_assoc]
  simp only [readValue_skipBlanks hblanks, List.length_append]
  exact (reads _).1 h (by omega) hrest

theorem readLetters_of_padded {letters : List Letter} (h : SpellsPadded letters document) :
    ∃ blanks, readLetters letters = (document, blanks) ∧ Blank blanks := by
  cases h with
  | @mk before letters after _ hbefore hletters hafter =>
      have hstops : Stops after := by
        simpa using hafter.stops stops_nil
      exact ⟨after, readLetters_append hbefore hletters hstops.ends, hafter⟩

theorem read_of_spelledBy {text : String} (h : document.SpelledBy text) :
    ∃ blanks, read text = (document, blanks) ∧ Blank blanks :=
  readLetters_of_padded h

theorem readBytes_ofText (text : String) : readBytes text = read text := by
  rw [readBytes, Text.letters_ofText, read]

/-! ## Structured fronts -/

/-- An array or object at the front is read, whatever follows. -/
theorem readLetters_append_of_structured {front : List Letter} (h : SpellsPadded front document)
    (hstructured : document.IsStructured) (rest : List Letter) :
    (readLetters (front ++ rest)).1 = document := by
  have hends (rest : List Letter) : Ends document rest := by
    rintro numeral rfl
    exact hstructured.elim
  cases h with
  | @mk before letters after _ hbefore hletters _ =>
      rw [List.append_assoc (before ++ letters), readLetters_append hbefore hletters (hends _)]

private theorem exists_last_of_structured {letters : List Letter}
    (h : SpellsPadded letters document) (hstructured : document.IsStructured) :
    ∃ last : Char, letters.getLast? = some (.char last) ∧ last.toNat < 128 := by
  have hinner {letters : List Letter} (h : Spells letters document) :
      ∃ last : Char, letters.getLast? = some (.char last) ∧ last.toNat < 128 := by
    cases h with
    | emptyArray | array => exact ⟨']', List.getLast?_concat, by decide⟩
    | emptyObject | object => exact ⟨'}', List.getLast?_concat, by decide⟩
    | null | yes | no | positive | negative | string => exact hstructured.elim
  cases h with
  | @mk before letters after _ _ hletters hafter =>
      rw [List.getLast?_append]
      cases hlast : after.getLast? with
      | none =>
          obtain ⟨last, hlast, hlt⟩ := hinner hletters
          exact ⟨last, by simp [List.getLast?_append, hlast], hlt⟩
      | some letter =>
          have hblank := hafter letter (List.mem_of_getLast? hlast)
          simp only [isBlank, Bool.or_eq_true, decide_eq_true_eq] at hblank
          rcases hblank with ((rfl | rfl) | rfl) | rfl <;> exact ⟨_, rfl, by decide⟩

theorem readBytes_append_of_structured {front : Bytes} (h : document.SpelledByBytes front)
    (hstructured : document.IsStructured) (rest : Bytes) :
    (readBytes (front ++ rest)).1 = document := by
  obtain ⟨last, hlast, hlt⟩ := exists_last_of_structured h hstructured
  have hletters : (front ++ rest).letters = front.letters ++ rest.letters :=
    Text.decode_append (Text.lt_of_getLast?_decode hlt hlast) rest.list
  rw [readBytes, hletters]
  exact readLetters_append_of_structured h hstructured rest.letters

/-- A document without a fault is spelled by the bytes that it has been read from. -/
theorem exists_front_of_readBytes {bytes : Bytes} (hskip : (readBytes bytes).1.skip = .ok ()) :
    ∃ front rest : Bytes, bytes = front ++ rest ∧
      (readBytes bytes).1.SpelledByBytes front := by
  obtain ⟨blanks, inner, hletters, hblanks, hinner⟩ := (finds _).1 rfl hskip
  obtain ⟨front, rest, hbytes, hfront⟩ := Text.exists_bytes_of_decode hletters
  refine ⟨⟨front⟩, ⟨rest⟩, congrArg Bytes.mk hbytes, ?_⟩
  rw [SpelledByBytes, Bytes.letters, hfront, ← List.append_nil (blanks ++ inner)]
  exact .mk hblanks hinner blank_nil

end Document

/-! ## Spelled values have no fault -/

mutual

theorem Spells.skip {letters : List Letter} {document : Document} :
    Spells letters document → document.skip = .ok ()
  | .null | .yes | .no | .positive _ _ | .negative _ _ | .string _ | .emptyArray _
  | .emptyObject _ => rfl
  | .array h => bind_eq_ok_iff.mpr ⟨(), h.skip, rfl⟩
  | .object h => bind_eq_ok_iff.mpr ⟨(), h.skip, rfl⟩

theorem SpellsPadded.skip {letters : List Letter} {document : Document} :
    SpellsPadded letters document → document.skip = .ok ()
  | .mk _ h _ => h.skip

theorem SpellsItems.skip {letters : List Letter} {items : List Document} :
    SpellsItems letters items → Document.skipItems items = .ok ()
  | .one h => bind_eq_ok_iff.mpr ⟨(), h.skip, rfl⟩
  | .more h hrest => bind_eq_ok_iff.mpr ⟨(), h.skip, hrest.skip⟩

theorem SpellsMember.skip {letters : List Letter} {member : Document × Document} :
    SpellsMember letters member → Document.skipKey member.1 = .ok () ∧ member.2.skip = .ok ()
  | .mk _ h => ⟨rfl, h.skip⟩

theorem SpellsMembers.skip {letters : List Letter} {members : List (Document × Document)} :
    SpellsMembers letters members → Document.skipMembers members = .ok ()
  | .one h => bind_eq_ok_iff.mpr ⟨(), h.skip.1, bind_eq_ok_iff.mpr ⟨(), h.skip.2, rfl⟩⟩
  | .more h hrest =>
      bind_eq_ok_iff.mpr ⟨(), h.skip.1, bind_eq_ok_iff.mpr ⟨(), h.skip.2, hrest.skip⟩⟩

end

end LearnerPersona.Json
