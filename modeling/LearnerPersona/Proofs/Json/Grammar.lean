import LearnerPersona.Json.Document

/-!
# The grammar of JSON

Which letters spell which document.  The grammar knows nothing of how a text is read and
asks for no more than form: a number may be of any size, and half of a surrogate pair may
stand alone.
-/

namespace LearnerPersona.Json

open LearnerPersona.Text (Bytes Letter)

/-! ## Blanks and digits -/

def Blank (letters : List Letter) : Prop := ∀ letter ∈ letters, isBlank letter

def Digits (chars : List Char) : Prop := chars ≠ [] ∧ ∀ char ∈ chars, char.isDigit

/-! ## Texts -/

/-- What stands between quotes for one unit of a text. -/
inductive SpellsUnit : List Letter → TextUnit → Prop
  | plain {char : Char} (hcontrol : 0x20 ≤ char.toNat) (hquote : char ≠ '"')
      (hescape : char ≠ '\\') : SpellsUnit [.char char] (.char char)
  | stray (byte : UInt8) : SpellsUnit [.stray byte] (.stray byte)
  | short {letter char : Char} (h : shortEscape? letter = some char) :
      SpellsUnit [.char '\\', .char letter] (.char char)
  | hex {a b c d : Char} {unit : Nat} (h : Text.hexNumber? [a, b, c, d] = some unit) :
      SpellsUnit [.char '\\', .char 'u', .char a, .char b, .char c, .char d] (.ofNat unit)

inductive SpellsUnits : List Letter → List TextUnit → Prop
  | nil : SpellsUnits [] []
  | cons {letters rest : List Letter} {unit : TextUnit} {units : List TextUnit}
      (hunit : SpellsUnit letters unit) (hrest : SpellsUnits rest units) :
      SpellsUnits (letters ++ rest) (unit :: units)

/-! ## Numbers -/

/-- A zero, or digits that begin with another digit. -/
def SpellsWhole (digits : List Char) : Prop :=
  Digits digits ∧ (digits.head? = some '0' → digits = ['0'])

inductive SpellsFraction : List Char → List Char → Prop
  | absent : SpellsFraction [] []
  | present {digits : List Char} (h : Digits digits) : SpellsFraction ('.' :: digits) digits

inductive SpellsSign : List Char → Bool → Prop
  | absent : SpellsSign [] false
  | plus : SpellsSign ['+'] false
  | minus : SpellsSign ['-'] true

inductive SpellsExponent : List Char → Option (Bool × List Char) → Prop
  | absent : SpellsExponent [] none
  | present {mark : Char} {sign digits : List Char} {negative : Bool}
      (hmark : mark = 'e' ∨ mark = 'E') (hsign : SpellsSign sign negative) (h : Digits digits) :
      SpellsExponent (mark :: sign ++ digits) (some (negative, digits))

inductive SpellsNumeral : List Char → Numeral → Prop
  | mk {negative : Bool} {whole fraction fractionChars exponentChars : List Char}
      {exponent? : Option (Bool × List Char)} (hwhole : SpellsWhole whole)
      (hfraction : SpellsFraction fractionChars fraction)
      (hexponent : SpellsExponent exponentChars exponent?) :
      SpellsNumeral (whole ++ fractionChars ++ exponentChars)
        ⟨negative, whole, fraction, exponent?⟩

/-! ## Values -/

mutual

/-- The letters of a value, from its first to its last. -/
inductive Spells : List Letter → Document → Prop
  | null : Spells (['n', 'u', 'l', 'l'].map .char) .null
  | yes : Spells (['t', 'r', 'u', 'e'].map .char) (.boolean true)
  | no : Spells (['f', 'a', 'l', 's', 'e'].map .char) (.boolean false)
  | positive {chars : List Char} {numeral : Numeral} (h : SpellsNumeral chars numeral)
      (hsign : numeral.negative = false) : Spells (chars.map .char) (.number numeral)
  | negative {chars : List Char} {numeral : Numeral} (h : SpellsNumeral chars numeral)
      (hsign : numeral.negative = true) :
      Spells (.char '-' :: chars.map .char) (.number numeral)
  | string {letters : List Letter} {units : List TextUnit} (h : SpellsUnits letters units) :
      Spells (.char '"' :: letters ++ [.char '"']) (.string units .closed)
  | emptyArray {blanks : List Letter} (h : Blank blanks) :
      Spells (.char '[' :: blanks ++ [.char ']']) (.array [] .closed)
  | array {letters : List Letter} {items : List Document} (h : SpellsItems letters items) :
      Spells (.char '[' :: letters ++ [.char ']']) (.array items .closed)
  | emptyObject {blanks : List Letter} (h : Blank blanks) :
      Spells (.char '{' :: blanks ++ [.char '}']) (.object [] .closed)
  | object {letters : List Letter} {members : List (Document × Document)}
      (h : SpellsMembers letters members) :
      Spells (.char '{' :: letters ++ [.char '}']) (.object members .closed)

/-- A value with blanks around it. -/
inductive SpellsPadded : List Letter → Document → Prop
  | mk {before letters after : List Letter} {document : Document} (hbefore : Blank before)
      (h : Spells letters document) (hafter : Blank after) :
      SpellsPadded (before ++ letters ++ after) document

inductive SpellsItems : List Letter → List Document → Prop
  | one {letters : List Letter} {item : Document} (h : SpellsPadded letters item) :
      SpellsItems letters [item]
  | more {letters rest : List Letter} {item : Document} {items : List Document}
      (h : SpellsPadded letters item) (hrest : SpellsItems rest items) :
      SpellsItems (letters ++ .char ',' :: rest) (item :: items)

inductive SpellsMember : List Letter → Document × Document → Prop
  | mk {key letters : List Letter} {units : List TextUnit} {value : Document}
      (hkey : SpellsPadded key (.string units .closed)) (h : SpellsPadded letters value) :
      SpellsMember (key ++ .char ':' :: letters) (.string units .closed, value)

inductive SpellsMembers : List Letter → List (Document × Document) → Prop
  | one {letters : List Letter} {member : Document × Document} (h : SpellsMember letters member) :
      SpellsMembers letters [member]
  | more {letters rest : List Letter} {member : Document × Document}
      {members : List (Document × Document)} (h : SpellsMember letters member)
      (hrest : SpellsMembers rest members) :
      SpellsMembers (letters ++ .char ',' :: rest) (member :: members)

end

/-! ## Whole texts -/

/-- The text is the document and nothing else, save for blanks around it. -/
def Document.SpelledBy (document : Document) (text : String) : Prop :=
  SpellsPadded (text.toList.map .char) document

def Document.SpelledByBytes (document : Document) (bytes : Bytes) : Prop :=
  SpellsPadded bytes.letters document

/-- The bytes are one whole value, with blanks around it perhaps.  In the texts of the value
any bytes may stand. -/
def IsWellFormed (bytes : Bytes) : Prop := ∃ document : Document, document.SpelledByBytes bytes

def Document.IsStructured : Document → Prop
  | .array _ _ | .object _ _ => True
  | .null | .boolean _ | .number _ | .string _ _ | .broken _ _ | .missing => False

/-- The bytes are one whole array or object, with blanks around it perhaps. -/
def IsStructured (bytes : Bytes) : Prop :=
  ∃ document : Document, document.SpelledByBytes bytes ∧ document.IsStructured

end LearnerPersona.Json
