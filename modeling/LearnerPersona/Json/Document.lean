import LearnerPersona.Number.Binary64
import LearnerPersona.Text.Bytes
import LearnerPersona.Text.Hexadecimal

/-!
# Documents read from JSON text

A `Document` is what one left-to-right pass finds in a text, up to the point
where the text goes wrong.  Whether a fault matters depends on who looks: a text
or number that is skipped has to be grammatical only, one that is read must also
denote a value.  So the document keeps faults where they occur and leaves it to
the reader to meet them in order.
-/

namespace LearnerPersona.Json

open LearnerPersona.Text (Bytes Letter)

/-! ## Shape of a document -/

/-- Why a text is no JSON: it stops too early, or it goes wrong before its end. -/
inductive Flaw where
  | truncated
  | malformed
  deriving DecidableEq, Repr

inductive Ending where
  | closed
  | broken (flaw : Flaw)
  deriving DecidableEq, Repr

/-- What a broken value looked like at its first character. -/
inductive Start where
  | null | number | other
  deriving DecidableEq, Repr

/-- A number as written: the digits of its parts, and a signed exponent. -/
structure Numeral where
  negative : Bool
  whole : List Char
  fraction : List Char
  exponent? : Option (Bool × List Char)
  deriving DecidableEq, Repr

/-- A unit of a text: a character, half of a character outside the basic plane, or a byte
that is no character. -/
inductive TextUnit where
  | char (char : Char)
  | stray (byte : UInt8)
  | high (surrogate : Nat)
  | low (surrogate : Nat)
  deriving DecidableEq, Repr

inductive Document where
  | null
  | boolean (value : Bool)
  | number (numeral : Numeral)
  | string (units : List TextUnit) (ending : Ending)
  | array (items : List Document) (ending : Ending)
  /-- Keys are documents too: a text may have anything in place of a key. -/
  | object (members : List (Document × Document)) (ending : Ending)
  | broken (start : Start) (flaw : Flaw)
  | missing
  deriving Repr

/-- A part of the text that has been read, and the rest; nothing is left after a flaw. -/
abbrev Reading (α : Type) := α × List Letter

def isBlank (letter : Letter) : Bool :=
  letter = .char ' ' || letter = .char '\n' || letter = .char '\t' || letter = .char '\r'

def skipBlanks (letters : List Letter) : List Letter := letters.dropWhile isBlank

/-! ## Texts -/

def TextUnit.ofNat (unit : Nat) : TextUnit :=
  if 0xD800 ≤ unit ∧ unit < 0xDC00 then .high unit
  else if 0xDC00 ≤ unit ∧ unit < 0xE000 then .low unit
  else .char (Char.ofNat unit)

def surrogatePair (high low : Nat) : Char :=
  Char.ofNat ((high - 0xD800) * 0x400 + (low - 0xDC00) + 0x10000)

/-- The characters of a text that is read, not just skipped.  Surrogates have to
come in pairs; one whose partner is cut off is no fault of its own.  Stray bytes are
looked for last. -/
def joinUnits : List TextUnit → Ending → Except Flaw (List Char)
  | [], .closed => .ok []
  | [], .broken flaw => .error flaw
  | .char char :: units, ending => (char :: ·) <$> joinUnits units ending
  | .stray _ :: units, ending => do
      let _ ← joinUnits units ending
      throw .malformed
  | .high high :: .low low :: units, ending =>
      (surrogatePair high low :: ·) <$> joinUnits units ending
  | [.high _], .broken .truncated => .error .truncated
  | .high _ :: _, _ => .error .malformed
  | .low _ :: _, _ => .error .malformed

def shortEscape? : Char → Option Char
  | '"' => some '"'
  | '\\' => some '\\'
  | '/' => some '/'
  | 'b' => some '\x08'
  | 'f' => some '\x0c'
  | 'n' => some '\n'
  | 'r' => some '\r'
  | 't' => some '\t'
  | _ => none

/-- The flaw of a hexadecimal escape that has no four digits: the text is
truncated if fewer than four bytes are left. -/
def shortHexFlaw (letters : List Letter) : Flaw :=
  if (letters.take 4).foldl (fun size letter => size + letter.size) 0 < 4 then .truncated
  else .malformed

structure TextReading where
  units : List TextUnit
  ending : Ending
  rest : List Letter
  deriving DecidableEq, Repr

namespace TextReading

def stop (flaw : Flaw) : TextReading := ⟨[], .broken flaw, []⟩

def push (unit : TextUnit) (reading : TextReading) : TextReading :=
  { reading with units := unit :: reading.units }

end TextReading

/-- Reads a text after its opening quote. -/
def readText : List Letter → TextReading
  | [] => .stop .truncated
  | .char '"' :: rest => ⟨[], .closed, rest⟩
  | .char '\\' :: .char 'u' :: .char a :: .char b :: .char c :: .char d :: rest =>
      match Text.hexNumber? [a, b, c, d] with
      | none => .stop .malformed
      | some unit => (readText rest).push (.ofNat unit)
  | .char '\\' :: .char 'u' :: short => .stop (shortHexFlaw short)
  | [.char '\\'] => .stop .truncated
  | .char '\\' :: .char letter :: rest =>
      match shortEscape? letter with
      | none => .stop .malformed
      | some char => (readText rest).push (.char char)
  | .char '\\' :: .stray _ :: _ => .stop .malformed
  | .char char :: rest =>
      if char.toNat < 0x20 then .stop .malformed else (readText rest).push (.char char)
  | .stray byte :: rest => (readText rest).push (.stray byte)

/-! ## Numbers and words -/

def readDigits : List Letter → Reading (List Char)
  | .char char :: rest =>
      if char.isDigit then
        let (digits, rest) := readDigits rest
        (char :: digits, rest)
      else ([], .char char :: rest)
  | letters => ([], letters)

def noDigitFlaw (letters : List Letter) : Flaw :=
  if letters.isEmpty then .truncated else .malformed

def readWhole (letters : List Letter) : Except Flaw (Reading (List Char)) :=
  match readDigits letters with
  | ([], rest) => .error (noDigitFlaw rest)
  | ('0' :: _ :: _, _) => .error .malformed
  | whole => .ok whole

def readFraction (letters : List Letter) : Except Flaw (Reading (List Char)) :=
  match letters with
  | .char '.' :: rest =>
      match readDigits rest with
      | ([], rest) => .error (noDigitFlaw rest)
      | fraction => .ok fraction
  | _ => .ok ([], letters)

def readExponent (letters : List Letter) : Except Flaw (Reading (Option (Bool × List Char))) :=
  let signed (rest : List Letter) : Reading Bool :=
    match rest with
    | .char '-' :: rest => (true, rest)
    | .char '+' :: rest => (false, rest)
    | _ => (false, rest)
  let read (rest : List Letter) : Except Flaw (Reading (Option (Bool × List Char))) :=
    let (negative, rest) := signed rest
    match readDigits rest with
    | ([], rest) => .error (noDigitFlaw rest)
    | (digits, rest) => .ok (some (negative, digits), rest)
  match letters with
  | .char 'e' :: rest => read rest
  | .char 'E' :: rest => read rest
  | _ => .ok (none, letters)

def readNumeral (negative : Bool) (letters : List Letter) : Except Flaw (Reading Numeral) := do
  let (whole, letters) ← readWhole letters
  let (fraction, letters) ← readFraction letters
  let (exponent?, letters) ← readExponent letters
  return (⟨negative, whole, fraction, exponent?⟩, letters)

def readNumber (negative : Bool) (letters : List Letter) : Reading Document :=
  match readNumeral negative letters with
  | .ok (numeral, rest) => (.number numeral, rest)
  | .error flaw => (.broken .number flaw, [])

def readWord (start : Start) (value : Document) : List Char → List Letter → Reading Document
  | [], letters => (value, letters)
  | _ :: _, [] => (.broken start .truncated, [])
  | expected :: word, letter :: letters =>
      if letter = .char expected then readWord start value word letters
      else (.broken start .malformed, [])

/-! ## Values -/

mutual

/-- Reads one value.  `fuel` bounds the number of steps; twice the length of the
text, and two more, is always enough. -/
def readValue : Nat → List Letter → Reading Document
  | 0, _ => (.missing, [])
  | fuel + 1, letters =>
      match skipBlanks letters with
      | [] => (.missing, [])
      | .char 'n' :: rest => readWord .null .null ['u', 'l', 'l'] rest
      | .char 't' :: rest => readWord .other (.boolean true) ['r', 'u', 'e'] rest
      | .char 'f' :: rest => readWord .other (.boolean false) ['a', 'l', 's', 'e'] rest
      | .char '"' :: rest =>
          let text := readText rest
          (.string text.units text.ending, text.rest)
      | .char '-' :: rest => readNumber true rest
      | .char '[' :: rest =>
          match skipBlanks rest with
          | [] => (.array [] (.broken .truncated), [])
          | .char ']' :: rest => (.array [] .closed, rest)
          | _ =>
              let (items, ending, rest) := readItems fuel rest
              (.array items ending, rest)
      | .char '{' :: rest =>
          match skipBlanks rest with
          | [] => (.object [] (.broken .truncated), [])
          | .char '}' :: rest => (.object [] .closed, rest)
          | _ =>
              let (members, ending, rest) := readMembers fuel rest
              (.object members ending, rest)
      | .char char :: rest =>
          if char.isDigit then readNumber false (.char char :: rest)
          else (.broken .other .malformed, [])
      | .stray _ :: _ => (.broken .other .malformed, [])

def readItems : Nat → List Letter → List Document × Ending × List Letter
  | 0, _ => ([], .broken .truncated, [])
  | fuel + 1, letters =>
      let (item, rest) := readValue fuel letters
      match skipBlanks rest with
      | .char ',' :: rest =>
          let (items, ending, rest) := readItems fuel rest
          (item :: items, ending, rest)
      | .char ']' :: rest => ([item], .closed, rest)
      | [] => ([item], .broken .truncated, [])
      | _ => ([item], .broken .malformed, [])

def readMembers : Nat → List Letter → List (Document × Document) × Ending × List Letter
  | 0, _ => ([], .broken .truncated, [])
  | fuel + 1, letters =>
      let (key, rest) := readValue fuel letters
      let (value, rest) : Reading Document :=
        match skipBlanks rest with
        | .char ':' :: rest => readValue fuel rest
        | [] => (.missing, [])
        | _ => (.broken .other .malformed, [])
      match skipBlanks rest with
      | .char ',' :: rest =>
          let (members, ending, rest) := readMembers fuel rest
          ((key, value) :: members, ending, rest)
      | .char '}' :: rest => ([(key, value)], .closed, rest)
      | [] => ([(key, value)], .broken .truncated, [])
      | _ => ([(key, value)], .broken .malformed, [])

end

def Document.readLetters (letters : List Letter) : Reading Document :=
  readValue (2 * letters.length + 2) letters

def Document.read (text : String) : Reading Document :=
  readLetters (text.toList.map .char)

def Document.readBytes (bytes : Bytes) : Reading Document := readLetters bytes.letters

end LearnerPersona.Json
