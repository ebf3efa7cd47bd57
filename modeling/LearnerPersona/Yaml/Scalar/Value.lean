import LearnerPersona.Number.Binary64
import LearnerPersona.Text.Hexadecimal

/-!
# Values of plain scalars

A plain scalar may be read as null, a truth value or a number.  Numbers are
written in four bases.  Digits after a leading zero are a text, as in a telephone
number, and so is a decimal that exceeds the range of its format.
-/

namespace LearnerPersona.Yaml

open LearnerPersona.Number (Binary64 Floating)

inductive Value where
  | null
  | boolean (value : Bool)
  | integer (value : Int)
  | floating (value : Floating)
  | text (content : String)
  deriving DecidableEq, Repr

namespace Value

/-! ## Words -/

def isNull (text : String) : Bool :=
  ["null", "Null", "NULL", "~"].contains text

def boolean? (text : String) : Option Bool :=
  if ["true", "True", "TRUE"].contains text then some true
  else if ["false", "False", "FALSE"].contains text then some false
  else none

/-! ## Integers -/

def digit? (base : Nat) (char : Char) : Option Nat :=
  (Text.hexValue? char).filter (· < base)

def number? (base : Nat) : List Char → Option Nat
  | [] => none
  | digits => digits.foldlM (fun number char => (number * base + ·) <$> digit? base char) 0

def marked? : List Char → Option Nat
  | '0' :: 'x' :: digits => number? 16 digits
  | '0' :: 'o' :: digits => number? 8 digits
  | '0' :: 'b' :: digits => number? 2 digits
  | _ => none

def isZeroLed : List Char → Bool
  | '0' :: digit :: digits => (digit :: digits).all Char.isDigit
  | _ => false

def unsigned? (chars : List Char) : Option Nat :=
  (marked? chars).orElse fun _ => if isZeroLed chars then none else number? 10 chars

def natural? (text : String) : Option Nat :=
  match text.toList with
  | '+' :: chars => unsigned? chars
  | chars => unsigned? chars

/-- An integer within 128 bits. -/
def integer? (text : String) : Option Int :=
  match text.toList with
  | '-' :: chars =>
      (unsigned? chars).bind fun number =>
        if number ≤ Nat.pow 2 127 then some (-number) else none
  | _ =>
      (natural? text).bind fun number =>
        if number < Nat.pow 2 128 then some (number : Int) else none

/-! ## Decimals -/

/-- Digits, and an exponent of ten, of a decimal without a sign.  A point needs a
digit on one side. -/
def decimal? (chars : List Char) : Option (Nat × Int) := do
  let whole := chars.takeWhile Char.isDigit
  let rest := chars.drop whole.length
  let (fraction, rest) :=
    match rest with
    | '.' :: rest => (rest.takeWhile Char.isDigit, rest.dropWhile Char.isDigit)
    | _ => ([], rest)
  let digits ← number? 10 (whole ++ fraction)
  let exponent : Int ←
    match rest with
    | [] => some 0
    | mark :: rest =>
        if mark = 'e' || mark = 'E' then
          match rest with
          | '-' :: power => (number? 10 power).map fun power => -power
          | '+' :: power => (number? 10 power).map fun power => power
          | power => (number? 10 power).map fun power => power
        else none
  return (digits, exponent - fraction.length)

def finite? (negative : Bool) (chars : List Char) : Option Floating := do
  let (digits, exponent) ← decimal? chars
  let magnitude ← Binary64.ofDecimal? digits exponent
  return .finite negative magnitude

def isInfinity (chars : List Char) : Bool :=
  [".inf", ".Inf", ".INF"].contains (String.ofList chars)

def floating? (text : String) : Option Floating :=
  if [".nan", ".NaN", ".NAN"].contains text then some .undefined
  else
    match text.toList with
    | '-' :: chars => if isInfinity chars then some (.infinite true) else finite? true chars
    | '+' :: chars => if isInfinity chars then some (.infinite false) else finite? false chars
    | chars => if isInfinity chars then some (.infinite false) else finite? false chars

/-! ## All kinds -/

/-- A text of digits that a leading zero keeps from being a number. -/
def isZeroLedText (text : String) : Bool :=
  match text.toList with
  | '-' :: chars => isZeroLed chars
  | '+' :: chars => isZeroLed chars
  | chars => isZeroLed chars

def ofText (text : String) : Value :=
  if text.isEmpty || isNull text then .null
  else
    match boolean? text, integer? text with
    | some value, _ => .boolean value
    | none, some value => .integer value
    | none, none =>
        match if isZeroLedText text then none else floating? text with
        | some value => .floating value
        | none => .text text

end Value

end LearnerPersona.Yaml
