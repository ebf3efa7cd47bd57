import LearnerPersona.Json.Document
import LearnerPersona.Number.Decimal

/-!
# The value of a number

An integer that fits 64 bits keeps its value.  Every other number is read as a
binary64 number: as many digits as fit 64 bits, times or over a power of ten,
each step rounded.  A number beyond the range of binary64 is refused.
-/

namespace LearnerPersona.Json

inductive Number where
  | integer (value : Int)
  | floating (negative : Bool) (magnitude : Number.Binary64)
  deriving DecidableEq, Repr

namespace Numeral

open LearnerPersona.Number (Binary64)

/-! ## Digits that fit a word -/

def greatestWord : Nat := Nat.pow 2 64 - 1

def greatestExponent : Nat := Nat.pow 2 31 - 1

/-- Appends digits to a number as long as it stays within the bound; returns the
digits left over. -/
def accumulate (bound : Nat) : Nat → List Char → Nat × List Char
  | total, [] => (total, [])
  | total, digit :: digits =>
      let next := total * 10 + (digit.toNat - '0'.toNat)
      if bound < next then (total, digit :: digits) else accumulate bound next digits

/-! ## Scaling -/

def powerOfTen (power : Nat) : Binary64 :=
  (Binary64.ofNat? (Nat.pow 10 power)).getD .zero

/-- `magnitude * 10 ^ exponent`, in steps of at most 308 powers.  Three steps
take every magnitude to zero, so the fuel is not used up. -/
def scale : Nat → Binary64 → Int → Except Flaw Binary64
  | 0, magnitude, _ => .ok magnitude
  | fuel + 1, magnitude, exponent =>
      if exponent.natAbs ≤ 308 then
        let power := powerOfTen exponent.natAbs
        let scaled? := if 0 ≤ exponent then magnitude.mul? power else magnitude.div? power
        scaled?.elim (.error .malformed) .ok
      else if magnitude.significand = 0 then .ok magnitude
      else if 0 ≤ exponent then .error .malformed
      else scale fuel ((magnitude.div? (powerOfTen 308)).getD .zero) (exponent + 308)

def floating (negative : Bool) (significand : Nat) (exponent : Int) : Except Flaw Number := do
  let magnitude ← scale 8 ((Binary64.ofNat? significand).getD .zero) exponent
  return .floating negative magnitude

/-! ## Reading -/

def significand (numeral : Numeral) : Nat × Int :=
  let (total, left) := accumulate greatestWord 0 numeral.whole
  let (total, dropped) := accumulate greatestWord total numeral.fraction
  (total, left.length - (numeral.fraction.length - dropped.length : Nat))

def integer? (numeral : Numeral) : Option Int :=
  match accumulate greatestWord 0 numeral.whole with
  | (magnitude, []) =>
      if !numeral.negative then some magnitude
      else if magnitude = 0 ∨ Nat.pow 2 63 < magnitude then none
      else some (-magnitude)
  | _ => none

/-- The value; a number out of range is malformed. -/
def value (numeral : Numeral) : Except Flaw Number :=
  let (magnitude, exponent) := numeral.significand
  match numeral.fraction, numeral.exponent? with
  | [], none =>
      match numeral.integer? with
      | some value => .ok (.integer value)
      | none => floating numeral.negative magnitude exponent
  | _, none => floating numeral.negative magnitude exponent
  | _, some (down, digits) =>
      match accumulate greatestExponent 0 digits with
      | (power, []) =>
          floating numeral.negative magnitude (if down then exponent - power else exponent + power)
      | _ =>
          if magnitude ≠ 0 && !down then .error .malformed
          else .ok (.floating numeral.negative .zero)

end Numeral

end LearnerPersona.Json
