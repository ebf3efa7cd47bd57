/-!
# Binary64 numbers

Finite numbers of the 64-bit binary format, as exact pairs of a significand and
a power of two, and the rounding that leads to them.  All arithmetic is on
natural numbers: a quotient is rounded to the nearest representable value, a tie
to the even significand.
-/

namespace LearnerPersona.Number

/-! ## Representation -/

/-- The magnitude `significand * 2 ^ exponent`.  Rounding yields the canonical
pair: below `2 ^ 53`, and at least `2 ^ 52` unless the exponent is least. -/
structure Binary64 where
  significand : Nat
  exponent : Int
  deriving DecidableEq, Repr

inductive Floating where
  | finite (negative : Bool) (magnitude : Binary64)
  | infinite (negative : Bool)
  | undefined
  deriving DecidableEq, Repr

namespace Binary64

def leastExponent : Int := -1074

def greatestExponent : Int := 971

def zero : Binary64 := ⟨0, leastExponent⟩

def ratio (value : Binary64) : Nat × Nat :=
  (value.significand * Nat.pow 2 value.exponent.toNat, Nat.pow 2 (-value.exponent).toNat)

/-! ## Rounding -/

/-- The quotient rounded to the nearest number, a tie to the even one. -/
def roundedQuotient (numerator denominator : Nat) : Nat :=
  let quotient := numerator / denominator
  let twice := 2 * (numerator % denominator)
  if twice < denominator then quotient
  else if denominator < twice then quotient + 1
  else quotient + quotient % 2

def scaled (numerator denominator : Nat) (exponent : Int) : Nat × Nat :=
  (numerator * Nat.pow 2 (-exponent).toNat, denominator * Nat.pow 2 exponent.toNat)

def fittingExponent (numerator denominator : Nat) : Int :=
  let estimate : Int := (numerator.log2 : Int) - denominator.log2 - 53
  let (top, bottom) := scaled numerator denominator estimate
  max leastExponent (if top / bottom < Nat.pow 2 53 then estimate else estimate + 1)

def ofRatio? (numerator denominator : Nat) : Option Binary64 :=
  if numerator = 0 then some zero
  else
    let exponent := fittingExponent numerator denominator
    let (top, bottom) := scaled numerator denominator exponent
    let significand := roundedQuotient top bottom
    let value : Binary64 :=
      if significand = Nat.pow 2 53 then ⟨Nat.pow 2 52, exponent + 1⟩ else ⟨significand, exponent⟩
    if value.exponent ≤ greatestExponent then some value else none

def ofNat? (number : Nat) : Option Binary64 := ofRatio? number 1

def mul? (left right : Binary64) : Option Binary64 :=
  let (leftTop, leftBottom) := left.ratio
  let (rightTop, rightBottom) := right.ratio
  ofRatio? (leftTop * rightTop) (leftBottom * rightBottom)

def div? (left right : Binary64) : Option Binary64 :=
  let (leftTop, leftBottom) := left.ratio
  let (rightTop, rightBottom) := right.ratio
  ofRatio? (leftTop * rightBottom) (leftBottom * rightTop)

/-- The nearest value of `digits * 10 ^ exponent`.  Exponents far outside the
range decide the answer without being computed. -/
def ofDecimal? (digits : Nat) (exponent : Int) : Option Binary64 :=
  let places : Int := (Nat.toDigits 10 digits).length + exponent
  if digits = 0 then some zero
  else if places < -330 then some zero
  else if 330 < places then none
  else ofRatio? (digits * Nat.pow 10 exponent.toNat) (Nat.pow 10 (-exponent).toNat)

end Binary64

end LearnerPersona.Number
