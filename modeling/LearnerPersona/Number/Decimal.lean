import LearnerPersona.Number.Binary64

/-!
# Shortest decimals

A binary64 number is written with the fewest decimal digits that no other such
number is nearer to, the closest of those.  Which of two equally close ones it is,
and whether it is laid out with a point or with an exponent, is the business of the
format that prints it.
-/

namespace LearnerPersona.Number

structure Decimal where
  digits : Nat
  exponent : Int
  deriving DecidableEq, Repr

def Decimal.reduced : Nat → Decimal → Decimal
  | 0, decimal => decimal
  | fuel + 1, decimal =>
      if decimal.digits % 10 = 0 ∧ decimal.digits ≠ 0 then
        Decimal.reduced fuel ⟨decimal.digits / 10, decimal.exponent + 1⟩
      else decimal

/-! ## Choosing the digits -/

inductive Tie where
  | even
  | up
  deriving DecidableEq, Repr

def Tie.takesLower (tie : Tie) (lower : Decimal) : Bool :=
  match tie with
  | .even => lower.digits % 2 = 0
  | .up => false

namespace Binary64

/-- The bounds of the reals that round to the value, over a common denominator.
At a power of two the neighbour below is half as far away as the one above. -/
def roundingBounds (value : Binary64) : Nat × Nat × Nat :=
  let unit := Nat.pow 2 value.exponent.toNat
  let bottom := 4 * Nat.pow 2 (-value.exponent).toNat
  let below := if value.significand = Nat.pow 2 52 ∧ leastExponent < value.exponent then 1 else 2
  ((4 * value.significand - below) * unit, (4 * value.significand + 2) * unit, bottom)

def admits (value : Binary64) (decimal : Decimal) : Bool :=
  let (lower, upper, bottom) := value.roundingBounds
  let top := decimal.digits * Nat.pow 10 decimal.exponent.toNat * bottom
  let lower := lower * Nat.pow 10 (-decimal.exponent).toNat
  let upper := upper * Nat.pow 10 (-decimal.exponent).toNat
  if value.significand % 2 = 0 then lower ≤ top && top ≤ upper else lower < top && top < upper

/-- The power of ten just above the value: `10 ^ (places - 1) ≤ value < 10 ^ places`. -/
def places (value : Binary64) : Int :=
  let (top, bottom) := value.ratio
  if bottom ≤ top then (Nat.toDigits 10 (top / bottom)).length
  else
    match (List.range 400).find? fun zeros => bottom ≤ top * Nat.pow 10 (zeros + 1) with
    | some zeros => -zeros
    | none => 0

/-- The two neighbours of the value among the decimals with the given exponent,
the nearer one first. -/
def neighbours (tie : Tie) (value : Binary64) (exponent : Int) : List Decimal :=
  let (top, bottom) := value.ratio
  let top := top * Nat.pow 10 (-exponent).toNat
  let bottom := bottom * Nat.pow 10 exponent.toNat
  let below : Decimal := ⟨top / bottom, exponent⟩
  let above : Decimal := ⟨top / bottom + 1, exponent⟩
  if 2 * (top % bottom) < bottom || (2 * (top % bottom) = bottom && tie.takesLower below) then
    [below, above]
  else [above, below]

def shortest (tie : Tie) (value : Binary64) : Decimal :=
  if value.significand = 0 then ⟨0, 0⟩
  else
    let places := value.places
    let candidates := (List.range 17).flatMap fun count =>
      neighbours tie value (places - (count + 1 : Nat))
    match candidates.find? value.admits with
    | some decimal => decimal.reduced 20
    | none => ⟨0, 0⟩

end Binary64

/-! ## Layout -/

namespace Decimal

def positional (decimal : Decimal) : String :=
  let digits := Nat.toDigits 10 decimal.digits
  if 0 ≤ decimal.exponent then
    String.ofList (digits ++ List.replicate decimal.exponent.toNat '0' ++ ['.', '0'])
  else
    let fraction := (-decimal.exponent).toNat
    let padded := List.replicate (fraction + 1 - digits.length) '0' ++ digits
    let whole := padded.length - fraction
    String.ofList (padded.take whole ++ '.' :: padded.drop whole)

/-- One digit before the point, and a power of ten with its sign. -/
def scientific (decimal : Decimal) : String :=
  let digits := Nat.toDigits 10 decimal.digits
  let power : Int := decimal.exponent + digits.length - 1
  let mantissa :=
    match digits with
    | first :: second :: rest => first :: '.' :: second :: rest
    | short => short
  String.ofList mantissa ++ (if 0 ≤ power then "e+" else "e") ++ toString power

end Decimal

end LearnerPersona.Number
