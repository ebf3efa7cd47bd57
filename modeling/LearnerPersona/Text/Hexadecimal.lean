/-!
# Hexadecimal digits

Digits of base sixteen in either case, as they stand in escapes of several formats.
-/

namespace LearnerPersona.Text

def hexValue? (char : Char) : Option Nat :=
  if '0' ≤ char ∧ char ≤ '9' then some (char.toNat - '0'.toNat)
  else if 'a' ≤ char ∧ char ≤ 'f' then some (char.toNat - 'a'.toNat + 10)
  else if 'A' ≤ char ∧ char ≤ 'F' then some (char.toNat - 'A'.toNat + 10)
  else none

/-- The number that digits denote, the highest first. -/
def hexNumber? (digits : List Char) : Option Nat :=
  digits.foldlM (fun number digit => (number * 16 + ·) <$> hexValue? digit) 0

end LearnerPersona.Text
