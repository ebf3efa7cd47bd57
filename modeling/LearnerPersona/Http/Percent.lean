import LearnerPersona.Text.Hexadecimal

/-!
# Percent encoding

A segment of a path can hold any byte as a percent sign and two hexadecimal digits.
Reading is lenient: a percent sign without two digits behind it stands for itself.
-/

namespace LearnerPersona.Http.Percent

/-! ## Bytes -/

def sign : UInt8 := 0x25

def digitValue? (byte : UInt8) : Option Nat :=
  Text.hexValue? (Char.ofNat byte.toNat)

def pair? (high low : UInt8) : Option UInt8 := do
  let high ← digitValue? high
  let low ← digitValue? low
  return (high * 16 + low).toUInt8

def decodeBytes : List UInt8 → List UInt8
  | [] => []
  | [byte] => [byte]
  | [first, second] => [first, second]
  | byte :: high :: low :: bytes =>
      if byte = sign then
        match pair? high low with
        | some value => value :: decodeBytes bytes
        | none => byte :: decodeBytes (high :: low :: bytes)
      else byte :: decodeBytes (high :: low :: bytes)

def digit (value : Nat) : UInt8 :=
  (if value < 10 then 0x30 + value else 0x37 + value).toUInt8

def encodeByte (byte : UInt8) : List UInt8 :=
  [sign, digit (byte.toNat / 16), digit (byte.toNat % 16)]

/-! ## Texts -/

/-- The text that an encoded segment denotes; none if its bytes are no UTF-8. -/
def decode? (segment : List Char) : Option String :=
  String.fromUTF8? (decodeBytes (String.ofList segment).toUTF8.toList).toByteArray

end LearnerPersona.Http.Percent
