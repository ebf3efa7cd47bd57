/-!
# Bytes from outside

What arrives over a wire is bytes, and nothing makes them a text.  Decoded from left to
right they are letters: characters, and bytes in between that belong to none.
-/

namespace LearnerPersona.Text

structure Bytes where
  list : List UInt8
  deriving DecidableEq, Repr

namespace Bytes

def ofText (text : String) : Bytes := ⟨text.toList.flatMap String.utf8EncodeChar⟩

instance : Coe String Bytes := ⟨ofText⟩

instance : Append Bytes := ⟨fun front rest => ⟨front.list ++ rest.list⟩⟩

end Bytes

/-! ## Letters -/

inductive Letter where
  | char (char : Char)
  /-- A byte that is part of no character. -/
  | stray (byte : UInt8)
  deriving DecidableEq, Repr

namespace Letter

def size : Letter → Nat
  | .char value => value.utf8Size
  | .stray _ => 1

def frontChar? (bytes : List UInt8) : Option Char :=
  (bytes.take 4).toByteArray.utf8DecodeChar? 0

/-- The letters of bytes of which the first few belong to a letter that is known. -/
def decodeAfter : Nat → List UInt8 → List Letter
  | _, [] => []
  | known + 1, _ :: bytes => decodeAfter known bytes
  | 0, byte :: bytes =>
      match frontChar? (byte :: bytes) with
      | some value => .char value :: decodeAfter (value.utf8Size - 1) bytes
      | none => .stray byte :: decodeAfter 0 bytes

end Letter

def Bytes.letters (bytes : Bytes) : List Letter := Letter.decodeAfter 0 bytes.list

end LearnerPersona.Text
