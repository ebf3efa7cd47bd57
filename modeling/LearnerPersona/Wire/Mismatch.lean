import LearnerPersona.Number.Decimal
import LearnerPersona.Text.Quoted

/-!
# When a document does not fit

A document can be well formed and still not have the shape that is asked for.  A
mismatch says what was found and what was expected; a path says where.  The two
document formats describe a mismatch in the same words, except for the absent
value and for the layout of numbers, which a `Wording` fixes.
-/

namespace LearnerPersona.Wire

open LearnerPersona.Number (Floating)

/-! ## Places -/

inductive Step where
  | member (key : String)
  | index (position : Nat)
  | unnamed
  deriving DecidableEq, Repr

abbrev Path := List Step

/-- Members are separated by points; positions stand in brackets. -/
def Path.text : Path → String
  | [] => ""
  | step :: path =>
      let first :=
        match step with
        | .member key => key
        | .index position => "[" ++ toString position ++ "]"
        | .unnamed => "?"
      path.foldl (fun text step =>
        match step with
        | .member key => text ++ "." ++ key
        | .index position => text ++ "[" ++ toString position ++ "]"
        | .unnamed => text ++ ".?") first

/-! ## Mismatches -/

inductive Found where
  | absent
  | boolean (value : Bool)
  | integer (value : Int)
  | wideInteger (value : Int)
  | floating (value : Floating)
  | text (content : String)
  | sequence
  | mapping
  deriving DecidableEq, Repr

inductive Expected where
  | text
  | sequence
  | word
  | record (name : String)
  | unit
  | fieldName
  | tag
  | boolean
  | integer
  | floating
  | null
  | anything
  deriving DecidableEq, Repr

def Expected.describe : Expected → String
  | .text => "a string"
  | .sequence => "a sequence"
  | .word => "u32"
  | .record name => "struct " ++ name
  | .unit => "unit"
  | .fieldName => "field identifier"
  | .tag => "a YAML tag starting with '!'"
  | .boolean => "a boolean"
  | .integer => "an integer"
  | .floating => "a float"
  | .null => "null"
  | .anything => "any value"

inductive Mismatch where
  | wrongKind (found : Found) (expected : Expected)
  | wrongValue (found : Found) (expected : Expected)
  /-- An array stands for a record and has too few items. -/
  | tooShort (length : Nat) (record : String) (fields : Nat)
  | unknownCase (text : String) (cases : List String)
  | missingField (key : String)
  | duplicateField (key : String)
  deriving DecidableEq, Repr

/-! ## Messages -/

structure Wording where
  absent : String
  floating : Floating → String

namespace Wording

/-- Points for all magnitudes; of two equally close decimals the greater. -/
def positional : Floating → String
  | .finite negative magnitude =>
      (if negative then "-" else "") ++ (magnitude.shortest .up).positional
  | .infinite negative => if negative then "-inf" else "inf"
  | .undefined => "NaN"

/-- Points for magnitudes from `10 ^ -5` up to `10 ^ 16`, exponents beyond; of two
equally close decimals the even one. -/
def balanced : Floating → String
  | .finite negative magnitude =>
      let decimal := magnitude.shortest .even
      let places := decimal.exponent + (Nat.toDigits 10 decimal.digits).length
      let positional := decimal.digits = 0 || (-5 < places && places ≤ 16)
      (if negative then "-" else "") ++
        (if positional then decimal.positional else decimal.scientific)
  | other => positional other

end Wording

def Found.describe (wording : Wording) : Found → String
  | .absent => wording.absent
  | .boolean value => "boolean `" ++ toString value ++ "`"
  | .integer value => "integer `" ++ toString value ++ "`"
  | .wideInteger value =>
      "integer `" ++ toString value ++ "` as " ++ (if value < 0 then "i128" else "u128")
  | .floating value => "floating point `" ++ wording.floating value ++ "`"
  | .text content => "string " ++ Text.quoted content
  | .sequence => "sequence"
  | .mapping => "map"

def allowed (cases : List String) : String :=
  match cases.map fun name => "`" ++ name ++ "`" with
  | [] => "there are no variants"
  | [only] => "expected " ++ only
  | [first, second] => "expected " ++ first ++ " or " ++ second
  | quoted => "expected one of " ++ ", ".intercalate quoted

def Mismatch.message (wording : Wording) : Mismatch → String
  | .wrongKind found expected =>
      "invalid type: " ++ found.describe wording ++ ", expected " ++ expected.describe
  | .wrongValue found expected =>
      "invalid value: " ++ found.describe wording ++ ", expected " ++ expected.describe
  | .tooShort length record fields =>
      "invalid length " ++ toString length ++ ", expected struct " ++ record ++ " with " ++
        toString fields ++ (if fields = 1 then " element" else " elements")
  | .unknownCase text cases => "unknown variant `" ++ text ++ "`, " ++ allowed cases
  | .missingField key => "missing field `" ++ key ++ "`"
  | .duplicateField key => "duplicate field `" ++ key ++ "`"

end LearnerPersona.Wire
