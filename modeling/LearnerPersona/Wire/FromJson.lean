import LearnerPersona.Json.Number
import LearnerPersona.Wire.Mismatch
import LearnerPersona.Wire.Shape

/-!
# Reading shapes from JSON

One pass over the document, left to right; the first fault decides.  A record
comes from an object, or from an array of its fields in order.  Members with
unknown keys are skipped: they have to be grammatical and nothing more.
-/

namespace LearnerPersona.Json

open LearnerPersona.Number (Floating)
open LearnerPersona.Wire

/-! ## Faults -/

inductive Fault where
  | flawed (flaw : Flaw)
  | mismatch (path : Path) (cause : Mismatch)
  deriving DecidableEq, Repr

/-- Seen from the value that the faulty one is a part of. -/
def Fault.under (step : Step) : Fault → Fault
  | .flawed flaw => .flawed flaw
  | .mismatch path cause => .mismatch (step :: path) cause

def Fault.unplaced : Fault → Fault
  | .flawed flaw => .flawed flaw
  | .mismatch _ cause => .mismatch [] cause

def wording : Wording := ⟨"null", Wording.balanced⟩

def Ending.check : Ending → Except Flaw Unit
  | .closed => .ok ()
  | .broken flaw => .error flaw

def flawed {α : Type} (result : Except Flaw α) : Except Fault α :=
  result.mapError .flawed

namespace Document

/-! ## Documents that are skipped -/

mutual

/-- The value is grammatical. -/
def skip : Document → Except Flaw Unit
  | .null | .boolean _ | .number _ => .ok ()
  | .string _ ending => ending.check
  | .array items ending => do
      skipItems items
      ending.check
  | .object members ending => do
      skipMembers members
      ending.check
  | .broken .number _ => .error .malformed
  | .broken _ flaw => .error flaw
  | .missing => .error .truncated

def skipItems : List Document → Except Flaw Unit
  | [] => .ok ()
  | item :: items => do
      item.skip
      skipItems items

def skipMembers : List (Document × Document) → Except Flaw Unit
  | [] => .ok ()
  | (key, value) :: members => do
      skipKey key
      value.skip
      skipMembers members

def skipKey : Document → Except Flaw Unit
  | .string _ ending => ending.check
  | .missing => .error .truncated
  | _ => .error .malformed

end

/-! ## Documents that are read -/

/-- What the document is, as far as a mismatch has to tell. -/
def found : Document → Except Flaw Found
  | .null => .ok .absent
  | .boolean value => .ok (.boolean value)
  | .number numeral => do
      match ← numeral.value with
      | .integer value => return .integer value
      | .floating negative magnitude => return .floating (.finite negative magnitude)
  | .string units ending => (.text <| String.ofList ·) <$> joinUnits units ending
  | .array _ _ => .ok .sequence
  | .object _ _ => .ok .mapping
  | .broken _ flaw => .error flaw
  | .missing => .error .truncated

def mismatch {α : Type} (document : Document) (expected : Expected) : Except Fault α := do
  let found ← flawed document.found
  throw (.mismatch [] (.wrongKind found expected))

def toText (expected : Expected) : Document → Except Fault String
  | .string units ending => flawed (String.ofList <$> joinUnits units ending)
  | document => document.mismatch expected

def toKey : Document → Except Flaw String
  | .string units ending => String.ofList <$> joinUnits units ending
  | .missing => .error .truncated
  | _ => .error .malformed

def toWord (document : Document) : Except Fault UInt32 := do
  match ← flawed document.found with
  | .integer value =>
      if 0 ≤ value ∧ value < Nat.pow 2 32 then return value.toNat.toUInt32
      else throw (.mismatch [] (.wrongValue (.integer value) .word))
  | found => throw (.mismatch [] (.wrongKind found .word))

def toUnit : Document → Except Fault Unit
  | .null => .ok ()
  | document => document.mismatch .unit

def caseOf {α : Type} (named : Named α) (text : String) : Except Fault α :=
  match named.ofName? text with
  | some value => .ok value
  | none => .error (.mismatch [] (.unknownCase text (named.names α)))

/-- A name, or an object whose only key is a name and whose only value is null.
Nothing else can begin a value of a closed set, so all else is malformed. -/
def toCase {α : Type} (named : Named α) : Document → Except Fault α
  | .string units ending => do
      caseOf named (← flawed (String.ofList <$> joinUnits units ending))
  | .object [] .closed => .error (.flawed .malformed)
  | .object [] (.broken flaw) => .error (.flawed flaw)
  | .object ((key, value) :: others) ending => do
      let text ← flawed key.toKey
      let case ← caseOf named text
      value.toUnit.mapError (.under (.member text))
      match others with
      | [] => flawed ending.check
      | _ :: _ => throw (.flawed .malformed)
      return case
  | .missing => .error (.flawed .truncated)
  | _ => .error (.flawed .malformed)

def toItems {α : Type} (read : Document → Except Fault α) :
    Nat → List Document → Except Fault (List α)
  | _, [] => .ok []
  | position, item :: items => do
      let value ← (read item).mapError (.under (.index position))
      let values ← toItems read (position + 1) items
      return value :: values

end Document

def presentField {α β : Type} (read : Document → Except Fault α) :
    Presence α β → Document → Except Fault β
  | .required => read
  | .defaulted _ => read
  | .optional _ => fun
      | .null => .ok none
      | .broken .null flaw => .error (.flawed flaw)
      | document => some <$> read document

end LearnerPersona.Json

namespace LearnerPersona.Wire

open LearnerPersona.Json

/-! ## Shapes -/

mutual

def Shape.ofDocument {α : Type} :
    Shape α → Document → Except Fault α
  | .text => Document.toText .text
  | .word => Document.toWord
  | .choice named => Document.toCase named
  | .list item => fun
      | .array items ending => do
          let values ← Document.toItems item.ofDocument 0 items
          flawed ending.check
          return values
      | document => document.mismatch .sequence
  | .record name fields build _ _ => fun
      | .object members ending => do
          let seen ← members.foldlM (fun seen (key, value) => do
            fields.readMember (← flawed key.toKey) value seen) fields.unseen
          flawed ending.check
          match fields.complete seen with
          | .ok values => return build values
          | .error key => throw (.mismatch [] (.missingField key))
      | .array items ending => build <$> fields.ofItems name fields.count 0 items ending
      | document => document.mismatch (.record name)

def Fields.readMember {α φ : Type} :
    Fields α φ → String → Document → φ → Except Fault φ
  | .nil => fun _ value seen => do
      flawed value.skip
      return seen
  | .cons field shape presence rest => fun key value seen =>
      if key = field then
        match seen.1 with
        | some _ => .error (.mismatch [] (.duplicateField field))
        | none => do
            let value ←
              (presentField shape.ofDocument presence value).mapError (.under (.member field))
            return (some value, seen.2)
      else do
        let later ← rest.readMember key value seen.2
        return (seen.1, later)

/-- The items of an array that stands for a record. -/
def Fields.ofItems {α φ : Type} :
    Fields α φ → String → Nat → Nat → List Document → Ending → Except Fault α
  | .nil => fun _ _ _ items ending =>
      match items with
      | [] => flawed ending.check
      | _ :: _ => .error (.flawed .malformed)
  | .cons _ shape presence rest => fun name count position items ending =>
      match items with
      | [] => do
          flawed ending.check
          match presence.absent? with
          | none => throw (.mismatch [] (.tooShort position name count))
          | some value => (value, ·) <$> rest.ofItems name count (position + 1) [] ending
      | item :: items => do
          let value ←
            (presentField shape.ofDocument presence item).mapError (.under (.index position))
          (value, ·) <$> rest.ofItems name count (position + 1) items ending

end

/-! ## Whole texts -/

def Shape.ofJson {α : Type} (shape : Shape α) (text : String) : Except Fault α := do
  let (document, rest) := Document.read text
  let value ← shape.ofDocument document
  if (skipBlanks rest).isEmpty then return value else throw (.flawed .malformed)

/-- The value at the front of a text; what follows it is not looked at. -/
def Shape.ofJsonFront {α : Type} (shape : Shape α) (bytes : Text.Bytes) : Except Fault α :=
  shape.ofDocument (Document.readBytes bytes).1

/-! ## Merged records -/

/-- A record some of whose members belong to an inner record of their own.  The
inner record's members stand directly among the outer ones. -/
structure Merged (ρ : Type) where
  {Outer OuterSeen Inner InnerSeen : Type}
  name : String
  inner : Fields Inner InnerSeen
  outer : Fields Outer OuterSeen
  build : Inner × Outer → ρ
  parts : ρ → Inner × Outer
  build_parts : ∀ record, build (parts record) = record

namespace Merged

def toJson {ρ : Type} (merged : Merged ρ) (record : ρ) : Json :=
  let (inner, outer) := merged.parts record
  .object (merged.inner.toMembers inner ++ merged.outer.toMembers outer)

def innerShape {ρ : Type} (merged : Merged ρ) : Shape merged.Inner :=
  .record merged.name merged.inner id id fun _ => rfl

/-- Levels of nesting that a kept value may have inside the record. -/
def greatestDepth : Nat := 126

/-- A value that is kept until the record has been read.  Unlike one that is
skipped it has to denote something, and its depth is bounded. -/
def keep : Nat → Document → Except Flaw Unit
  | _, .null => .ok ()
  | _, .boolean _ => .ok ()
  | _, .number numeral => (fun _ => ()) <$> numeral.value
  | _, .string units ending => (fun _ => ()) <$> joinUnits units ending
  | 0, .array _ _ => .error .malformed
  | 0, .object _ _ => .error .malformed
  | depth + 1, .array items ending => do
      items.forM (keep depth)
      ending.check
  | depth + 1, .object members ending => do
      members.forM fun (key, value) => do
        let _ ← key.toKey
        keep depth value
      ending.check
  | _, .broken _ flaw => .error flaw
  | _, .missing => .error .truncated

def owns {ρ : Type} (merged : Merged ρ) (key : Document) : Bool :=
  match key.toKey with
  | .ok key => merged.outer.keys.contains key
  | .error _ => false

/-- The outer members are read as they come.  All others are kept and read as the
inner record at the end, so a fault in one of them has no place. -/
def ofDocument {ρ : Type} (merged : Merged ρ) : Document → Except Fault ρ
  | .object members ending => do
      let seen ← members.foldlM (fun seen (key, value) => do
        let text ← flawed key.toKey
        if merged.owns key then merged.outer.readMember text value seen
        else do
          flawed (keep greatestDepth value)
          return seen) merged.outer.unseen
      flawed ending.check
      let outer ← (merged.outer.complete seen).mapError fun key => .mismatch [] (.missingField key)
      let kept := members.filter fun (key, _) => !merged.owns key
      let inner ← (merged.innerShape.ofDocument (.object kept .closed)).mapError .unplaced
      return merged.build (inner, outer)
  | document => document.mismatch (.record merged.name)

def ofJson {ρ : Type} (merged : Merged ρ) (text : String) : Except Fault ρ := do
  let (document, rest) := Document.read text
  let value ← merged.ofDocument document
  if (skipBlanks rest).isEmpty then return value else throw (.flawed .malformed)

def ofJsonFront {ρ : Type} (merged : Merged ρ) (bytes : Text.Bytes) : Except Fault ρ :=
  merged.ofDocument (Document.readBytes bytes).1

end Merged

end LearnerPersona.Wire
