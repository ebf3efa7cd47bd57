import LearnerPersona.Wire.FromJson
import LearnerPersona.Yaml.Node.Grammar
import LearnerPersona.Yaml.Scalar.Value

/-!
# Reading shapes from YAML

A record comes from a mapping; texts and names come from any scalar, whatever it
looks like.  Where nothing is written, a record has no fields and a list no items.
The reader goes through the document from left to right, and the first fault
decides.  Values that are kept for later are read strictly: a scalar that looks like
a number is no text then.  Every alias that is followed on the way counts, wherever it
stands; a document with too many of them is malformed.
-/

namespace LearnerPersona.Yaml

open LearnerPersona.Number (Floating)
open LearnerPersona.Wire

/-! ## Faults -/

inductive Fault where
  /-- The text is no YAML, or more than one document, or beyond a limit. -/
  | malformed
  | mismatch (path : Path) (cause : Mismatch)
  /-- A mismatch that is reported at the place of the value around it. -/
  | inner (cause : Mismatch)
  deriving DecidableEq, Repr

namespace Fault

def unplaced : Fault → Fault
  | .malformed => .malformed
  | .mismatch _ cause => .mismatch [] cause
  | .inner cause => .mismatch [] cause

/-- Seen from an alias of the faulty value: an alias is a place of its own. -/
def aliased : Fault → Fault
  | .inner cause => .mismatch [] cause
  | fault => fault

def under (step : Step) : Fault → Fault
  | .malformed => .malformed
  | .mismatch path cause => .mismatch (step :: path) cause
  | .inner cause => .mismatch [] cause

end Fault

def wording : Wording := ⟨"unit value", Wording.positional⟩

def Ending.check : Ending → Except Fault Unit
  | .closed => .ok ()
  | .broken => .error .malformed

/-! ## Following aliases -/

/-- A step of a reader that counts the aliases it has followed. -/
abbrev Decoding (α : Type) := StateT Nat (Except Fault) α

def Decoding.mapFault {α : Type} (change : Fault → Fault) (step : Decoding α) : Decoding α :=
  fun count => (step count).mapError change

def Decoding.value {α : Type} (step : Decoding α) : Except Fault α := step.run' 0

/-- The node, or what it is an alias of.  Only the latter counts. -/
def Aliases.follow (aliases : Aliases) : Node → Decoding Node
  | .alias anchor => fun count =>
      if aliases.limit < count + 1 then .error .malformed
      else .ok (aliases.target anchor, count + 1)
  | node => pure node

/-! ## Scalars -/

def localName? (properties : Properties) : Option String :=
  properties.tag?.bind Tag.localName?

def foundInteger (value : Int) : Found :=
  if -(Nat.pow 2 63 : Int) ≤ value ∧ value < Nat.pow 2 64 then .integer value
  else .wideInteger value

def Value.found : Value → Found
  | .null => .absent
  | .boolean value => .boolean value
  | .integer value => foundInteger value
  | .floating value => .floating value
  | .text content => .text content

def taggedValue? (tag : Tag) (text : String) : Option (Except Mismatch Value) :=
  let read (value? : Option Value) (expected : Expected) : Except Mismatch Value :=
    value?.elim (.error (.wrongValue (.text text) expected)) .ok
  if tag = .boolean then some (read ((Value.boolean? text).map .boolean) .boolean)
  else if tag = .integer then some (read ((Value.integer? text).map .integer) .integer)
  else if tag = .floating then some (read ((Value.floating? text).map .floating) .floating)
  else if tag = .null then
    some (read (if Value.isNull text then some .null else none) .null)
  else none

/-- The value of a scalar.  Only plain scalars are looked at more closely, and not if
they have a tag of another kind. -/
def scalarValue (properties : Properties) (style : Style) (text : String) :
    Except Mismatch Value :=
  match properties.tag? with
  | none => .ok (if style = .plain then .ofText text else .text text)
  | some tag =>
      match taggedValue? tag text with
      | some value => value
      | none =>
          .ok (if style = .plain && tag.isLocal then .ofText text else .text text)

def isNothing (style : Style) (text : String) : Bool := style = .plain && text.isEmpty

namespace Node

/-! ## Nodes that are skipped -/

mutual

def skip : Node → Except Fault Unit
  | .void => .ok ()
  | .scalar _ _ _ => .ok ()
  | .alias _ => .ok ()
  | .sequence _ items ending => do
      skipItems items
      ending.check
  | .mapping _ members ending => do
      skipMembers members
      ending.check
  | .broken => .error .malformed

def skipItems : List Node → Except Fault Unit
  | [] => .ok ()
  | item :: items => do
      item.skip
      skipItems items

def skipMembers : List (Node × Node) → Except Fault Unit
  | [] => .ok ()
  | (key, value) :: members => do
      key.skip
      value.skip
      skipMembers members

end

/-! ## Nodes that are read -/

def mismatch {α : Type} (node : Node) (expected : Expected) : Except Fault α :=
  match node with
  | .scalar properties style text =>
      match scalarValue properties style text with
      | .ok value => .error (.mismatch [] (.wrongKind value.found expected))
      | .error cause => .error (.mismatch [] cause)
  | .void => .error (.mismatch [] (.wrongKind .absent expected))
  | .sequence _ _ _ => .error (.mismatch [] (.wrongKind .sequence expected))
  | .mapping _ _ _ => .error (.mismatch [] (.wrongKind .mapping expected))
  | .alias _ => .error .malformed
  | .broken => .error .malformed

/-- The text of a scalar; a strict reader asks that its value is a text. -/
def toText (strict : Bool) (expected : Expected) (node : Node) : Except Fault String :=
  match node with
  | .scalar properties style text =>
      match strict, scalarValue properties style text with
      | false, _ => .ok text
      | true, .ok (.text content) => .ok content
      | true, _ => node.mismatch expected
  | _ => node.mismatch expected

def toWord : Node → Except Fault UInt32
  | .scalar properties style text =>
      let node := Node.scalar properties style text
      let isNumber :=
        style = .plain || (style = .literal && properties.tag? = some .integer)
      match (Value.natural? text).filter (· < Nat.pow 2 64) with
      | some number =>
          if !isNumber then node.mismatch .word
          else if number < Nat.pow 2 32 then .ok number.toUInt32
          else .error (.mismatch [] (.wrongValue (.integer number) .word))
      | none => node.mismatch .word
  | node => node.mismatch .word

def toUnit : Node → Except Fault Unit
  | .scalar _ style text =>
      if style = .plain && (text.isEmpty || Value.isNull text) then .ok ()
      else .error (.mismatch [] (.wrongValue (.text text) .null))
  | .void => .ok ()
  | node => node.mismatch .unit

def caseOf {α : Type} (named : Named α) (text : String) : Except Mismatch α :=
  match named.ofName? text with
  | some value => .ok value
  | none => .error (.unknownCase text (named.names α))

/-- A name: the text of a scalar, or a local tag with nothing behind it. -/
def toCase {α : Type} (named : Named α) (node : Node) : Except Fault α :=
  let tagged (properties : Properties) (otherwise : Except Fault α) : Except Fault α :=
    match localName? properties with
    | some text => do
        let case ← (caseOf named text).mapError .inner
        node.toUnit
        return case
    | none => otherwise
  match node with
  | .scalar properties _ text => tagged properties ((caseOf named text).mapError (.mismatch []))
  | .sequence properties _ _ => tagged properties (node.mismatch .tag)
  | .mapping properties _ _ => tagged properties (node.mismatch .tag)
  | _ => .error .malformed

def toItems {α : Type} (read : Node → Decoding α) : Nat → List Node → Decoding (List α)
  | _, [] => pure []
  | position, item :: items => do
      let value ← (read item).mapFault (.under (.index position))
      let values ← toItems read (position + 1) items
      return value :: values

/-- The node says that there is no value; a tag that promises one must keep to it. -/
def isAbsent : Node → Except Fault Bool
  | .scalar properties .plain text =>
      if properties.tag? = some .null then
        if Value.isNull text then .ok true
        else .error (.inner (.wrongValue (.text text) .null))
      else .ok (properties.tag?.isNone && (text.isEmpty || Value.isNull text))
  | .void => .ok true
  | .broken => .error .malformed
  | _ => .ok false

def members? : Node → Option (List (Node × Node) × Ending)
  | .mapping _ members ending => some (members, ending)
  | .void => some ([], .closed)
  | .scalar _ style text => if isNothing style text then some ([], .closed) else none
  | _ => none

def items? : Node → Option (List Node × Ending)
  | .sequence _ items ending => some (items, ending)
  | .void => some ([], .closed)
  | .scalar _ style text => if isNothing style text then some ([], .closed) else none
  | _ => none

end Node

def memberStep : Node → Step
  | .scalar _ _ text => .member text
  | _ => .unnamed

def presentField {α β : Type} (aliases : Aliases) (read : Node → Decoding α) :
    Presence α β → Node → Decoding β
  | .required => read
  | .defaulted _ => read
  | .optional _ => fun node => do
      let node ← aliases.follow node
      if ← node.isAbsent then return none
      return some (← read node)

end LearnerPersona.Yaml

namespace LearnerPersona.Wire

open LearnerPersona.Yaml

/-! ## Shapes -/

mutual

def Shape.ofNode {α : Type} (aliases : Aliases) (strict : Bool) : Shape α → Node → Decoding α
  | .text => fun node => do (← aliases.follow node).toText strict .text
  | .word => fun node => do (← aliases.follow node).toWord
  | .choice named => fun node => do
      let target ← aliases.follow node
      match node with
      | .alias _ => (target.toCase named).mapError Fault.aliased
      | _ => target.toCase named
  | .list item => fun node => do
      let node ← aliases.follow node
      match node.items? with
      | some (items, ending) =>
          let values ← Node.toItems (item.ofNode aliases strict) 0 items
          ending.check
          return values
      | none => node.mismatch .sequence
  | .record name fields build _ _ => fun node => do
      let node ← aliases.follow node
      match node.members? with
      | some (members, ending) =>
          let seen ← members.foldlM (fun seen (key, value) => do
            let text ← (← aliases.follow key).toText false .fieldName
            fields.readNode aliases strict text (memberStep key) value seen) fields.unseen
          ending.check
          match fields.complete seen with
          | .ok values => return build values
          | .error key => throw (.mismatch [] (.missingField key))
      | none => node.mismatch (.record name)

def Fields.readNode {α φ : Type} (aliases : Aliases) (strict : Bool) :
    Fields α φ → String → Step → Node → φ → Decoding φ
  | .nil => fun _ _ value seen => do
      value.skip
      return seen
  | .cons field shape presence rest => fun key step value seen => do
      if key = field then
        match seen.1 with
        | some _ => throw (.mismatch [] (.duplicateField field))
        | none =>
            let value ←
              (presentField aliases (shape.ofNode aliases strict) presence value).mapFault
                (.under step)
            return (some value, seen.2)
      else
        let later ← rest.readNode aliases strict key step value seen.2
        return (seen.1, later)

end

/-! ## Whole texts -/

def Shape.ofYaml {α : Type} (shape : Shape α) (text : String) : Except Yaml.Fault α := do
  let document := Document.ofText text
  let value ← (shape.ofNode document.aliases false document.root).value
  if document.isWhole then return value else throw .malformed

end LearnerPersona.Wire

/-! ## Merged records -/

namespace LearnerPersona.Yaml

def greatestDepth : Nat := 127

/-- A value that is kept until the record around it has been read.  It has to denote
something of bounded depth. -/
def Aliases.keep (aliases : Aliases) : Nat → Node → Decoding Unit
  | depth, node => do
      match depth, ← aliases.follow node with
      | _, .scalar properties style text =>
          if (localName? properties).isSome then throw .malformed
          match scalarValue properties style text with
          | .error cause => throw (.mismatch [] cause)
          | .ok value =>
              match value.found with
              | .wideInteger number =>
                  throw (.mismatch [] (.wrongKind (.wideInteger number) .anything))
              | _ => return ()
      | depth + 1, .sequence properties items ending =>
          if (localName? properties).isSome then throw .malformed
          items.zipIdx.forM fun (item, position) =>
            (aliases.keep depth item).mapFault (.under (.index position))
          ending.check
      | depth + 1, .mapping properties members ending =>
          if (localName? properties).isSome then throw .malformed
          members.forM fun (key, value) => do
            aliases.keep depth key
            (aliases.keep depth value).mapFault (.under (memberStep key))
          ending.check
      | _, .void => return ()
      | _, _ => throw .malformed

end LearnerPersona.Yaml

namespace LearnerPersona.Wire.Merged

open LearnerPersona.Yaml

def isOuter {ρ : Type} (merged : Merged ρ) (aliases : Aliases) (key : Node) : Bool :=
  match (aliases.resolve key).toText false .fieldName with
  | .ok text => merged.outer.keys.contains text
  | .error _ => false

/-- The outer members are read as they come.  All others are kept and read strictly
as the inner record at the end, so a fault in one of them has no place; its aliases
have been followed by then and count no more. -/
def ofNode {ρ : Type} (merged : Merged ρ) (aliases : Aliases) (node : Node) : Decoding ρ := do
  let node ← aliases.follow node
  match node.members? with
  | none => node.mismatch (.record merged.name)
  | some (members, ending) =>
      let seen ← members.foldlM (fun seen (key, value) => do
        let text ← (← aliases.follow key).toText false .fieldName
        if merged.isOuter aliases key then
          merged.outer.readNode aliases false text (memberStep key) value seen
        else
          (aliases.keep greatestDepth value).mapFault (.under (memberStep key))
          return seen) merged.outer.unseen
      ending.check
      let outer ← (merged.outer.complete seen).mapError fun key =>
        Fault.mismatch [] (.missingField key)
      let kept := members.filter fun (key, _) => !merged.isOuter aliases key
      let inner ←
        (merged.innerShape.ofNode aliases true (.mapping {} kept .closed)).value.mapError
          Fault.unplaced
      return merged.build (inner, outer)

def ofYaml {ρ : Type} (merged : Merged ρ) (text : String) : Except Yaml.Fault ρ := do
  let document := Yaml.Document.ofText text
  let value ← (merged.ofNode document.aliases document.root).value
  if document.isWhole then return value else throw .malformed

end LearnerPersona.Wire.Merged
