import LearnerPersona.Dimension.Basic
import LearnerPersona.Json.Value

/-!
# Shapes of values on the wire

A `Shape α` says how values of `α` appear in a document.  One shape serves the
writer and the readers of both document formats, so that they cannot drift apart.
A record lists its fields in declaration order; a field is required, has a
default, or is optional, and an absent optional value is either left out or
written as null.
-/

namespace LearnerPersona.Wire

/-! ## Shapes -/

/-- What becomes of a field whose member is absent. -/
inductive Presence : Type → Type → Type 1
  | required {α : Type} : Presence α α
  | defaulted {α : Type} (value : α) : Presence α α
  /-- `omitted` leaves an absent value out; otherwise it is written as null. -/
  | optional {α : Type} (omitted : Bool) : Presence α (Option α)

mutual

inductive Shape : Type → Type 1
  | text : Shape String
  | word : Shape UInt32
  | choice {α : Type} (named : Named α) : Shape α
  | list {α : Type} (item : Shape α) : Shape (List α)
  | record {α φ ρ : Type} (name : String) (fields : Fields α φ)
      (build : α → ρ) (parts : ρ → α) (build_parts : ∀ record, build (parts record) = record) :
      Shape ρ

/-- Fields with values in `α`; a reader that has seen some of them holds a `φ`. -/
inductive Fields : Type → Type → Type 1
  | nil : Fields Unit Unit
  | cons {α β γ φ : Type} (key : String) (shape : Shape α) (presence : Presence α β)
      (rest : Fields γ φ) : Fields (β × γ) (Option β × φ)

end

namespace Fields

def keys {α φ : Type} : Fields α φ → List String
  | .nil => []
  | .cons key _ _ rest => key :: rest.keys

def count {α φ : Type} (fields : Fields α φ) : Nat := fields.keys.length

def unseen {α φ : Type} : Fields α φ → φ
  | .nil => ()
  | .cons _ _ _ rest => (none, rest.unseen)

end Fields

/-! ## Writing -/

def Presence.members {α β : Type} (key : String) (write : α → Json) :
    Presence α β → β → List (String × Json)
  | .required => fun value => [(key, write value)]
  | .defaulted _ => fun value => [(key, write value)]
  | .optional omitted => fun
      | some value => [(key, write value)]
      | none => if omitted then [] else [(key, .null)]

mutual

def Shape.toJson {α : Type} : Shape α → α → Json
  | .text => .string
  | .word => fun value => .number value.toNat
  | .choice named => fun value => .string (named.name value)
  | .list item => fun values => .array (values.map item.toJson)
  | .record _ fields _ parts _ => fun record => .object (fields.toMembers (parts record))

def Fields.toMembers {α φ : Type} : Fields α φ → α → List (String × Json)
  | .nil => fun _ => []
  | .cons key shape presence rest => fun values =>
      presence.members key shape.toJson values.1 ++ rest.toMembers values.2

end

/-! ## Fields that are absent -/

def Presence.absent? {α β : Type} : Presence α β → Option β
  | .required => none
  | .defaulted value => some value
  | .optional _ => some none

/-- Every field seen or absent with leave; otherwise the key of the first that is not. -/
def Fields.complete {α φ : Type} : Fields α φ → φ → Except String α
  | .nil => fun _ => .ok ()
  | .cons key _ presence rest => fun seen =>
      match seen.1.orElse fun _ => presence.absent? with
      | none => .error key
      | some value => (value, ·) <$> rest.complete seen.2

end LearnerPersona.Wire
