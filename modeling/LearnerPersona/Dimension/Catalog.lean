import LearnerPersona.Dimension.Basic
import LearnerPersona.Dimension.Prose

/-!
# The catalogue of dimensions

A profile builder shows every dimension with its options.  A `Facet` is one
dimension with its type hidden, so that all twelve stand in one list.
-/

namespace LearnerPersona

/-! ## Dimensions in one list -/

/-- One dimension, whatever the type of its values. -/
structure Facet where
  Value : Type
  [dimension : Dimension Value]
  [prose : Prose Value]

attribute [instance] Facet.dimension Facet.prose

namespace Facet

def key (facet : Facet) : String := Dimension.key facet.Value

def all : List Facet :=
  [⟨PriorKnowledge⟩, ⟨WorkingMemory⟩, ⟨Metacognition⟩, ⟨Preference⟩,
    ⟨Engagement⟩, ⟨Efficacy⟩, ⟨Goal⟩, ⟨Tolerance⟩,
    ⟨Verbosity⟩, ⟨HelpSeeking⟩, ⟨Correction⟩, ⟨Register⟩]

def find? (key : String) : Option Facet :=
  all.find? fun facet => facet.key = key

end Facet

/-! ## What a builder shows -/

structure Choice where
  value : String
  label : String
  description : String
  deriving DecidableEq, Repr

def Choice.of {α : Type} [Dimension α] (value : α) : Choice :=
  ⟨name value, Dimension.label value, Dimension.description value⟩

structure Descriptor where
  key : String
  options : List Choice
  deriving DecidableEq, Repr

def Descriptor.of (α : Type) [Dimension α] : Descriptor :=
  ⟨Dimension.key α, (Named.values (α := α)).map Choice.of⟩

def catalog : List Descriptor :=
  [.of PriorKnowledge, .of WorkingMemory, .of Metacognition, .of Preference,
    .of Engagement, .of Efficacy, .of Goal, .of Tolerance,
    .of Verbosity, .of HelpSeeking, .of Correction, .of Register]

end LearnerPersona
