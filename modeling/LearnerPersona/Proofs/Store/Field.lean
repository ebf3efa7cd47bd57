import LearnerPersona.Proofs.Store.Cache

/-!
# Fields of a profile

A profile is taken apart into its fields, each with the type of its values.  Its fields
determine it, and a patch changes exactly those for which it names a value.
-/

namespace LearnerPersona

/-! ## Fields of the parts -/

namespace Knowledge

inductive Field : Type → Type where
  | domain : Field String
  | topic : Field String
  | understanding : Field String
  | misconceptions : Field String
  | gaps : Field String
  | context : Field (Option String)

def Field.get {α : Type} : Field α → Knowledge → α
  | .domain => Knowledge.domain
  | .topic => Knowledge.topic
  | .understanding => Knowledge.understanding
  | .misconceptions => Knowledge.misconceptions
  | .gaps => Knowledge.gaps
  | .context => Knowledge.context?

theorem eq_of_get_eq {left right : Knowledge}
    (h : ∀ {α : Type} (field : Field α), field.get left = field.get right) : left = right := by
  obtain ⟨domain, topic, understanding, misconceptions, gaps, context?⟩ := left
  cases h .domain
  cases h .topic
  cases h .understanding
  cases h .misconceptions
  cases h .gaps
  cases h .context
  rfl

end Knowledge

namespace Cognition

inductive Field : Type → Type where
  | priorKnowledge : Field PriorKnowledge
  | workingMemory : Field WorkingMemory
  | metacognition : Field Metacognition
  | preferences : Field (List Preference)

def Field.get {α : Type} : Field α → Cognition → α
  | .priorKnowledge => Cognition.priorKnowledge
  | .workingMemory => Cognition.workingMemory
  | .metacognition => Cognition.metacognition
  | .preferences => Cognition.preferences

theorem eq_of_get_eq {left right : Cognition}
    (h : ∀ {α : Type} (field : Field α), field.get left = field.get right) : left = right := by
  obtain ⟨priorKnowledge, workingMemory, metacognition, preferences⟩ := left
  cases h .priorKnowledge
  cases h .workingMemory
  cases h .metacognition
  cases h .preferences
  rfl

end Cognition

namespace Motivation

inductive Field : Type → Type where
  | engagement : Field Engagement
  | efficacy : Field Efficacy
  | goal : Field Goal
  | tolerance : Field Tolerance

def Field.get {α : Type} : Field α → Motivation → α
  | .engagement => Motivation.engagement
  | .efficacy => Motivation.efficacy
  | .goal => Motivation.goal
  | .tolerance => Motivation.tolerance

theorem eq_of_get_eq {left right : Motivation}
    (h : ∀ {α : Type} (field : Field α), field.get left = field.get right) : left = right := by
  obtain ⟨engagement, efficacy, goal, tolerance⟩ := left
  cases h .engagement
  cases h .efficacy
  cases h .goal
  cases h .tolerance
  rfl

end Motivation

namespace Communication

inductive Field : Type → Type where
  | verbosity : Field Verbosity
  | helpSeeking : Field HelpSeeking
  | correction : Field Correction
  | register : Field Register

def Field.get {α : Type} : Field α → Communication → α
  | .verbosity => Communication.verbosity
  | .helpSeeking => Communication.helpSeeking
  | .correction => Communication.correction
  | .register => Communication.register

theorem eq_of_get_eq {left right : Communication}
    (h : ∀ {α : Type} (field : Field α), field.get left = field.get right) : left = right := by
  obtain ⟨verbosity, helpSeeking, correction, register⟩ := left
  cases h .verbosity
  cases h .helpSeeking
  cases h .correction
  cases h .register
  rfl

end Communication

/-! ## Fields of a profile -/

namespace Profile

inductive Field : Type → Type 1 where
  | id : Field String
  | name : Field (Option String)
  | preset : Field (Option Preset)
  | knowledge {α : Type} (field : Knowledge.Field α) : Field α
  | cognition {α : Type} (field : Cognition.Field α) : Field α
  | motivation {α : Type} (field : Motivation.Field α) : Field α
  | communication {α : Type} (field : Communication.Field α) : Field α

def Field.get {α : Type} : Field α → Profile → α
  | .id => Profile.id
  | .name => name?
  | .preset => preset?
  | .knowledge field => fun profile => field.get profile.knowledge
  | .cognition field => fun profile => field.get profile.cognition
  | .motivation field => fun profile => field.get profile.motivation
  | .communication field => fun profile => field.get profile.communication

theorem eq_of_get_eq {left right : Profile}
    (h : ∀ {α : Type} (field : Field α), field.get left = field.get right) : left = right := by
  obtain ⟨id, name?, preset?, knowledge, cognition, motivation, communication⟩ := left
  cases h .id
  cases h .name
  cases h .preset
  cases Knowledge.eq_of_get_eq fun field => h (.knowledge field)
  cases Cognition.eq_of_get_eq fun field => h (.cognition field)
  cases Motivation.eq_of_get_eq fun field => h (.motivation field)
  cases Communication.eq_of_get_eq fun field => h (.communication field)
  rfl

end Profile

/-! ## Values of patches -/

/-- The new value of the field, if the patch names one. -/
def KnowledgePatch.value? {α : Type} (patch : KnowledgePatch) : Knowledge.Field α → Option α
  | .domain => patch.domain?
  | .topic => patch.topic?
  | .understanding => patch.understanding?
  | .misconceptions => patch.misconceptions?
  | .gaps => patch.gaps?
  | .context => patch.context?.map some

def CognitionPatch.value? {α : Type} (patch : CognitionPatch) : Cognition.Field α → Option α
  | .priorKnowledge => patch.priorKnowledge?
  | .workingMemory => patch.workingMemory?
  | .metacognition => patch.metacognition?
  | .preferences => patch.preferences?

def MotivationPatch.value? {α : Type} (patch : MotivationPatch) : Motivation.Field α → Option α
  | .engagement => patch.engagement?
  | .efficacy => patch.efficacy?
  | .goal => patch.goal?
  | .tolerance => patch.tolerance?

def CommunicationPatch.value? {α : Type} (patch : CommunicationPatch) :
    Communication.Field α → Option α
  | .verbosity => patch.verbosity?
  | .helpSeeking => patch.helpSeeking?
  | .correction => patch.correction?
  | .register => patch.register?

/-- Identifier and preset are no part of a patch. -/
def ProfilePatch.value? {α : Type} (patch : ProfilePatch) : Profile.Field α → Option α
  | .id | .preset => none
  | .name => patch.name?.map some
  | .knowledge field => patch.knowledge?.bind (·.value? field)
  | .cognition field => patch.cognition?.bind (·.value? field)
  | .motivation field => patch.motivation?.bind (·.value? field)
  | .communication field => patch.communication?.bind (·.value? field)

theorem Knowledge.get_patch {α : Type} (knowledge : Knowledge) (patch : KnowledgePatch)
    (field : Field α) :
    field.get (knowledge.patch patch) = (patch.value? field).getD (field.get knowledge) := by
  obtain ⟨domain?, topic?, understanding?, misconceptions?, gaps?, context?⟩ := patch
  cases field with
  | domain | topic | understanding | misconceptions | gaps => rfl
  | context => cases context? <;> rfl

theorem Cognition.get_patch {α : Type} (cognition : Cognition) (patch : CognitionPatch)
    (field : Field α) :
    field.get (cognition.patch patch) = (patch.value? field).getD (field.get cognition) := by
  cases field <;> rfl

theorem Motivation.get_patch {α : Type} (motivation : Motivation) (patch : MotivationPatch)
    (field : Field α) :
    field.get (motivation.patch patch) = (patch.value? field).getD (field.get motivation) := by
  cases field <;> rfl

theorem Communication.get_patch {α : Type} (communication : Communication)
    (patch : CommunicationPatch) (field : Field α) :
    field.get (communication.patch patch) =
      (patch.value? field).getD (field.get communication) := by
  cases field <;> rfl

/-- An absent part of a patch names no value and changes nothing. -/
theorem get_elim_patch {α β γ : Type} {get : β → α} {value? : γ → Option α} {part : β}
    {change : γ → β} (h : ∀ patch, get (change patch) = (value? patch).getD (get part))
    (patch? : Option γ) :
    get (patch?.elim part change) = (patch?.bind value?).getD (get part) := by
  cases patch? with
  | none => rfl
  | some patch => exact h patch

theorem Profile.get_patch {α : Type} (profile : Profile) (patch : ProfilePatch)
    (field : Field α) :
    field.get (profile.patch patch) = (patch.value? field).getD (field.get profile) := by
  cases field with
  | id | preset => rfl
  | name =>
      obtain ⟨name?, _⟩ := patch
      cases name? <;> rfl
  | knowledge field =>
      exact get_elim_patch (profile.knowledge.get_patch · field) patch.knowledge?
  | cognition field =>
      exact get_elim_patch (profile.cognition.get_patch · field) patch.cognition?
  | motivation field =>
      exact get_elim_patch (profile.motivation.get_patch · field) patch.motivation?
  | communication field =>
      exact get_elim_patch (profile.communication.get_patch · field) patch.communication?

end LearnerPersona
