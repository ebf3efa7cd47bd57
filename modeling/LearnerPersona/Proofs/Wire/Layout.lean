import LearnerPersona.Proofs.Wire.RoundTrip
import LearnerPersona.Wire.Layout

/-!
# Round trips of the library's values

No record of the library has two fields of one key, and the prompts of a simulation
stand beside a transcript under a key of its own.  So every value that is written to
a document and read from one is restored.
-/

namespace LearnerPersona

open LearnerPersona.Wire

theorem Simulation.separate_shape : Simulation.shape.Separate where
  inner := by simp [shape, Cast.fields, Shape.Distinct, Fields.Distinct, Fields.keys]
  outer := by
    simp [shape, Utterance.shape, Named.shape, Shape.Distinct, Fields.Distinct, Fields.keys]
  disjoint := by simp [shape, Cast.fields, Fields.keys]
  keep := by
    rintro ⟨learner, tutor, ⟨⟩⟩ member hmember
    simp only [shape, Cast.fields, Fields.toMembers, Presence.members, Shape.toJson,
      List.cons_append, List.nil_append, List.append_nil, List.mem_cons, List.not_mem_nil,
      or_false] at hmember
    rcases hmember with rfl | rfl <;> exact Merged.keep_string _ _

/-- Whatever the texts and numbers in a value, its compact text reads back as the value;
an empty text stays apart from an absent one. -/
theorem layout_roundTrips :
    Profile.shape.RoundTrips ∧ Knowledge.shape.RoundTrips ∧ Cognition.shape.RoundTrips ∧
    Motivation.shape.RoundTrips ∧ Communication.shape.RoundTrips ∧
    (Named.shape Preset).RoundTrips ∧
    PersonaRequest.shape.RoundTrips ∧ Persona.shape.RoundTrips ∧ Sections.shape.RoundTrips ∧
    ProfilePatch.shape.RoundTrips ∧ KnowledgePatch.shape.RoundTrips ∧
    CognitionPatch.shape.RoundTrips ∧ MotivationPatch.shape.RoundTrips ∧
    CommunicationPatch.shape.RoundTrips ∧
    ChatMessage.shape.RoundTrips ∧ Chat.shape.RoundTrips ∧
    GenerationRequest.shape.RoundTrips ∧ Utterance.shape.RoundTrips ∧
    Cast.shape.RoundTrips ∧ Simulation.shape.RoundTrips := by
  refine ⟨.of_distinct ?_, .of_distinct ?_, .of_distinct ?_, .of_distinct ?_,
    .of_distinct ?_, .of_distinct ?_, .of_distinct ?_, .of_distinct ?_, .of_distinct ?_,
    .of_distinct ?_, .of_distinct ?_, .of_distinct ?_, .of_distinct ?_, .of_distinct ?_,
    .of_distinct ?_, .of_distinct ?_, .of_distinct ?_, .of_distinct ?_, .of_distinct ?_,
    .of_separate Simulation.separate_shape⟩
  -- What is left is that the keys of every record are distinct.
  all_goals
    simp [Shape.Distinct, Fields.Distinct, Fields.keys, Named.shape, Profile.shape,
      Knowledge.shape, Cognition.shape, Motivation.shape, Communication.shape,
      PersonaRequest.shape, Persona.shape, Sections.shape,
      ProfilePatch.shape, KnowledgePatch.shape, CognitionPatch.shape, MotivationPatch.shape,
      CommunicationPatch.shape, ChatMessage.shape, Chat.shape, GenerationRequest.shape,
      Utterance.shape, Cast.shape, Cast.fields]

end LearnerPersona
