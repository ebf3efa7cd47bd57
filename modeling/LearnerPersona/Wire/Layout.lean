import LearnerPersona.Conversation.Chat
import LearnerPersona.Conversation.Simulation
import LearnerPersona.Dimension.Catalog
import LearnerPersona.Store
import LearnerPersona.Wire.FromJson

/-!
# Layout of the library's values

The shape of every value that is read from or written to a document.  Members
stand in the order of the fields here.  A profile leaves absent texts out; a
patch writes what it does not change as null.
-/

namespace LearnerPersona

open LearnerPersona.Wire

def Named.shape (α : Type) [Identified α] : Shape α := .choice (Identified.inDocuments α)

/-! ## Profiles -/

def Knowledge.shape : Shape Knowledge :=
  .record "KnowledgeState"
    (.cons "domain" .text (.defaulted "")
    (.cons "topic" .text (.defaulted "")
    (.cons "partialUnderstanding" .text (.defaulted "")
    (.cons "misconceptions" .text (.defaulted "")
    (.cons "prerequisiteGaps" .text (.defaulted "")
    (.cons "curriculumContext" .text (.optional true) .nil))))))
    (fun (domain, topic, understanding, misconceptions, gaps, context?, ()) =>
      ⟨domain, topic, understanding, misconceptions, gaps, context?⟩)
    (fun ⟨domain, topic, understanding, misconceptions, gaps, context?⟩ =>
      (domain, topic, understanding, misconceptions, gaps, context?, ()))
    fun _ => rfl

def Cognition.shape : Shape Cognition :=
  .record "CognitiveProfile"
    (.cons "priorKnowledgeLevel" (Named.shape PriorKnowledge) .required
    (.cons "workingMemoryLoad" (Named.shape WorkingMemory) .required
    (.cons "metacognitiveAwareness" (Named.shape Metacognition) .required
    (.cons "learningPreferences" (.list (Named.shape Preference)) (.defaulted []) .nil))))
    (fun (prior, memory, metacognition, preferences, ()) =>
      ⟨prior, memory, metacognition, preferences⟩)
    (fun ⟨prior, memory, metacognition, preferences⟩ =>
      (prior, memory, metacognition, preferences, ()))
    fun _ => rfl

def Motivation.shape : Shape Motivation :=
  .record "MotivationAffect"
    (.cons "engagementLevel" (Named.shape Engagement) .required
    (.cons "selfEfficacy" (Named.shape Efficacy) .required
    (.cons "goalOrientation" (Named.shape Goal) .required
    (.cons "frustrationThreshold" (Named.shape Tolerance) .required .nil))))
    (fun (engagement, efficacy, goal, tolerance, ()) =>
      ⟨engagement, efficacy, goal, tolerance⟩)
    (fun ⟨engagement, efficacy, goal, tolerance⟩ =>
      (engagement, efficacy, goal, tolerance, ()))
    fun _ => rfl

def Communication.shape : Shape Communication :=
  .record "CommunicationStyle"
    (.cons "verbosity" (Named.shape Verbosity) .required
    (.cons "helpSeeking" (Named.shape HelpSeeking) .required
    (.cons "responseToBeingWrong" (Named.shape Correction) .required
    (.cons "languageRegister" (Named.shape Register) .required .nil))))
    (fun (verbosity, helpSeeking, correction, register, ()) =>
      ⟨verbosity, helpSeeking, correction, register⟩)
    (fun ⟨verbosity, helpSeeking, correction, register⟩ =>
      (verbosity, helpSeeking, correction, register, ()))
    fun _ => rfl

def Profile.shape : Shape Profile :=
  .record "LearnerProfile"
    (.cons "id" .text .required
    (.cons "name" .text (.optional true)
    (.cons "archetypeId" (Named.shape Preset) (.optional true)
    (.cons "knowledgeState" Knowledge.shape (.defaulted {})
    (.cons "cognitiveProfile" Cognition.shape .required
    (.cons "motivationAffect" Motivation.shape .required
    (.cons "communicationStyle" Communication.shape .required .nil)))))))
    (fun (id, name?, preset?, knowledge, cognition, motivation, communication, ()) =>
      ⟨id, name?, preset?, knowledge, cognition, motivation, communication⟩)
    (fun ⟨id, name?, preset?, knowledge, cognition, motivation, communication⟩ =>
      (id, name?, preset?, knowledge, cognition, motivation, communication, ()))
    fun _ => rfl

/-! ## Patches -/

def KnowledgePatch.shape : Shape KnowledgePatch :=
  .record "KnowledgeStatePatch"
    (.cons "domain" .text (.optional false)
    (.cons "topic" .text (.optional false)
    (.cons "partialUnderstanding" .text (.optional false)
    (.cons "misconceptions" .text (.optional false)
    (.cons "prerequisiteGaps" .text (.optional false)
    (.cons "curriculumContext" .text (.optional false) .nil))))))
    (fun (domain?, topic?, understanding?, misconceptions?, gaps?, context?, ()) =>
      ⟨domain?, topic?, understanding?, misconceptions?, gaps?, context?⟩)
    (fun ⟨domain?, topic?, understanding?, misconceptions?, gaps?, context?⟩ =>
      (domain?, topic?, understanding?, misconceptions?, gaps?, context?, ()))
    fun _ => rfl

def CognitionPatch.shape : Shape CognitionPatch :=
  .record "CognitiveProfilePatch"
    (.cons "priorKnowledgeLevel" (Named.shape PriorKnowledge) (.optional false)
    (.cons "workingMemoryLoad" (Named.shape WorkingMemory) (.optional false)
    (.cons "metacognitiveAwareness" (Named.shape Metacognition) (.optional false)
    (.cons "learningPreferences" (.list (Named.shape Preference)) (.optional false) .nil))))
    (fun (prior?, memory?, metacognition?, preferences?, ()) =>
      ⟨prior?, memory?, metacognition?, preferences?⟩)
    (fun ⟨prior?, memory?, metacognition?, preferences?⟩ =>
      (prior?, memory?, metacognition?, preferences?, ()))
    fun _ => rfl

def MotivationPatch.shape : Shape MotivationPatch :=
  .record "MotivationAffectPatch"
    (.cons "engagementLevel" (Named.shape Engagement) (.optional false)
    (.cons "selfEfficacy" (Named.shape Efficacy) (.optional false)
    (.cons "goalOrientation" (Named.shape Goal) (.optional false)
    (.cons "frustrationThreshold" (Named.shape Tolerance) (.optional false) .nil))))
    (fun (engagement?, efficacy?, goal?, tolerance?, ()) =>
      ⟨engagement?, efficacy?, goal?, tolerance?⟩)
    (fun ⟨engagement?, efficacy?, goal?, tolerance?⟩ =>
      (engagement?, efficacy?, goal?, tolerance?, ()))
    fun _ => rfl

def CommunicationPatch.shape : Shape CommunicationPatch :=
  .record "CommunicationStylePatch"
    (.cons "verbosity" (Named.shape Verbosity) (.optional false)
    (.cons "helpSeeking" (Named.shape HelpSeeking) (.optional false)
    (.cons "responseToBeingWrong" (Named.shape Correction) (.optional false)
    (.cons "languageRegister" (Named.shape Register) (.optional false) .nil))))
    (fun (verbosity?, helpSeeking?, correction?, register?, ()) =>
      ⟨verbosity?, helpSeeking?, correction?, register?⟩)
    (fun ⟨verbosity?, helpSeeking?, correction?, register?⟩ =>
      (verbosity?, helpSeeking?, correction?, register?, ()))
    fun _ => rfl

def ProfilePatch.shape : Shape ProfilePatch :=
  .record "ProfilePatch"
    (.cons "name" .text (.optional false)
    (.cons "knowledgeState" KnowledgePatch.shape (.optional false)
    (.cons "cognitiveProfile" CognitionPatch.shape (.optional false)
    (.cons "motivationAffect" MotivationPatch.shape (.optional false)
    (.cons "communicationStyle" CommunicationPatch.shape (.optional false) .nil)))))
    (fun (name?, knowledge?, cognition?, motivation?, communication?, ()) =>
      ⟨name?, knowledge?, cognition?, motivation?, communication?⟩)
    (fun ⟨name?, knowledge?, cognition?, motivation?, communication?⟩ =>
      (name?, knowledge?, cognition?, motivation?, communication?, ()))
    fun _ => rfl

/-! ## Personas -/

def Sections.shape : Shape Sections :=
  .record "PromptSections"
    (.cons "knowledgeState" .text .required
    (.cons "cognitiveProfile" .text .required
    (.cons "motivationAffect" .text .required
    (.cons "communicationStyle" .text .required
    (.cons "traitResolutions" .text .required
    (.cons "innerMonologue" .text .required
    (.cons "escapeValves" .text .required .nil)))))))
    (fun (knowledge, cognition, motivation, communication, tensions, voice, boundaries, ()) =>
      ⟨knowledge, cognition, motivation, communication, tensions, voice, boundaries⟩)
    (fun ⟨knowledge, cognition, motivation, communication, tensions, voice, boundaries⟩ =>
      (knowledge, cognition, motivation, communication, tensions, voice, boundaries, ()))
    fun _ => rfl

def Persona.shape : Shape Persona :=
  .record "PersonaResponse"
    (.cons "systemPrompt" .text .required
    (.cons "promptSections" Sections.shape .required .nil))
    (fun (prompt, sections, ()) => ⟨prompt, sections⟩)
    (fun ⟨prompt, sections⟩ => (prompt, sections, ()))
    fun _ => rfl

/-- A request to compile a profile; whether it holds one is for the compiler to ask. -/
structure PersonaRequest where
  profile? : Option Profile := none
  deriving DecidableEq, Repr

def PersonaRequest.shape : Shape PersonaRequest :=
  .record "PersonaRequest"
    (.cons "profile" Profile.shape (.optional false) .nil)
    (fun (profile?, ()) => ⟨profile?⟩)
    (fun ⟨profile?⟩ => (profile?, ()))
    fun _ => rfl

/-! ## Conversations -/

def ChatMessage.shape : Shape ChatMessage :=
  .record "ChatMessage"
    (.cons "role" (Named.shape ChatRole) .required (.cons "content" .text .required .nil))
    (fun (role, content, ()) => ⟨role, content⟩)
    (fun ⟨role, content⟩ => (role, content, ()))
    fun _ => rfl

def Chat.shape : Shape Chat :=
  .record "ChatRequest"
    (.cons "systemPrompt" .text (.defaulted "")
    (.cons "messages" (.list ChatMessage.shape) (.defaulted []) .nil))
    (fun (prompt, messages, ()) => ⟨prompt, messages⟩)
    (fun ⟨prompt, messages⟩ => (prompt, messages, ()))
    fun _ => rfl

def GenerationRequest.shape : Shape GenerationRequest :=
  .record "GenerationRequest"
    (.cons "system" .text .required
    (.cons "messages" (.list ChatMessage.shape) .required
    (.cons "maxTokens" .word .required .nil)))
    (fun (system, messages, maxTokens, ()) => ⟨system, messages, maxTokens⟩)
    (fun ⟨system, messages, maxTokens⟩ => (system, messages, maxTokens, ()))
    fun _ => rfl

def Utterance.shape : Shape Utterance :=
  .record "SimulationMessage"
    (.cons "role" (Named.shape Speaker) .required (.cons "content" .text .required .nil))
    (fun (speaker, content, ()) => ⟨speaker, content⟩)
    (fun ⟨speaker, content⟩ => (speaker, content, ()))
    fun _ => rfl

namespace Cast

def fields : Fields (String × String × Unit) (Option String × Option String × Unit) :=
  .cons "learnerPrompt" .text (.defaulted "")
    (.cons "tutorPrompt" .text (.defaulted "") .nil)

def ofFields : String × String × Unit → Cast
  | (learner, tutor, ()) => ⟨learner, tutor⟩

def toFields : Cast → String × String × Unit
  | ⟨learner, tutor⟩ => (learner, tutor, ())

def shape : Shape Cast :=
  .record "AutoConversationRequest" fields ofFields toFields fun _ => rfl

end Cast

/-- The prompts stand beside the transcript, not in a member of their own. -/
def Simulation.shape : Merged Simulation where
  name := "SimulationTurnRequest"
  inner := Cast.fields
  outer := .cons "history" (.list Utterance.shape) (.defaulted []) .nil
  build | (cast, history, ()) => ⟨Cast.ofFields cast, history⟩
  parts simulation := (simulation.cast.toFields, simulation.history, ())
  build_parts _ := rfl

def Turn.shape : Shape Turn :=
  .record "SimulationTurn"
    (.cons "turn" .word .required
    (.cons "speaker" (Named.shape Speaker) .required
    (.cons "request" GenerationRequest.shape .required .nil)))
    (fun (turn, speaker, request, ()) => ⟨turn, speaker, request⟩)
    (fun ⟨turn, speaker, request⟩ => (turn, speaker, request, ()))
    fun _ => rfl

/-! ## Values that are only written -/

def Archetype.toJson (archetype : Archetype) : Json :=
  .object
    [("id", (Named.shape Preset).toJson archetype.preset),
      ("name", .string archetype.title),
      ("shortDescription", .string archetype.summary),
      ("icon", .string archetype.icon),
      ("cognitiveProfile", Cognition.shape.toJson archetype.cognition),
      ("motivationAffect", Motivation.shape.toJson archetype.motivation),
      ("communicationStyle", Communication.shape.toJson archetype.communication),
      ("behavioralNotes", .string archetype.notes)]

def Choice.toJson (choice : Choice) : Json :=
  .object
    [("value", .string choice.value), ("label", .string choice.label),
      ("description", .string choice.description)]

def Descriptor.toJson (descriptor : Descriptor) : Json :=
  .object
    [("key", .string descriptor.key),
      ("options", .array (descriptor.options.map Choice.toJson))]

def Store.toJson (store : Store) : Json :=
  .object
    [("profile", Profile.shape.toJson store.profile),
      ("generated", store.compiled?.elim .null Persona.shape.toJson)]

end LearnerPersona
