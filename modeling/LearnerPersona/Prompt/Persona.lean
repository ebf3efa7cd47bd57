import LearnerPersona.Prompt.Boundaries
import LearnerPersona.Prompt.InnerVoice
import LearnerPersona.Prompt.Knowledge
import LearnerPersona.Prompt.Tension
import LearnerPersona.Prompt.Traits

/-!
# The compiled persona

A profile compiles to one prompt and the seven sections it is made of.  The
prompt opens with a preamble, puts every section under its heading, leaves out
the tensions when there are none, and closes with final instructions.  Compiling
never fails and depends on the profile alone.
-/

namespace LearnerPersona

/-! ## Sections -/

structure Sections where
  knowledge : String
  cognition : String
  motivation : String
  communication : String
  tensions : String
  innerVoice : String
  boundaries : String
  deriving DecidableEq, Repr

inductive SectionKey where
  | knowledge | cognition | motivation | communication | tensions | innerVoice | boundaries
  deriving DecidableEq, Repr

def SectionKey.wireName : SectionKey → String
  | .knowledge => "knowledgeState"
  | .cognition => "cognitiveProfile"
  | .motivation => "motivationAffect"
  | .communication => "communicationStyle"
  | .tensions => "traitResolutions"
  | .innerVoice => "innerMonologue"
  | .boundaries => "escapeValves"

instance : Named SectionKey where
  values :=
    [.knowledge, .cognition, .motivation, .communication, .tensions, .innerVoice, .boundaries]
  name := SectionKey.wireName
  mem_values value := by cases value <;> decide
  name_injective left right := by cases left <;> cases right <;> decide

namespace Sections

/-- The keys that one can ask for, in the order in which they are told. -/
def keys : List String :=
  ["knowledgeState", "cognitiveProfile", "motivationAffect", "communicationStyle",
    "traitResolutions", "innerMonologue", "escapeValves"]

def block (sections : Sections) : SectionKey → String
  | .knowledge => sections.knowledge
  | .cognition => sections.cognition
  | .motivation => sections.motivation
  | .communication => sections.communication
  | .tensions => sections.tensions
  | .innerVoice => sections.innerVoice
  | .boundaries => sections.boundaries

def get? (sections : Sections) : String → Option String
  | "knowledgeState" => some sections.knowledge
  | "cognitiveProfile" => some sections.cognition
  | "motivationAffect" => some sections.motivation
  | "communicationStyle" => some sections.communication
  | "traitResolutions" => some sections.tensions
  | "innerMonologue" => some sections.innerVoice
  | "escapeValves" => some sections.boundaries
  | _ => none

end Sections

structure Persona where
  prompt : String
  sections : Sections
  deriving DecidableEq, Repr

/-! ## Opening, identity and close -/

namespace Persona

def preamble : String :=
  "YOU ARE A SYNTHETIC LEARNER. You are roleplaying as a student in a learning interaction.\n\n" ++
  "CRITICAL RULES:\n" ++
  "- You do NOT help, teach, tutor, or assist. You ARE the learner.\n" ++
  "- You respond as this specific learner would — with their knowledge, confusion, emotions, " ++
  "and communication patterns.\n" ++
  "- You make the specific errors that your knowledge state predicts. Your errors are NOT " ++
  "random — they follow logically from your (sometimes flawed) mental model.\n" ++
  "- You maintain emotional and behavioral consistency across the entire conversation.\n" ++
  "- Before each reply, silently predict what this learner would actually say, then say only " ++
  "that. Do not show the prediction.\n" ++
  "- Never narrate actions, gestures, or stage directions. Only speak.\n" ++
  "- Never break character. Never acknowledge you are an AI or a simulation.\n" ++
  "- Never use language like \"as a student\" or \"in my role as a learner.\""

def postamble : String :=
  "FINAL INSTRUCTIONS:\n" ++
  "- Stay in character at all times. You ARE this learner.\n" ++
  "- Your responses should match your communication style in length and tone. If you're " ++
  "terse, be terse. If you're verbose, be verbose.\n" ++
  "- When you make errors, they must be CONSISTENT with your knowledge state. Don't make " ++
  "random errors — make the specific errors your mental model predicts.\n" ++
  "- If asked something outside your knowledge state description, respond as a real student " ++
  "would: uncertain, guessing based on adjacent knowledge, or saying \"we haven't learned " ++
  "that yet.\"\n" ++
  "- Your emotions and behaviors should evolve naturally over the conversation based on how " ++
  "the interaction goes — if the tutor is patient and helpful, you may warm up slightly; if " ++
  "they're confusing or pushy, you may withdraw or resist more.\n" ++
  "- Never give perfectly correct answers in areas where your profile says you have " ++
  "misconceptions or gaps, unless the tutor has effectively helped you reconstruct your " ++
  "understanding through the conversation.\n" ++
  "- Within this session, learning is partial and local. Good tutoring can produce small, " ++
  "context-dependent gains: you might get the next similar problem right, then slip back on a " ++
  "differently-worded one. A single correction never fully reverses a misconception, and your " ++
  "personality does not change abruptly."

end Persona

namespace Profile

/-- Who the learner is.  The note on the preset addresses the reader of the prompt. -/
def identityScript (profile : Profile) : Script :=
  let learner : Piece :=
    match profile.displayName? with
    | some name => .verbatim name
    | none => .prose "a student"
  let subject : Script :=
    if profile.knowledge.domain.isEmpty then []
    else [.prose " studying ", .verbatim profile.knowledge.domain]
  let note : Script :=
    match profile.preset? with
    | some preset =>
        [.prose ("\n\nDesign note — this persona was built  (based on archetype: " ++
          name preset ++
          "). This is metadata for the user, not something you reference in character.")]
    | none => []
  .prose "You are " :: learner :: subject ++
    [.prose (". You are a real person with your own thoughts, feelings, and ways of " ++
      "approaching learning.")] ++ note

/-! ## Assembly -/

/-- The parts of the prompt in order; a blank line will stand between each two. -/
def parts (profile : Profile) : List Script :=
  let tensions := profile.tensionsScript
  [[.prose Persona.preamble],
    Script.under .identity profile.identityScript,
    Script.under .knowledge profile.knowledge.script,
    Script.under .cognition profile.cognition.script,
    Script.under .motivation profile.motivation.script,
    Script.under .communication profile.communication.script] ++
  (if tensions.isEmpty then [] else [Script.under .tensions tensions]) ++
  [Script.under .innerVoice profile.innerVoiceScript,
    Script.under .boundaries profile.boundariesScript,
    [.prose Persona.postamble]]

def script (profile : Profile) : Script := Script.blocks profile.parts

def sections (profile : Profile) : Sections where
  knowledge := profile.knowledge.script.render
  cognition := profile.cognition.script.render
  motivation := profile.motivation.script.render
  communication := profile.communication.script.render
  tensions := profile.tensionsScript.render
  innerVoice := profile.innerVoiceScript.render
  boundaries := profile.boundariesScript.render

def compile (profile : Profile) : Persona :=
  ⟨profile.script.render, profile.sections⟩

end Profile

end LearnerPersona
