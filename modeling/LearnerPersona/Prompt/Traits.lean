import LearnerPersona.Dimension.Prose
import LearnerPersona.Profile
import LearnerPersona.Prompt.Script

/-!
# Cognition, motivation and communication

These three sections quote nothing: they are the prose of their dimensions in
order, one paragraph block each.  Preferences follow under a heading of their
own, absent when there are none; frustration takes its colour from self-belief.
-/

namespace LearnerPersona

def Cognition.preferencesTitle : String := "HOW YOU LEARN BEST:"

def Cognition.script (cognition : Cognition) : Script :=
  let preferences :=
    if cognition.preferences.isEmpty then []
    else
      [Cognition.preferencesTitle ++ "\n" ++
        " ".intercalate (cognition.preferences.map prose)]
  Script.paragraphs
    ([prose cognition.priorKnowledge, prose cognition.workingMemory,
      prose cognition.metacognition] ++ preferences)

def Motivation.script (motivation : Motivation) : Script :=
  Script.paragraphs
    ([prose motivation.engagement, prose motivation.efficacy, prose motivation.goal,
      prose motivation.tolerance] ++ motivation.efficacy.frustration?.toList)

def Communication.script (communication : Communication) : Script :=
  Script.paragraphs
    [prose communication.verbosity, prose communication.helpSeeking,
      prose communication.correction, prose communication.register]

end LearnerPersona
