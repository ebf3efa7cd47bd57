import LearnerPersona.Profile

/-!
# Partial edits

A patch names new values for some fields of a profile and leaves the others as
they are.  The parts of a combined patch touch disjoint fields.
-/

namespace LearnerPersona

/-! ## Patches of the parts -/

structure KnowledgePatch where
  domain? : Option String := none
  topic? : Option String := none
  understanding? : Option String := none
  misconceptions? : Option String := none
  gaps? : Option String := none
  context? : Option String := none
  deriving DecidableEq, Repr

structure CognitionPatch where
  priorKnowledge? : Option PriorKnowledge := none
  workingMemory? : Option WorkingMemory := none
  metacognition? : Option Metacognition := none
  preferences? : Option (List Preference) := none
  deriving DecidableEq, Repr

structure MotivationPatch where
  engagement? : Option Engagement := none
  efficacy? : Option Efficacy := none
  goal? : Option Goal := none
  tolerance? : Option Tolerance := none
  deriving DecidableEq, Repr

structure CommunicationPatch where
  verbosity? : Option Verbosity := none
  helpSeeking? : Option HelpSeeking := none
  correction? : Option Correction := none
  register? : Option Register := none
  deriving DecidableEq, Repr

structure ProfilePatch where
  name? : Option String := none
  knowledge? : Option KnowledgePatch := none
  cognition? : Option CognitionPatch := none
  motivation? : Option MotivationPatch := none
  communication? : Option CommunicationPatch := none
  deriving DecidableEq, Repr

/-! ## Patching -/

/-- A context can be replaced but not removed. -/
def Knowledge.patch (knowledge : Knowledge) (patch : KnowledgePatch) : Knowledge where
  domain := patch.domain?.getD knowledge.domain
  topic := patch.topic?.getD knowledge.topic
  understanding := patch.understanding?.getD knowledge.understanding
  misconceptions := patch.misconceptions?.getD knowledge.misconceptions
  gaps := patch.gaps?.getD knowledge.gaps
  context? := patch.context?.orElse fun _ => knowledge.context?

def Cognition.patch (cognition : Cognition) (patch : CognitionPatch) : Cognition where
  priorKnowledge := patch.priorKnowledge?.getD cognition.priorKnowledge
  workingMemory := patch.workingMemory?.getD cognition.workingMemory
  metacognition := patch.metacognition?.getD cognition.metacognition
  preferences := patch.preferences?.getD cognition.preferences

def Motivation.patch (motivation : Motivation) (patch : MotivationPatch) : Motivation where
  engagement := patch.engagement?.getD motivation.engagement
  efficacy := patch.efficacy?.getD motivation.efficacy
  goal := patch.goal?.getD motivation.goal
  tolerance := patch.tolerance?.getD motivation.tolerance

def Communication.patch (communication : Communication) (patch : CommunicationPatch) :
    Communication where
  verbosity := patch.verbosity?.getD communication.verbosity
  helpSeeking := patch.helpSeeking?.getD communication.helpSeeking
  correction := patch.correction?.getD communication.correction
  register := patch.register?.getD communication.register

end LearnerPersona
