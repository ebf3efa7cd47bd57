import LearnerPersona.Profile
import LearnerPersona.Prompt.Script

/-!
# What the learner knows

Each field of the knowledge that carries text yields one block, which quotes the
text verbatim; fields without text yield nothing.  A learner of whom nothing is
known gets one generic paragraph instead, so the section is never empty.
-/

namespace LearnerPersona

namespace Knowledge

/-! ## Fixed prose -/

def genericLearner : String :=
  "You are a student. The specific domain hasn't been defined, so you're a general learner " ++
  "who responds naturally to whatever topic comes up in conversation. You have a mix of " ++
  "knowledge and gaps typical of your cognitive and motivation profile."

/-- Accompanies every misconception: wrong answers are to follow from the flawed model. -/
def resistAccuracy : String :=
  "CRITICAL — RESIST HYPER-ACCURACY:\n" ++
  "You MUST produce wrong answers when your misconceptions are relevant. Do NOT self-correct " ++
  "to the \"right\" answer. Your job is to authentically represent THIS learner's flawed " ++
  "mental model. When a question touches on your misconceptions, ask yourself: \"What answer " ++
  "would this specific flawed understanding produce?\" — then give THAT answer, not the " ++
  "correct one. The only exception: if a tutor has patiently and effectively guided you to " ++
  "reconstruct your understanding over multiple exchanges, you may begin to shift — but a " ++
  "single correction or explanation is never enough to overturn a deeply held belief."

def understandingLead : String :=
  "You have a working understanding of the following. When these come up, you can engage with " ++
  "them correctly and with reasonable confidence:"

def misconceptionLead : String :=
  "You hold the following beliefs. From your perspective, these are simply how things work — " ++
  "you learned them this way and they make sense to you:"

def misconceptionReasoning : String :=
  "When working through problems, your reasoning follows from these beliefs. Your answers " ++
  "aren't random guesses — they're logical conclusions from your (flawed) mental model. If " ++
  "someone asks you to explain your thinking, you can articulate why you believe what you " ++
  "believe."

def misconceptionCertainty : String :=
  "IMPORTANT: You don't know these beliefs are wrong. To you, they feel correct and obvious. " ++
  "When you use them in reasoning, you do so with the same confidence you'd apply to facts " ++
  "you know are true. You don't flag them as uncertain — they're part of your mental model."

def gapsLead : String :=
  "The following foundational concepts are shaky or missing in your understanding:"

def gapsEffect : String :=
  "When new material builds on these foundations, you either skip over the connection (not " ++
  "realizing it matters) or apply a shallow, procedural understanding that breaks down under " ++
  "pressure."

def gapsUnrecognized : String :=
  "These gaps affect your ability to learn new material that builds on these foundations. You " ++
  "may not realize these are gaps — you might think you understand the prerequisites when you " ++
  "actually have a shallow or incorrect understanding of them."

/-! ## Blocks -/

/-- The subject under study: the domain, the topic, or both. -/
def subjectBlock? (knowledge : Knowledge) : Option Script :=
  if knowledge.domain.isEmpty && knowledge.topic.isEmpty then none
  else
    let domain : Piece :=
      if knowledge.domain.isEmpty then .prose "a subject" else .verbatim knowledge.domain
    let topic : Script :=
      if knowledge.topic.isEmpty then []
      else [.prose ", specifically: ", .verbatim knowledge.topic]
    some (.prose "You are studying " :: domain :: topic ++ [.prose "."])

def understandingBlock? (knowledge : Knowledge) : Option Script :=
  if knowledge.understanding.isEmpty then none
  else
    some
      [.prose ("WHAT YOU DO UNDERSTAND:\n" ++ understandingLead ++ "\n"),
        .verbatim knowledge.understanding]

def misconceptionsBlock? (knowledge : Knowledge) : Option Script :=
  if knowledge.misconceptions.isEmpty then none
  else
    some
      [.prose ("WHAT YOU BELIEVE (that is actually wrong):\n" ++ misconceptionLead ++ "\n"),
        .verbatim knowledge.misconceptions,
        .prose ("\n\n" ++ misconceptionReasoning ++ "\n\n" ++ resistAccuracy ++ "\n\n" ++
          misconceptionCertainty)]

def gapsBlock? (knowledge : Knowledge) : Option Script :=
  if knowledge.gaps.isEmpty then none
  else
    some
      [.prose ("FOUNDATIONS YOU'RE MISSING:\n" ++ gapsLead ++ "\n"),
        .verbatim knowledge.gaps,
        .prose ("\n\n" ++ gapsEffect ++ "\n\n" ++ gapsUnrecognized)]

def contextBlock? (knowledge : Knowledge) : Option Script :=
  knowledge.contextText?.map fun context =>
    [.prose "ADDITIONAL CONTEXT ABOUT WHAT YOU'RE LEARNING:\n", .verbatim context]

def blocks (knowledge : Knowledge) : List Script :=
  [knowledge.subjectBlock?, knowledge.understandingBlock?, knowledge.misconceptionsBlock?,
    knowledge.gapsBlock?, knowledge.contextBlock?].filterMap id

def script (knowledge : Knowledge) : Script :=
  match knowledge.blocks with
  | [] => [.prose genericLearner]
  | blocks => Script.blocks blocks

end Knowledge

end LearnerPersona
