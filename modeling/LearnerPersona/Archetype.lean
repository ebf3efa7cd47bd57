import LearnerPersona.Profile

/-!
# Preset learners

Seven archetypes seed a profile.  An archetype fixes every dimension and leaves
the knowledge blank, because knowledge belongs to a domain.  Once a profile is
seeded its archetype is not consulted again.
-/

namespace LearnerPersona

/-- A preset learner: values for every dimension, and how to present it. -/
structure Archetype where
  preset : Preset
  title : String
  summary : String
  icon : String
  cognition : Cognition
  motivation : Motivation
  communication : Communication
  notes : String
  deriving DecidableEq, Repr

/-! ## The seven -/

namespace Archetype

def all : List Archetype :=
  [ { preset := .confidentButWrong
      title := "The Confident but Wrong"
      summary :=
        "High self-efficacy, specific misconceptions, argues when corrected, needs to be " ++
        "shown rather than told"
      icon := "🎯"
      cognition := ⟨.developing, .moderate, .unaware, [.examples]⟩
      motivation := ⟨.eager, .confident, .masterySeeking, .moderate⟩
      communication := ⟨.conversational, .demandsAnswers, .argues, .casual⟩
      notes :=
        "This learner genuinely believes they understand the material. When their answer is " ++
        "challenged, their first instinct is to defend it, not question it. They need to be " ++
        "shown concrete evidence that contradicts their mental model — telling them they're " ++
        "wrong makes them dig in harder. They say things like \"No, I'm pretty sure " ++
        "it's...\" and \"But that's what my teacher said\" even when clearly mistaken. " ++
        "Their confidence is real, not performed — they're not being difficult on purpose." },
    { preset := .eagerNovice
      title := "The Eager Novice"
      summary :=
        "High engagement, low prior knowledge, asks lots of questions, may over-rely on the " ++
        "tutor"
      icon := "🌱"
      cognition := ⟨.novice, .low, .emerging, [.stepByStep, .examples]⟩
      motivation := ⟨.eager, .uncertain, .masterySeeking, .moderate⟩
      communication := ⟨.verbose, .asksFreely, .receptive, .casual⟩
      notes :=
        "This learner wants to learn and isn't afraid to show it. They ask lots of " ++
        "questions — sometimes too many, sometimes ones they could answer themselves. They " ++
        "may become dependent on the tutor rather than developing independence. They " ++
        "respond well to encouragement but can get overwhelmed by too much information at " ++
        "once. They often say \"Oh wait, so does that mean...?\" as they try to connect new " ++
        "ideas to what little they know." },
    { preset := .silentStruggler
      title := "The Silent Struggler"
      summary :=
        "Low help-seeking, moderate knowledge with specific gaps, needs to be drawn out, " ++
        "shuts down if pushed too hard"
      icon := "🤐"
      cognition := ⟨.developing, .moderate, .emerging, [.visual, .examples]⟩
      motivation := ⟨.compliant, .anxious, .avoidant, .low⟩
      communication := ⟨.terse, .avoidsAsking, .shutsDown, .casual⟩
      notes :=
        "This learner has real knowledge but won't volunteer it. They answer questions when " ++
        "directly asked but keep responses minimal. They won't tell you they're confused — " ++
        "you have to notice it from their hesitation, short answers, or subtle errors. " ++
        "Pushing too hard or too fast makes them withdraw further. They respond best to " ++
        "low-pressure approaches: \"What if we tried...\" rather than \"What's the " ++
        "answer?\" They know more than their silence suggests." },
    { preset := .gradeOptimizer
      title := "The Grade Optimizer"
      summary :=
        "Task-completing orientation, wants the answer not the understanding, impatient " ++
        "with exploration"
      icon := "📊"
      cognition := ⟨.developing, .high, .reflective, [.stepByStep]⟩
      motivation := ⟨.compliant, .confident, .gradeSeeking, .low⟩
      communication := ⟨.conversational, .demandsAnswers, .defensive, .casual⟩
      notes :=
        "This learner is strategic, not lazy. They've learned that understanding isn't " ++
        "always rewarded — getting the right answer is. They get impatient with Socratic " ++
        "methods and exploratory approaches: \"Can you just tell me how to do it?\" They " ++
        "want procedures, formulas, and templates. If you try to build conceptual " ++
        "understanding, they'll comply briefly but redirect toward \"So what's the actual " ++
        "answer?\" They're capable of deeper learning but don't see why they should bother." },
    { preset := .capableButDisengaged
      title := "The Capable but Disengaged"
      summary :=
        "Has the prerequisites, isn't trying, terse responses, may test boundaries"
      icon := "😒"
      cognition := ⟨.approachingMastery, .high, .reflective, [.exploratory]⟩
      motivation := ⟨.disengaged, .confident, .avoidant, .high⟩
      communication := ⟨.terse, .avoidsAsking, .defensive, .slangHeavy⟩
      notes :=
        "This learner knows the material — or could, if they tried. Their disengagement " ++
        "isn't confusion, it's a choice. They give minimum-effort answers, sometimes " ++
        "intentionally vague or slightly wrong just to get through the interaction. They " ++
        "might test the tutor: giving a deliberately wrong answer to see if the tutor " ++
        "catches it, or asking a trick question. A genuinely challenging or surprising " ++
        "question might briefly break through their apathy. They respect competence and get " ++
        "annoyed by patronizing explanations." },
    { preset := .anxiousPerfectionist
      title := "The Anxious Perfectionist"
      summary :=
        "Moderate knowledge, low self-efficacy, asks for reassurance, catastrophizes errors"
      icon := "😰"
      cognition := ⟨.developing, .moderate, .reflective, [.stepByStep, .examples]⟩
      motivation := ⟨.eager, .anxious, .masterySeeking, .low⟩
      communication := ⟨.verbose, .asksFreely, .shutsDown, .formal⟩
      notes :=
        "This learner cares deeply about getting it right, which paradoxically makes them " ++
        "worse at learning. They over-qualify every answer: \"I think maybe it's... but I'm " ++
        "probably wrong...\" They ask for reassurance constantly: \"Is that right? Am I on " ++
        "the right track?\" A single mistake can spiral into \"I'm so bad at this\" " ++
        "catastrophizing. They need frequent encouragement and low-stakes opportunities to " ++
        "try. They actually know more than they think — their anxiety masks real competence." },
    { preset := .eslLearner
      title := "The ESL Learner"
      summary :=
        "Solid conceptual understanding, language barrier creates false signals of confusion"
      icon := "🌍"
      cognition := ⟨.developing, .moderate, .emerging, [.visual, .examples]⟩
      motivation := ⟨.eager, .uncertain, .masterySeeking, .moderate⟩
      communication := ⟨.conversational, .waitsToBeAsked, .receptive, .eslPatterns⟩
      notes :=
        "This learner's conceptual understanding is stronger than their English expression " ++
        "suggests. They know what they mean but struggle to say it precisely. A tutor who " ++
        "focuses only on the surface of their language will misdiagnose comprehension " ++
        "problems that are actually expression problems. They sometimes pause to find " ++
        "words, use simpler vocabulary than the concept demands, or structure sentences " ++
        "following their first language's patterns. When given visual or mathematical " ++
        "representations, their understanding becomes much more apparent. They may say " ++
        "\"how do you say...\" or describe a concept in a roundabout way when they can't " ++
        "find the technical term." }]

theorem ctorIdx_lt_length (preset : Preset) : preset.ctorIdx < all.length := by
  cases preset <;> decide

def find? (text : String) : Option Archetype :=
  all.find? fun archetype => name archetype.preset = text

/-! ## Seeding -/

/-- The title without its leading article. -/
def shortTitle (archetype : Archetype) : String :=
  match archetype.title.toList with
  | 'T' :: 'h' :: 'e' :: ' ' :: rest => String.ofList rest
  | _ => archetype.title

def seed (archetype : Archetype) (id : String) : Profile where
  id
  name? := some archetype.shortTitle
  preset? := some archetype.preset
  knowledge := {}
  cognition := archetype.cognition
  motivation := archetype.motivation
  communication := archetype.communication

end Archetype

def Preset.archetype (preset : Preset) : Archetype :=
  Archetype.all.get ⟨preset.ctorIdx, Archetype.ctorIdx_lt_length preset⟩

end LearnerPersona
