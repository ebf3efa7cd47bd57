import LearnerPersona.Dimension.Basic

/-!
# Learner profiles

A profile is the only input of the prompt compiler: free text about what the
learner knows, and one value for each dimension.  An absent text and an empty
one say the same thing; the accessors ending in `Text?` treat them alike.
-/

namespace LearnerPersona

/-! ## Presets -/

inductive Preset where
  | confidentButWrong | eagerNovice | silentStruggler | gradeOptimizer
  | capableButDisengaged | anxiousPerfectionist | eslLearner
  deriving DecidableEq, Repr

def Preset.identifier : Preset → String
  | .confidentButWrong => "ConfidentButWrong"
  | .eagerNovice => "EagerNovice"
  | .silentStruggler => "SilentStruggler"
  | .gradeOptimizer => "GradeOptimizer"
  | .capableButDisengaged => "CapableButDisengaged"
  | .anxiousPerfectionist => "AnxiousPerfectionist"
  | .eslLearner => "EslLearner"

def Preset.wireName : Preset → String
  | .confidentButWrong => "confident-but-wrong"
  | .eagerNovice => "eager-novice"
  | .silentStruggler => "silent-struggler"
  | .gradeOptimizer => "grade-optimizer"
  | .capableButDisengaged => "capable-but-disengaged"
  | .anxiousPerfectionist => "anxious-perfectionist"
  | .eslLearner => "esl-learner"

instance : Identified Preset where
  identifier := Preset.identifier
  casing := .kebab
  values :=
    [.confidentButWrong, .eagerNovice, .silentStruggler, .gradeOptimizer,
      .capableButDisengaged, .anxiousPerfectionist, .eslLearner]
  name := Preset.wireName
  mem_values value := by cases value <;> decide
  name_injective left right := by cases left <;> cases right <;> decide
  written_injective left right := by cases left <;> cases right <;> decide

/-! ## Parts of a profile -/

/-- The text, unless it is absent or empty. -/
def nonEmpty? (text? : Option String) : Option String :=
  text?.filter fun text => !text.isEmpty

structure Knowledge where
  domain : String := ""
  topic : String := ""
  understanding : String := ""
  misconceptions : String := ""
  gaps : String := ""
  context? : Option String := none
  deriving DecidableEq, Repr

namespace Knowledge

def contextText? (knowledge : Knowledge) : Option String := nonEmpty? knowledge.context?

def isBlank (knowledge : Knowledge) : Bool :=
  knowledge.domain.isEmpty && knowledge.topic.isEmpty && knowledge.understanding.isEmpty &&
    knowledge.misconceptions.isEmpty && knowledge.gaps.isEmpty &&
    knowledge.contextText?.isNone

end Knowledge

/-- How the learner thinks.  Preferences keep their order and repetitions. -/
structure Cognition where
  priorKnowledge : PriorKnowledge := .developing
  workingMemory : WorkingMemory := .moderate
  metacognition : Metacognition := .emerging
  preferences : List Preference := [.examples]
  deriving DecidableEq, Repr

structure Motivation where
  engagement : Engagement := .compliant
  efficacy : Efficacy := .uncertain
  goal : Goal := .taskCompleting
  tolerance : Tolerance := .moderate
  deriving DecidableEq, Repr

structure Communication where
  verbosity : Verbosity := .conversational
  helpSeeking : HelpSeeking := .waitsToBeAsked
  correction : Correction := .receptive
  register : Register := .casual
  deriving DecidableEq, Repr

/-! ## The whole profile -/

/-- A complete learner profile.  The identifier is never interpreted, and the
preset only records where the values came from. -/
structure Profile where
  id : String
  name? : Option String := none
  preset? : Option Preset := none
  knowledge : Knowledge := {}
  cognition : Cognition := {}
  motivation : Motivation := {}
  communication : Communication := {}
  deriving DecidableEq, Repr

namespace Profile

def blank (id : String) : Profile := { id }

def displayName? (profile : Profile) : Option String := nonEmpty? profile.name?

end Profile

end LearnerPersona
