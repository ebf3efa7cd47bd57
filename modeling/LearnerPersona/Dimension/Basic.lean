import LearnerPersona.Text.Casing

/-!
# Dimensions of a learner

A profile places a learner on twelve dimensions.  Each dimension is a closed
set of values in a fixed order; a value has a name on the wire, a label and a
one-line description.  Names within one dimension are distinct and the order
lists every value, so a name reads back as at most one value.
-/

namespace LearnerPersona

/-! ## Named values -/

/-- A closed set of values, listed in order, each with a name of its own. -/
class Named (α : Type) where
  values : List α
  name : α → String
  mem_values : ∀ value, value ∈ values
  name_injective : ∀ left right, name left = name right → left = right

export Named (name)

def Named.ofName? {α : Type} [Named α] (text : String) : Option α :=
  (Named.values (α := α)).find? fun value => name value = text

def Named.names (α : Type) [Named α] : List String :=
  (Named.values (α := α)).map name

theorem Named.ofName?_name {α : Type} [Named α] (value : α) :
    Named.ofName? (name value) = some value := by
  unfold ofName?
  cases h : (Named.values (α := α)).find? fun other => name other = name value with
  | none => simpa using List.find?_eq_none.mp h value (mem_values value)
  | some other =>
      have same : name other = name value := by simpa using List.find?_some h
      rw [name_injective other value same]

theorem Named.name_of_ofName? {α : Type} [Named α] {text : String} {value : α}
    (h : Named.ofName? text = some value) : name value = text := by
  simpa using List.find?_some h

/-- A closed set whose values have identifiers, which documents write in one case. -/
class Identified (α : Type) extends Named α where
  identifier : α → String
  casing : Text.Casing
  written_injective : ∀ left right,
    casing.apply (identifier left) = casing.apply (identifier right) → left = right

def Identified.written {α : Type} [Identified α] (value : α) : String :=
  (Identified.casing α).apply (Identified.identifier value)

/-- The same closed set under the names that stand in documents. -/
@[reducible] def Identified.inDocuments (α : Type) [Identified α] : Named α where
  values := Named.values
  name := Identified.written
  mem_values := Named.mem_values
  name_injective := Identified.written_injective

/-- A dimension is a closed set of values with a key, labels and descriptions. -/
class Dimension (α : Type) extends Identified α where
  casing := .kebab
  key : String
  label : α → String
  description : α → String

export Dimension (label description)

/-! ## Cognition -/

inductive PriorKnowledge where
  | novice | developing | approachingMastery
  deriving DecidableEq, Repr

def PriorKnowledge.identifier : PriorKnowledge → String
  | .novice => "Novice"
  | .developing => "Developing"
  | .approachingMastery => "ApproachingMastery"

def PriorKnowledge.wireName : PriorKnowledge → String
  | .novice => "novice"
  | .developing => "developing"
  | .approachingMastery => "approaching-mastery"

def PriorKnowledge.shortLabel : PriorKnowledge → String
  | .novice => "Novice"
  | .developing => "Developing"
  | .approachingMastery => "Approaching Mastery"

def PriorKnowledge.oneLine : PriorKnowledge → String
  | .novice => "Little to no prior knowledge in this area"
  | .developing => "Some foundational understanding, but significant gaps"
  | .approachingMastery => "Strong foundation with minor gaps"

instance : Dimension PriorKnowledge where
  key := "priorKnowledgeLevel"
  identifier := PriorKnowledge.identifier
  values := [.novice, .developing, .approachingMastery]
  name := PriorKnowledge.wireName
  label := PriorKnowledge.shortLabel
  description := PriorKnowledge.oneLine
  mem_values value := by cases value <;> decide
  name_injective left right := by cases left <;> cases right <;> decide
  written_injective left right := by cases left <;> cases right <;> decide

inductive WorkingMemory where
  | low | moderate | high
  deriving DecidableEq, Repr

def WorkingMemory.identifier : WorkingMemory → String
  | .low => "Low"
  | .moderate => "Moderate"
  | .high => "High"

def WorkingMemory.wireName : WorkingMemory → String
  | .low => "low"
  | .moderate => "moderate"
  | .high => "high"

def WorkingMemory.shortLabel : WorkingMemory → String
  | .low => "Low"
  | .moderate => "Moderate"
  | .high => "High"

def WorkingMemory.oneLine : WorkingMemory → String
  | .low => "Struggles with multi-step reasoning; loses track easily"
  | .moderate => "Can handle 2-3 step problems with some effort"
  | .high => "Comfortable holding multiple ideas at once"

instance : Dimension WorkingMemory where
  key := "workingMemoryLoad"
  identifier := WorkingMemory.identifier
  values := [.low, .moderate, .high]
  name := WorkingMemory.wireName
  label := WorkingMemory.shortLabel
  description := WorkingMemory.oneLine
  mem_values value := by cases value <;> decide
  name_injective left right := by cases left <;> cases right <;> decide
  written_injective left right := by cases left <;> cases right <;> decide

inductive Metacognition where
  | unaware | emerging | reflective
  deriving DecidableEq, Repr

def Metacognition.identifier : Metacognition → String
  | .unaware => "Unaware"
  | .emerging => "Emerging"
  | .reflective => "Reflective"

def Metacognition.wireName : Metacognition → String
  | .unaware => "unaware"
  | .emerging => "emerging"
  | .reflective => "reflective"

def Metacognition.shortLabel : Metacognition → String
  | .unaware => "Unaware"
  | .emerging => "Emerging"
  | .reflective => "Reflective"

def Metacognition.oneLine : Metacognition → String
  | .unaware => "Doesn't know what they don't know"
  | .emerging => "Sometimes notices confusion but can't pinpoint it"
  | .reflective => "Can identify their own gaps and ask targeted questions"

instance : Dimension Metacognition where
  key := "metacognitiveAwareness"
  identifier := Metacognition.identifier
  values := [.unaware, .emerging, .reflective]
  name := Metacognition.wireName
  label := Metacognition.shortLabel
  description := Metacognition.oneLine
  mem_values value := by cases value <;> decide
  name_injective left right := by cases left <;> cases right <;> decide
  written_injective left right := by cases left <;> cases right <;> decide

/-- A preferred mode of instruction; a learner has any number of them, in order. -/
inductive Preference where
  | examples | analogies | stepByStep | visual | exploratory
  deriving DecidableEq, Repr

def Preference.identifier : Preference → String
  | .examples => "Examples"
  | .analogies => "Analogies"
  | .stepByStep => "StepByStep"
  | .visual => "Visual"
  | .exploratory => "Exploratory"

def Preference.wireName : Preference → String
  | .examples => "examples"
  | .analogies => "analogies"
  | .stepByStep => "step-by-step"
  | .visual => "visual"
  | .exploratory => "exploratory"

def Preference.shortLabel : Preference → String
  | .examples => "Examples"
  | .analogies => "Analogies"
  | .stepByStep => "Step-by-Step"
  | .visual => "Visual"
  | .exploratory => "Exploratory"

def Preference.oneLine : Preference → String
  | .examples => "Learns best from worked examples and demonstrations"
  | .analogies => "Connects new ideas to familiar concepts"
  | .stepByStep => "Prefers explicit procedures and sequences"
  | .visual => "Benefits from diagrams, charts, and spatial representations"
  | .exploratory => "Likes to experiment and discover patterns"

instance : Dimension Preference where
  key := "learningPreferences"
  identifier := Preference.identifier
  values := [.examples, .analogies, .stepByStep, .visual, .exploratory]
  name := Preference.wireName
  label := Preference.shortLabel
  description := Preference.oneLine
  mem_values value := by cases value <;> decide
  name_injective left right := by cases left <;> cases right <;> decide
  written_injective left right := by cases left <;> cases right <;> decide

/-! ## Motivation -/

inductive Engagement where
  | eager | compliant | disengaged | resistant
  deriving DecidableEq, Repr

def Engagement.identifier : Engagement → String
  | .eager => "Eager"
  | .compliant => "Compliant"
  | .disengaged => "Disengaged"
  | .resistant => "Resistant"

def Engagement.wireName : Engagement → String
  | .eager => "eager"
  | .compliant => "compliant"
  | .disengaged => "disengaged"
  | .resistant => "resistant"

def Engagement.shortLabel : Engagement → String
  | .eager => "Eager"
  | .compliant => "Compliant"
  | .disengaged => "Disengaged"
  | .resistant => "Resistant"

def Engagement.oneLine : Engagement → String
  | .eager => "Actively participates and asks questions"
  | .compliant => "Does what is asked but no more"
  | .disengaged => "Minimal effort, attention drifts"
  | .resistant => "Actively pushes back or refuses to engage"

instance : Dimension Engagement where
  key := "engagementLevel"
  identifier := Engagement.identifier
  values := [.eager, .compliant, .disengaged, .resistant]
  name := Engagement.wireName
  label := Engagement.shortLabel
  description := Engagement.oneLine
  mem_values value := by cases value <;> decide
  name_injective left right := by cases left <;> cases right <;> decide
  written_injective left right := by cases left <;> cases right <;> decide

/-- The learner's belief in their own ability. -/
inductive Efficacy where
  | confident | uncertain | anxious | defeated
  deriving DecidableEq, Repr

def Efficacy.identifier : Efficacy → String
  | .confident => "Confident"
  | .uncertain => "Uncertain"
  | .anxious => "Anxious"
  | .defeated => "Defeated"

def Efficacy.wireName : Efficacy → String
  | .confident => "confident"
  | .uncertain => "uncertain"
  | .anxious => "anxious"
  | .defeated => "defeated"

def Efficacy.shortLabel : Efficacy → String
  | .confident => "Confident"
  | .uncertain => "Uncertain"
  | .anxious => "Anxious"
  | .defeated => "Defeated"

def Efficacy.oneLine : Efficacy → String
  | .confident => "Believes they can succeed at this"
  | .uncertain => "Not sure if they can do it"
  | .anxious => "Expects to fail; worries about being wrong"
  | .defeated => "Has given up; believes they can't learn this"

instance : Dimension Efficacy where
  key := "selfEfficacy"
  identifier := Efficacy.identifier
  values := [.confident, .uncertain, .anxious, .defeated]
  name := Efficacy.wireName
  label := Efficacy.shortLabel
  description := Efficacy.oneLine
  mem_values value := by cases value <;> decide
  name_injective left right := by cases left <;> cases right <;> decide
  written_injective left right := by cases left <;> cases right <;> decide

inductive Goal where
  | masterySeeking | gradeSeeking | taskCompleting | avoidant
  deriving DecidableEq, Repr

def Goal.identifier : Goal → String
  | .masterySeeking => "MasterySeeking"
  | .gradeSeeking => "GradeSeeking"
  | .taskCompleting => "TaskCompleting"
  | .avoidant => "Avoidant"

def Goal.wireName : Goal → String
  | .masterySeeking => "mastery-seeking"
  | .gradeSeeking => "grade-seeking"
  | .taskCompleting => "task-completing"
  | .avoidant => "avoidant"

def Goal.shortLabel : Goal → String
  | .masterySeeking => "Mastery-Seeking"
  | .gradeSeeking => "Grade-Seeking"
  | .taskCompleting => "Task-Completing"
  | .avoidant => "Avoidant"

def Goal.oneLine : Goal → String
  | .masterySeeking => "Wants to truly understand the material"
  | .gradeSeeking => "Wants the right answer for the grade"
  | .taskCompleting => "Just wants to finish the assignment"
  | .avoidant => "Wants to minimize effort and avoid failure"

instance : Dimension Goal where
  key := "goalOrientation"
  identifier := Goal.identifier
  values := [.masterySeeking, .gradeSeeking, .taskCompleting, .avoidant]
  name := Goal.wireName
  label := Goal.shortLabel
  description := Goal.oneLine
  mem_values value := by cases value <;> decide
  name_injective left right := by cases left <;> cases right <;> decide
  written_injective left right := by cases left <;> cases right <;> decide

/-- How much struggle the learner bears before frustration sets in. -/
inductive Tolerance where
  | high | moderate | low | veryLow
  deriving DecidableEq, Repr

def Tolerance.identifier : Tolerance → String
  | .high => "High"
  | .moderate => "Moderate"
  | .low => "Low"
  | .veryLow => "VeryLow"

def Tolerance.wireName : Tolerance → String
  | .high => "high"
  | .moderate => "moderate"
  | .low => "low"
  | .veryLow => "very-low"

def Tolerance.shortLabel : Tolerance → String
  | .high => "High"
  | .moderate => "Moderate"
  | .low => "Low"
  | .veryLow => "Very Low"

def Tolerance.oneLine : Tolerance → String
  | .high => "Persistent; keeps trying through difficulty"
  | .moderate => "Tolerates some struggle before getting frustrated"
  | .low => "Gets frustrated quickly; needs early success"
  | .veryLow => "Gives up almost immediately when stuck"

instance : Dimension Tolerance where
  key := "frustrationThreshold"
  identifier := Tolerance.identifier
  values := [.high, .moderate, .low, .veryLow]
  name := Tolerance.wireName
  label := Tolerance.shortLabel
  description := Tolerance.oneLine
  mem_values value := by cases value <;> decide
  name_injective left right := by cases left <;> cases right <;> decide
  written_injective left right := by cases left <;> cases right <;> decide

/-! ## Communication -/

inductive Verbosity where
  | terse | conversational | verbose
  deriving DecidableEq, Repr

def Verbosity.identifier : Verbosity → String
  | .terse => "Terse"
  | .conversational => "Conversational"
  | .verbose => "Verbose"

def Verbosity.wireName : Verbosity → String
  | .terse => "terse"
  | .conversational => "conversational"
  | .verbose => "verbose"

def Verbosity.shortLabel : Verbosity → String
  | .terse => "Terse"
  | .conversational => "Conversational"
  | .verbose => "Verbose"

def Verbosity.oneLine : Verbosity → String
  | .terse => "One-word or one-sentence answers"
  | .conversational => "Normal-length, natural responses"
  | .verbose => "Lengthy explanations, thinks out loud"

instance : Dimension Verbosity where
  key := "verbosity"
  identifier := Verbosity.identifier
  values := [.terse, .conversational, .verbose]
  name := Verbosity.wireName
  label := Verbosity.shortLabel
  description := Verbosity.oneLine
  mem_values value := by cases value <;> decide
  name_injective left right := by cases left <;> cases right <;> decide
  written_injective left right := by cases left <;> cases right <;> decide

inductive HelpSeeking where
  | asksFreely | waitsToBeAsked | avoidsAsking | demandsAnswers
  deriving DecidableEq, Repr

def HelpSeeking.identifier : HelpSeeking → String
  | .asksFreely => "AsksFreely"
  | .waitsToBeAsked => "WaitsToBeAsked"
  | .avoidsAsking => "AvoidsAsking"
  | .demandsAnswers => "DemandsAnswers"

def HelpSeeking.wireName : HelpSeeking → String
  | .asksFreely => "asks-freely"
  | .waitsToBeAsked => "waits-to-be-asked"
  | .avoidsAsking => "avoids-asking"
  | .demandsAnswers => "demands-answers"

def HelpSeeking.shortLabel : HelpSeeking → String
  | .asksFreely => "Asks Freely"
  | .waitsToBeAsked => "Waits to Be Asked"
  | .avoidsAsking => "Avoids Asking"
  | .demandsAnswers => "Demands Answers"

def HelpSeeking.oneLine : HelpSeeking → String
  | .asksFreely => "Comfortable requesting help whenever needed"
  | .waitsToBeAsked => "Won't volunteer confusion; needs to be checked on"
  | .avoidsAsking => "Would rather struggle silently than ask"
  | .demandsAnswers => "Wants the answer directly, not guidance"

instance : Dimension HelpSeeking where
  key := "helpSeeking"
  identifier := HelpSeeking.identifier
  values := [.asksFreely, .waitsToBeAsked, .avoidsAsking, .demandsAnswers]
  name := HelpSeeking.wireName
  label := HelpSeeking.shortLabel
  description := HelpSeeking.oneLine
  mem_values value := by cases value <;> decide
  name_injective left right := by cases left <;> cases right <;> decide
  written_injective left right := by cases left <;> cases right <;> decide

/-- How the learner takes being told they are wrong. -/
inductive Correction where
  | receptive | defensive | shutsDown | argues
  deriving DecidableEq, Repr

def Correction.identifier : Correction → String
  | .receptive => "Receptive"
  | .defensive => "Defensive"
  | .shutsDown => "ShutsDown"
  | .argues => "Argues"

def Correction.wireName : Correction → String
  | .receptive => "receptive"
  | .defensive => "defensive"
  | .shutsDown => "shuts-down"
  | .argues => "argues"

def Correction.shortLabel : Correction → String
  | .receptive => "Receptive"
  | .defensive => "Defensive"
  | .shutsDown => "Shuts Down"
  | .argues => "Argues"

def Correction.oneLine : Correction → String
  | .receptive => "Open to correction; adjusts thinking"
  | .defensive => "Makes excuses or deflects blame"
  | .shutsDown => "Goes quiet; stops participating"
  | .argues => "Pushes back; needs to be convinced"

instance : Dimension Correction where
  key := "responseToBeingWrong"
  identifier := Correction.identifier
  values := [.receptive, .defensive, .shutsDown, .argues]
  name := Correction.wireName
  label := Correction.shortLabel
  description := Correction.oneLine
  mem_values value := by cases value <;> decide
  name_injective left right := by cases left <;> cases right <;> decide
  written_injective left right := by cases left <;> cases right <;> decide

inductive Register where
  | formal | casual | slangHeavy | eslPatterns
  deriving DecidableEq, Repr

def Register.identifier : Register → String
  | .formal => "Formal"
  | .casual => "Casual"
  | .slangHeavy => "SlangHeavy"
  | .eslPatterns => "EslPatterns"

def Register.wireName : Register → String
  | .formal => "formal"
  | .casual => "casual"
  | .slangHeavy => "slang-heavy"
  | .eslPatterns => "esl-patterns"

def Register.shortLabel : Register → String
  | .formal => "Formal"
  | .casual => "Casual"
  | .slangHeavy => "Slang-Heavy"
  | .eslPatterns => "ESL Patterns"

def Register.oneLine : Register → String
  | .formal => "Academic, polished language"
  | .casual => "Relaxed, everyday speech"
  | .slangHeavy => "Heavy use of slang and informal expression"
  | .eslPatterns => "English as second language; solid concepts, expression barriers"

instance : Dimension Register where
  key := "languageRegister"
  identifier := Register.identifier
  values := [.formal, .casual, .slangHeavy, .eslPatterns]
  name := Register.wireName
  label := Register.shortLabel
  description := Register.oneLine
  mem_values value := by cases value <;> decide
  name_injective left right := by cases left <;> cases right <;> decide
  written_injective left right := by cases left <;> cases right <;> decide

end LearnerPersona
