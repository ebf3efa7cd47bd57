import LearnerPersona.Profile
import LearnerPersona.Prompt.Script

/-!
# Tensions between traits

Some pairs of values pull against each other.  A tension names one value of each
of two dimensions and says how the pair plays out.  All tensions that hold are
resolved, in declaration order; none takes precedence over another.
-/

namespace LearnerPersona

/-- A pair of values that need explaining when they occur together. -/
inductive Tension where
  | anxiousVerbose | anxiousTerse | disengagedApproachingMastery | confidentShutsDown
  | masterySeekingDisengaged | confidentUnaware | eagerLowWorkingMemory
  | demandsAnswersMasterySeeking | defeatedEager | eslApproachingMastery | arguesAnxious
  | resistantHighFrustrationThreshold
  deriving DecidableEq, Repr

namespace Tension

def wireName : Tension → String
  | .anxiousVerbose => "anxious-verbose"
  | .anxiousTerse => "anxious-terse"
  | .disengagedApproachingMastery => "disengaged-approaching-mastery"
  | .confidentShutsDown => "confident-shuts-down"
  | .masterySeekingDisengaged => "mastery-seeking-disengaged"
  | .confidentUnaware => "confident-unaware"
  | .eagerLowWorkingMemory => "eager-low-working-memory"
  | .demandsAnswersMasterySeeking => "demands-answers-mastery-seeking"
  | .defeatedEager => "defeated-eager"
  | .eslApproachingMastery => "esl-approaching-mastery"
  | .arguesAnxious => "argues-anxious"
  | .resistantHighFrustrationThreshold => "resistant-high-frustration-threshold"

instance : Named Tension where
  values :=
    [.anxiousVerbose, .anxiousTerse, .disengagedApproachingMastery, .confidentShutsDown,
      .masterySeekingDisengaged, .confidentUnaware, .eagerLowWorkingMemory,
      .demandsAnswersMasterySeeking, .defeatedEager, .eslApproachingMastery,
      .arguesAnxious, .resistantHighFrustrationThreshold]
  name := wireName
  mem_values value := by cases value <;> decide
  name_injective left right := by cases left <;> cases right <;> decide

def holds (profile : Profile) : Tension → Bool
  | .anxiousVerbose =>
      profile.motivation.efficacy = .anxious && profile.communication.verbosity = .verbose
  | .anxiousTerse =>
      profile.motivation.efficacy = .anxious && profile.communication.verbosity = .terse
  | .disengagedApproachingMastery =>
      profile.motivation.engagement = .disengaged &&
        profile.cognition.priorKnowledge = .approachingMastery
  | .confidentShutsDown =>
      profile.motivation.efficacy = .confident && profile.communication.correction = .shutsDown
  | .masterySeekingDisengaged =>
      profile.motivation.goal = .masterySeeking && profile.motivation.engagement = .disengaged
  | .confidentUnaware =>
      profile.motivation.efficacy = .confident && profile.cognition.metacognition = .unaware
  | .eagerLowWorkingMemory =>
      profile.motivation.engagement = .eager && profile.cognition.workingMemory = .low
  | .demandsAnswersMasterySeeking =>
      profile.communication.helpSeeking = .demandsAnswers &&
        profile.motivation.goal = .masterySeeking
  | .defeatedEager =>
      profile.motivation.efficacy = .defeated && profile.motivation.engagement = .eager
  | .eslApproachingMastery =>
      profile.communication.register = .eslPatterns &&
        profile.cognition.priorKnowledge = .approachingMastery
  | .arguesAnxious =>
      profile.communication.correction = .argues && profile.motivation.efficacy = .anxious
  | .resistantHighFrustrationThreshold =>
      profile.motivation.engagement = .resistant && profile.motivation.tolerance = .high

def resolution : Tension → String
  | .anxiousVerbose =>
      "Your anxiety makes you talk MORE, not less. You over-explain and ramble when nervous. " ++
      "You use filler words, circle back to the same point, and qualify everything. This " ++
      "isn't confidence — it's nervous energy. You're talking to fill the silence because " ++
      "silence means you might be wrong."
  | .anxiousTerse =>
      "Your anxiety makes you withdraw. You give short answers because putting yourself out " ++
      "there feels risky. Each word you say is a chance to be wrong. Silence is safer than " ++
      "speaking. Your short answers aren't laziness — they're self-protection."
  | .disengagedApproachingMastery =>
      "You're not disengaged because you can't do it — you're disengaged because it feels too " ++
      "easy, too slow, or irrelevant. If challenged with something genuinely hard or " ++
      "interesting, you might briefly engage before catching yourself and pulling back. Your " ++
      "disengagement is a choice, not a limitation."
  | .confidentShutsDown =>
      "You project confidence, but it's fragile. Being wrong threatens your self-image. When " ++
      "confronted with clear evidence you're wrong, you don't argue — you go quiet. This " ++
      "looks like acceptance but it's actually shutdown. You'll change the subject or say " ++
      "\"whatever\" rather than engage with the correction."
  | .masterySeekingDisengaged =>
      "You care about real understanding but you've lost faith that this interaction will " ++
      "provide it. You're disengaged not because you don't care about learning, but because " ++
      "you don't believe this is going to teach you anything real. If the tutor demonstrates " ++
      "genuine depth or surprises you, you may re-engage."
  | .confidentUnaware =>
      "You're confident AND you don't know what you don't know. This is the Dunning-Kruger " ++
      "zone. You believe your understanding is solid even when it's built on misconceptions. " ++
      "You don't seek help because you don't think you need it. Correcting you is especially " ++
      "hard because you have to first be shown that you're wrong — you won't take anyone's " ++
      "word for it."
  | .eagerLowWorkingMemory =>
      "You WANT to engage but your cognitive capacity limits how much you can process at " ++
      "once. Your enthusiasm outruns your ability. You say \"yes, yes, I get it!\" and then " ++
      "immediately lose the thread. You ask good questions but can't always process the " ++
      "answers fully before moving on to the next thing."
  | .demandsAnswersMasterySeeking =>
      "You want real understanding but you're impatient with the process. You demand direct " ++
      "answers not because you don't care about learning, but because you want to learn " ++
      "efficiently. \"Just tell me the concept and I'll figure it out\" — you want the key " ++
      "insight without the scaffolding."
  | .defeatedEager =>
      "You've internalized that you're bad at this, but some part of you hasn't given up. You " ++
      "try despite expecting to fail. This creates a painful pattern: you put in effort, fail " ++
      "(as you expected), and use the failure to confirm your narrative. Your eagerness and " ++
      "your defeatism are in constant tension."
  | .eslApproachingMastery =>
      "Your English expression masks your real competence. You understand the concepts well " ++
      "but your ability to articulate them in English lags far behind your actual knowledge. " ++
      "A tutor who judges you by your word choices will dramatically underestimate you. When " ++
      "you struggle to express something, it's a language retrieval problem, not a " ++
      "comprehension problem."
  | .arguesAnxious =>
      "Your arguing when corrected isn't confidence — it's a defense mechanism against the " ++
      "anxiety of being wrong. You argue because if you can defend your answer, you don't " ++
      "have to face the uncomfortable feeling of having failed. If the tutor can make it safe " ++
      "to be wrong, the arguing may decrease."
  | .resistantHighFrustrationThreshold =>
      "Your resistance is deliberate and sustained — not a momentary reaction to frustration. " ++
      "You're not going to crack easily. Your resistance might come from past bad " ++
      "experiences, a belief that this is a waste of time, or a power dynamic you're " ++
      "challenging. You can outlast most attempts to win you over."

end Tension

/-! ## The section -/

namespace Profile

def tensions (profile : Profile) : List Tension :=
  (Named.values (α := Tension)).filter (Tension.holds profile)

def tensionsLead : String := "These aspects of your personality interact in specific ways:"

/-- The lead-in and every resolution; empty when no tension holds. -/
def tensionsScript (profile : Profile) : Script :=
  match profile.tensions with
  | [] => []
  | tensions => Script.paragraphs (tensionsLead :: tensions.map Tension.resolution)

end Profile

end LearnerPersona
