import LearnerPersona.Dimension.Basic

/-!
# Requests to a text generator

Nothing here talks to a generator.  A conversation is shaped into one request: a
system prompt, messages tagged by role, and a bound on the length of the answer.
A conversation that cannot be shaped is refused with a reason.
-/

namespace LearnerPersona

/-! ## Chat messages -/

inductive ChatRole where
  | user | assistant
  deriving DecidableEq, Repr

def ChatRole.identifier : ChatRole → String
  | .user => "User"
  | .assistant => "Assistant"

instance : Identified ChatRole where
  values := [.user, .assistant]
  identifier := ChatRole.identifier
  casing := .lower
  name value := Text.Casing.lower.apply value.identifier
  mem_values value := by cases value <;> decide
  name_injective left right := by cases left <;> cases right <;> decide
  written_injective left right := by cases left <;> cases right <;> decide

structure ChatMessage where
  role : ChatRole
  content : String
  deriving DecidableEq, Repr

structure GenerationRequest where
  system : String
  messages : List ChatMessage
  maxTokens : UInt32
  deriving DecidableEq, Repr

/-! ## Simulated speakers -/

inductive Speaker where
  | tutor | learner
  deriving DecidableEq, Repr

def Speaker.identifier : Speaker → String
  | .tutor => "Tutor"
  | .learner => "Learner"

def Speaker.title : Speaker → String
  | .tutor => "Tutor"
  | .learner => "Learner"

instance : Identified Speaker where
  values := [.tutor, .learner]
  identifier := Speaker.identifier
  casing := .lower
  name value := Text.Casing.lower.apply value.identifier
  mem_values value := by cases value <;> decide
  name_injective left right := by cases left <;> cases right <;> decide
  written_injective left right := by cases left <;> cases right <;> decide

structure Utterance where
  speaker : Speaker
  content : String
  deriving DecidableEq, Repr

/-! ## Refusals -/

def turnLimit : UInt32 := 10

inductive Refusal where
  | emptyChat
  | emptyPrompt
  | outOfTurn (position : Nat) (expected actual : Speaker)
  | tooManyTurns
  | stated (reason : String)
  deriving DecidableEq, Repr

def Refusal.message : Refusal → String
  | .emptyChat => "systemPrompt and messages are required"
  | .emptyPrompt => "learnerPrompt and tutorPrompt are required"
  | .outOfTurn position expected actual =>
      "history turn " ++ toString position ++ " must be spoken by the " ++ expected.title ++
        ", not the " ++ actual.title
  | .tooManyTurns => "simulation is limited to " ++ toString turnLimit.toNat ++ " turns"
  | .stated reason => reason

end LearnerPersona
