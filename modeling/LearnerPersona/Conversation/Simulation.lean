import LearnerPersona.Conversation.Request

/-!
# Simulated conversations

A tutor and a learner take turns over one transcript, the tutor first.  Each
speaker sees the transcript from its own side: its own turns as the assistant's,
the other's as the user's.  Turn numbers are words of 32 bits.
-/

namespace LearnerPersona

/-! ## Turns -/

def Speaker.atTurn (turn : UInt32) : Speaker :=
  if turn % 2 = 1 then .tutor else .learner

def kickoff : String :=
  "[A student has joined the tutoring session. Greet them and ask what they need help with.]"

def Speaker.view (speaker : Speaker) (history : List Utterance) : List ChatMessage :=
  match history with
  | [] => [⟨.user, kickoff⟩]
  | _ :: _ =>
      history.map fun utterance =>
        ⟨if utterance.speaker = speaker then .assistant else .user, utterance.content⟩

/-! ## The next turn -/

structure Cast where
  learnerPrompt : String := ""
  tutorPrompt : String := ""
  deriving DecidableEq, Repr

structure Simulation where
  cast : Cast := {}
  history : List Utterance := []
  deriving DecidableEq, Repr

structure Turn where
  turn : UInt32
  speaker : Speaker
  request : GenerationRequest
  deriving DecidableEq, Repr

namespace Cast

def turnTokens : UInt32 := 512

def promptOf (cast : Cast) : Speaker → String
  | .tutor => cast.tutorPrompt
  | .learner => cast.learnerPrompt

def validate (cast : Cast) : Except Refusal Unit :=
  if cast.learnerPrompt.isEmpty || cast.tutorPrompt.isEmpty then .error .emptyPrompt else .ok ()

/-- The number of the turn at an index of the transcript. -/
def turnAt (index : Nat) : UInt32 := index.toUInt32 + 1

def outOfTurn? (history : List Utterance) : Option (Utterance × Nat) :=
  history.zipIdx.find? fun (utterance, index) =>
    utterance.speaker ≠ Speaker.atTurn (turnAt index)

def nextTurn (cast : Cast) (history : List Utterance) : Except Refusal Turn := do
  cast.validate
  match outOfTurn? history with
  | some (utterance, index) =>
      throw (.outOfTurn (index + 1) (Speaker.atTurn (turnAt index)) utterance.speaker)
  | none =>
      let turn := turnAt history.length
      if turnLimit < turn then throw .tooManyTurns
      let speaker := Speaker.atTurn turn
      return ⟨turn, speaker, ⟨cast.promptOf speaker, speaker.view history, turnTokens⟩⟩

/-! ## Whole runs -/

/-- Takes turns with the given replies; the last turn has no reply yet.  A refusal
ends the run. -/
def run (cast : Cast) : List Utterance → List String → List (Except Refusal Turn)
  | history, [] => [cast.nextTurn history]
  | history, reply :: replies =>
      match cast.nextTurn history with
      | .error refusal => [.error refusal]
      | .ok turn => .ok turn :: cast.run (history ++ [⟨turn.speaker, reply⟩]) replies

end Cast

def Simulation.nextTurn (simulation : Simulation) : Except Refusal Turn :=
  simulation.cast.nextTurn simulation.history

end LearnerPersona
