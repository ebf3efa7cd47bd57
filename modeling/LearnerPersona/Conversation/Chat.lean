import LearnerPersona.Conversation.Request

/-!
# Interactive chat

A chat keeps its newest messages only.  Trimming is stable: what is dropped once
would have been dropped from any longer history too.
-/

namespace LearnerPersona

structure Chat where
  systemPrompt : String := ""
  messages : List ChatMessage := []
  deriving DecidableEq, Repr

namespace Chat

def messageLimit : Nat := 50

/-- How close to the limit a reader is warned. -/
def warningMargin : Nat := 10

def answerTokens : UInt32 := 1024

def trim (messages : List ChatMessage) : List ChatMessage :=
  messages.drop (messages.length - messageLimit)

def isNearLimit (length : Nat) : Bool := messageLimit - warningMargin < length

def toRequest (chat : Chat) : Except Refusal GenerationRequest :=
  if chat.systemPrompt.isEmpty || chat.messages.isEmpty then .error .emptyChat
  else .ok ⟨chat.systemPrompt, trim chat.messages, answerTokens⟩

end Chat

end LearnerPersona
