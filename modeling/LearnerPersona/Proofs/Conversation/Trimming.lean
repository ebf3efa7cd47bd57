import LearnerPersona.Conversation.Chat
import Mathlib.Data.List.Infix

/-!
# Histories that are kept trimmed

The newest messages of a longer history are among the newest messages of the shorter one
and what has been added.  So whoever keeps nothing but the trimmed history sends the same
requests as one who keeps everything.
-/

namespace LearnerPersona.Chat

/-! ## Trimming -/

theorem trim_suffix (messages : List ChatMessage) : trim messages <:+ messages :=
  List.drop_suffix _ _

theorem length_trim (messages : List ChatMessage) :
    (trim messages).length = min messageLimit messages.length := by
  simp only [trim, List.length_drop]
  omega

private theorem eq_trim_of_suffix {messages part : List ChatMessage} (h : part <:+ messages)
    (hlength : part.length = min messageLimit messages.length) : part = trim messages := by
  rw [List.suffix_iff_eq_drop.mp h, trim, hlength]
  congr 1
  omega

/-- Both sides end the whole history and are equally long. -/
theorem trim_trim_append (history batch : List ChatMessage) :
    trim (trim history ++ batch) = trim (history ++ batch) := by
  have hsuffix : trim history ++ batch <:+ history ++ batch := by
    obtain ⟨dropped, hdropped⟩ := trim_suffix history
    exact ⟨dropped, by rw [← List.append_assoc, hdropped]⟩
  apply eq_trim_of_suffix ((trim_suffix _).trans hsuffix)
  simp only [length_trim, List.length_append]
  omega

private theorem trim_append_congr {history history' : List ChatMessage} (batch : List ChatMessage)
    (h : trim history = trim history') : trim (history ++ batch) = trim (history' ++ batch) := by
  rw [← trim_trim_append, h, trim_trim_append]

theorem trim_trim (messages : List ChatMessage) : trim (trim messages) = trim messages := by
  simpa using trim_trim_append messages []

theorem trim_eq_nil_iff {messages : List ChatMessage} : trim messages = [] ↔ messages = [] := by
  rw [← List.length_eq_zero_iff, length_trim, ← List.length_eq_zero_iff, messageLimit]
  omega

private theorem isNearLimit_trim (messages : List ChatMessage) :
    isNearLimit (trim messages).length = isNearLimit messages.length := by
  rw [length_trim, isNearLimit, isNearLimit, messageLimit, warningMargin, decide_eq_decide]
  omega

/-! ## Requests -/

theorem toRequest_eq_ok_iff {chat : Chat} {request : GenerationRequest} :
    chat.toRequest = .ok request ↔
      (chat.systemPrompt ≠ "" ∧ chat.messages ≠ []) ∧
        request = ⟨chat.systemPrompt, trim chat.messages, answerTokens⟩ := by
  by_cases hprompt : chat.systemPrompt = ""
  · simp [toRequest, hprompt]
  · by_cases hmessages : chat.messages = []
    · simp [toRequest, hmessages]
    · simp [toRequest, hprompt, hmessages]
      exact eq_comm

private theorem toRequest_congr {systemPrompt : String} {messages messages' : List ChatMessage}
    (h : trim messages = trim messages') :
    toRequest ⟨systemPrompt, messages⟩ = toRequest ⟨systemPrompt, messages'⟩ := by
  have hempty : messages.isEmpty = messages'.isEmpty := by
    rw [Bool.eq_iff_iff, List.isEmpty_iff, List.isEmpty_iff, ← trim_eq_nil_iff, h, trim_eq_nil_iff]
  simp only [toRequest, hempty, h]

/-- The chat that asks for the same answer again. -/
def ofRequest (request : GenerationRequest) : Chat := ⟨request.system, request.messages⟩

private theorem toRequest_ofRequest {chat : Chat} {request : GenerationRequest}
    (h : chat.toRequest = .ok request) : (ofRequest request).toRequest = .ok request := by
  obtain ⟨-, rfl⟩ := toRequest_eq_ok_iff.mp h
  rw [← h]
  exact toRequest_congr (trim_trim chat.messages)

/-! ## Clients -/

/-- The requests of a client that adds the messages of each chat to what it has, asks, and
goes on with what it keeps. -/
def requests (keep : List ChatMessage → List ChatMessage) :
    List ChatMessage → List Chat → List (Except Refusal GenerationRequest)
  | _, [] => []
  | history, chat :: chats =>
      let messages := history ++ chat.messages
      toRequest ⟨chat.systemPrompt, messages⟩ :: requests keep (keep messages) chats

private theorem requests_trim_eq {history history' : List ChatMessage}
    (h : trim history = trim history') (chats : List Chat) :
    requests trim history chats = requests id history' chats := by
  induction chats generalizing history history' with
  | nil => rfl
  | cons chat chats ih =>
      have hmessages := trim_append_congr chat.messages h
      simp only [requests, id]
      rw [toRequest_congr hmessages, ih ((trim_trim _).trans hmessages)]

/--
Trimming keeps the end of a history, of at most fifty messages, and does not change whether
it is near the limit.  It can be done at any time: later requests are those of a client that
never trims.  A chat is shaped into a request just when it has a prompt and messages; the
request has messages too, and asked again it is the same.
-/
theorem trimming_is_incremental :
    (∀ history batch, trim (trim history ++ batch) = trim (history ++ batch)) ∧
    (∀ history chats, requests trim (trim history) chats = requests id history chats) ∧
    (∀ messages, trim messages <:+ messages ∧
      (trim messages).length = min 50 messages.length ∧
      isNearLimit (trim messages).length = isNearLimit messages.length) ∧
    ∀ chat : Chat,
      ((∃ request, chat.toRequest = .ok request) ↔
        chat.systemPrompt ≠ "" ∧ chat.messages ≠ []) ∧
      ∀ request, chat.toRequest = .ok request →
        request.messages ≠ [] ∧ (ofRequest request).toRequest = .ok request := by
  refine ⟨trim_trim_append, fun history => requests_trim_eq (trim_trim history),
    fun messages => ⟨trim_suffix messages, length_trim messages, isNearLimit_trim messages⟩,
    fun chat => ⟨?succeeds, fun request h => ⟨?nonempty, toRequest_ofRequest h⟩⟩⟩
  case succeeds => simp only [toRequest_eq_ok_iff, exists_and_left, exists_eq, and_true]
  case nonempty =>
    obtain ⟨⟨-, hmessages⟩, rfl⟩ := toRequest_eq_ok_iff.mp h
    exact trim_eq_nil_iff.not.mpr hmessages

end LearnerPersona.Chat
