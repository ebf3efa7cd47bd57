import LearnerPersona.Conversation.Simulation
import Mathlib.Data.List.Forall2

/-!
# Conversations up to the limit

Whose turn it is depends on the parity of the turn's index alone, also where turn
numbers wrap.  A transcript that keeps to it is continued until the limit is reached,
and what a speaker is told alternates, ends with the other party and gives the
transcript away.
-/

namespace LearnerPersona

/-! ## Turns -/

def Speaker.atIndex (index : Nat) : Speaker := if index % 2 = 0 then .tutor else .learner

theorem Speaker.atIndex_succ_ne (index : Nat) : atIndex (index + 1) ≠ atIndex index := by
  have hparity : (index + 1) % 2 = 0 ↔ ¬ index % 2 = 0 := by omega
  unfold atIndex
  by_cases h : index % 2 = 0 <;> simp [hparity, h]

/-- Every utterance is by the party whose turn it is. -/
def InTurn (history : List Utterance) : Prop :=
  ∀ (index : Nat) (h : index < history.length), history[index].speaker = Speaker.atIndex index

theorem inTurn_nil : InTurn [] := fun _ h => absurd h (Nat.not_lt_zero _)

theorem InTurn.concat {history : List Utterance} {utterance : Utterance} (h : InTurn history)
    (hlast : utterance.speaker = Speaker.atIndex history.length) :
    InTurn (history ++ [utterance]) := by
  intro index hindex
  rw [List.getElem_append]
  split
  · exact h index _
  · have hlength : index = history.length := by
      rw [List.length_append, List.length_singleton] at hindex
      omega
    simp [hlength, hlast]

namespace Cast

theorem toNat_turnAt (index : Nat) : (turnAt index).toNat = (index + 1) % 4294967296 := by
  rw [turnAt, UInt32.toNat_add, Nat.toUInt32_eq, UInt32.toNat_ofNat', UInt32.toNat_one]
  omega

theorem atTurn_turnAt (index : Nat) : Speaker.atTurn (turnAt index) = Speaker.atIndex index := by
  have hparity : turnAt index % 2 = 1 ↔ index % 2 = 0 := by
    rw [← UInt32.toNat_inj, UInt32.toNat_mod, toNat_turnAt]
    change (index + 1) % 4294967296 % 2 = 1 ↔ index % 2 = 0
    omega
  simp only [Speaker.atTurn, Speaker.atIndex, hparity]

theorem outOfTurn?_eq_none_iff {history : List Utterance} :
    outOfTurn? history = none ↔ InTurn history := by
  simp only [outOfTurn?, List.find?_eq_none, decide_not, Bool.not_eq_true', decide_eq_false_iff_not,
    not_not, atTurn_turnAt]
  constructor
  · intro h index hindex
    exact h (history[index], index) (List.mem_zipIdx_iff_getElem?.mpr (by simp [hindex]))
  · rintro h ⟨utterance, index⟩ hmem
    obtain ⟨hindex, hget⟩ := List.getElem?_eq_some_iff.mp (List.mem_zipIdx_iff_getElem?.mp hmem)
    rw [← hget]
    exact h index hindex

/-! ## One call -/

/-- The turn after a transcript that keeps to the order. -/
def turnAfter (cast : Cast) (history : List Utterance) : Turn :=
  let speaker := Speaker.atIndex history.length
  ⟨turnAt history.length, speaker, ⟨cast.promptOf speaker, speaker.view history, turnTokens⟩⟩

theorem nextTurn_of_inTurn {cast : Cast} {history : List Utterance}
    (hcast : cast.validate = .ok ()) (h : InTurn history) :
    cast.nextTurn history =
      if turnLimit < turnAt history.length then .error .tooManyTurns
      else .ok (cast.turnAfter history) := by
  have hturn : cast.nextTurn history =
      if turnLimit < turnAt history.length then .error .tooManyTurns
      else
        let speaker := Speaker.atTurn (turnAt history.length)
        .ok ⟨turnAt history.length, speaker,
          ⟨cast.promptOf speaker, speaker.view history, turnTokens⟩⟩ := by
    rw [nextTurn, hcast, outOfTurn?_eq_none_iff.mpr h]
    dsimp only [bind, Except.bind]
    split <;> rfl
  rw [hturn, atTurn_turnAt]
  rfl

theorem eq_turnAfter_of_nextTurn {cast : Cast} {history : List Utterance} {turn : Turn}
    (h : cast.nextTurn history = .ok turn) :
    InTurn history ∧ turn = cast.turnAfter history := by
  have hcast : cast.validate = .ok () := by
    cases hvalid : cast.validate with
    | ok => rfl
    | error refusal =>
        rw [nextTurn, hvalid] at h
        cases h
  have hturns : InTurn history := by
    rw [← outOfTurn?_eq_none_iff]
    cases hout : outOfTurn? history with
    | none => rfl
    | some found =>
        rw [nextTurn, hcast, hout] at h
        cases h
  refine ⟨hturns, ?_⟩
  rw [nextTurn_of_inTurn hcast hturns] at h
  split at h
  · cases h
  · exact (Except.ok.inj h).symm

theorem turnLimit_lt_turnAt {index : Nat} (h : index + 1 < 4294967296) :
    turnLimit < turnAt index ↔ 9 < index := by
  rw [UInt32.lt_iff_toNat_lt, toNat_turnAt]
  change 10 < (index + 1) % 4294967296 ↔ 9 < index
  omega

theorem nextTurn_eq_ok {cast : Cast} {history : List Utterance}
    (hcast : cast.validate = .ok ()) (h : InTurn history) (hlength : history.length < 10) :
    cast.nextTurn history = .ok (cast.turnAfter history) := by
  rw [nextTurn_of_inTurn hcast h, if_neg]
  rw [turnLimit_lt_turnAt] <;> omega

end Cast

/-! ## What a speaker is told -/

namespace Speaker

private theorem role_ne_role {first second : Speaker} (speaker : Speaker) (h : first ≠ second) :
    (if first = speaker then ChatRole.assistant else .user) ≠
      (if second = speaker then ChatRole.assistant else .user) := by
  cases first <;> cases second <;> cases speaker <;> first | contradiction | decide

theorem view_eq_map {speaker : Speaker} {history : List Utterance} (h : history ≠ []) :
    speaker.view history =
      history.map fun utterance =>
        ⟨if utterance.speaker = speaker then .assistant else .user, utterance.content⟩ := by
  cases history with
  | nil => contradiction
  | cons utterance history => rfl

private theorem isChain_view {speaker : Speaker} {history : List Utterance} (h : InTurn history) :
    (speaker.view history).IsChain fun message next => message.role ≠ next.role := by
  by_cases hnil : history = []
  · subst hnil
    exact .singleton _
  · rw [view_eq_map hnil, List.isChain_iff_getElem]
    intro index hindex
    rw [List.length_map] at hindex
    simp only [List.getElem_map, h index (by omega), h (index + 1) hindex]
    exact role_ne_role speaker (atIndex_succ_ne index).symm

/-- Whoever is to speak has been spoken to. -/
private theorem role_getLast?_view {history : List Utterance} (h : InTurn history) :
    ((atIndex history.length).view history).getLast?.map ChatMessage.role = some .user := by
  by_cases hnil : history = []
  · subst hnil
    rfl
  · obtain ⟨before, hbefore⟩ : ∃ before, history.length = before + 1 :=
      Nat.exists_eq_succ_of_ne_zero (mt List.length_eq_zero_iff.mp hnil)
    have hlast := h before (by omega)
    have hne : atIndex before ≠ atIndex (before + 1) := (atIndex_succ_ne before).symm
    rw [view_eq_map hnil, List.getLast?_map, List.getLast?_eq_getElem?, hbefore,
      Nat.add_sub_cancel, List.getElem?_eq_getElem (by omega : before < history.length)]
    simp [hlast, hne]

private theorem forall₂_view {speaker : Speaker} {history : List Utterance} (h : history ≠ []) :
    List.Forall₂ (fun utterance message => message.content = utterance.content ∧
      (message.role = .assistant ↔ utterance.speaker = speaker)) history
      (speaker.view history) := by
  rw [view_eq_map h, List.forall₂_map_right_iff, List.forall₂_same]
  intro utterance _
  by_cases hspeaker : utterance.speaker = speaker <;> simp [hspeaker]

private theorem eq_nil_of_view_eq {history : List Utterance}
    (hspeaker : atIndex history.length = .tutor)
    (hview : Speaker.tutor.view history = Speaker.tutor.view []) : history = [] := by
  by_contra hnil
  rw [view_eq_map hnil] at hview
  have hlength : history.length = 1 := by
    rw [← List.length_map, hview]
    rfl
  rw [hlength] at hspeaker
  contradiction

theorem view_injective {left right : List Utterance} (hleft : InTurn left)
    (hright : InTurn right) (hspeaker : atIndex left.length = atIndex right.length)
    (hview : (atIndex left.length).view left = (atIndex right.length).view right) :
    left = right := by
  by_cases hnil : left = []
  · subst hnil
    rw [← hspeaker] at hview
    exact (eq_nil_of_view_eq hspeaker.symm hview.symm).symm
  by_cases hnil' : right = []
  · subst hnil'
    rw [hspeaker] at hview
    exact eq_nil_of_view_eq hspeaker hview
  rw [view_eq_map hnil, view_eq_map hnil'] at hview
  have hlength : left.length = right.length := by
    simpa using congrArg List.length hview
  refine List.ext_getElem hlength fun index hindex hindex' => ?_
  have hmessage : (left[index]).content = (right[index]).content := by
    have hget := congrArg (fun messages => messages[index]?.map ChatMessage.content) hview
    simpa [hindex, hindex'] using hget
  have hparty : (left[index]).speaker = (right[index]).speaker := by
    rw [hleft index hindex, hright index hindex']
  cases hl : left[index]
  cases hr : right[index]
  simp_all

end Speaker

/-! ## Whole conversations -/

namespace Cast

/-- The transcript after a number of calls, each followed by a reply to it. -/
def transcript (cast : Cast) (reply : Turn → String) : Nat → Except Refusal (List Utterance)
  | 0 => .ok []
  | calls + 1 => do
      let history ← cast.transcript reply calls
      let turn ← cast.nextTurn history
      return history ++ [⟨turn.speaker, reply turn⟩]

/-- How a turn goes on from a transcript.  Its messages retell the transcript, and no
other transcript leads to these messages for this speaker. -/
structure Continues (cast : Cast) (history : List Utterance) (turn : Turn) : Prop where
  number : turn.turn.toNat = history.length + 1
  tutor : turn.turn.toNat % 2 = 1 →
    turn.speaker = .tutor ∧ turn.request.system = cast.tutorPrompt
  learner : turn.turn.toNat % 2 = 0 →
    turn.speaker = .learner ∧ turn.request.system = cast.learnerPrompt
  alternates : turn.request.messages.IsChain fun message next => message.role ≠ next.role
  answerable : turn.request.messages.getLast?.map ChatMessage.role = some .user
  opening : history = [] → turn.request.messages = [⟨.user, kickoff⟩]
  retells : history ≠ [] →
    List.Forall₂ (fun utterance message => message.content = utterance.content ∧
      (message.role = .assistant ↔ utterance.speaker = turn.speaker))
      history turn.request.messages
  determines : ∀ (other : Cast) (transcript : List Utterance) (next : Turn),
    other.nextTurn transcript = .ok next → next.speaker = turn.speaker →
    next.request.messages = turn.request.messages → transcript = history

private theorem continues_turnAfter (cast : Cast) {history : List Utterance} (h : InTurn history)
    (hlength : history.length < 10) : cast.Continues history (cast.turnAfter history) := by
  have hnumber : (cast.turnAfter history).turn.toNat = history.length + 1 := by
    change (turnAt history.length).toNat = _
    rw [toNat_turnAt]
    omega
  have hspeaker : (cast.turnAfter history).speaker = Speaker.atIndex history.length := rfl
  have hsystem : (cast.turnAfter history).request.system =
      cast.promptOf (cast.turnAfter history).speaker := rfl
  exact
    { number := hnumber
      tutor := fun hodd => by
        have htutor : Speaker.atIndex history.length = .tutor := if_pos (by omega)
        rw [hsystem, hspeaker, htutor]
        exact ⟨rfl, rfl⟩
      learner := fun heven => by
        have hlearner : Speaker.atIndex history.length = .learner := if_neg (by omega)
        rw [hsystem, hspeaker, hlearner]
        exact ⟨rfl, rfl⟩
      alternates := Speaker.isChain_view h
      answerable := Speaker.role_getLast?_view h
      opening := fun hnil => by subst hnil; rfl
      retells := Speaker.forall₂_view
      determines := fun other transcript next hnext hspeaker hmessages => by
        obtain ⟨hturns, rfl⟩ := eq_turnAfter_of_nextTurn hnext
        exact Speaker.view_injective hturns h hspeaker hmessages }

private theorem transcript_inTurn {cast : Cast} (hcast : cast.validate = .ok ())
    (reply : Turn → String) {calls : Nat} (hcalls : calls ≤ 10) :
    ∃ history, cast.transcript reply calls = .ok history ∧ history.length = calls ∧
      InTurn history := by
  induction calls with
  | zero => exact ⟨[], rfl, rfl, inTurn_nil⟩
  | succ calls ih =>
      obtain ⟨history, htranscript, hlength, hturns⟩ := ih (by omega)
      have hnext := nextTurn_eq_ok hcast hturns (by omega)
      refine ⟨history ++ [⟨Speaker.atIndex history.length, reply (cast.turnAfter history)⟩],
        ?_, by simp [hlength], hturns.concat rfl⟩
      rw [transcript, htranscript]
      simp only [bind, Except.bind, hnext]
      rfl

theorem validate_eq_ok {cast : Cast} (hlearner : cast.learnerPrompt ≠ "")
    (htutor : cast.tutorPrompt ≠ "") : cast.validate = .ok () := by
  simp [validate, hlearner, htutor]

/--
Whatever the replies, ten calls go on from the transcript so far, each as the next
speaker needs it, and the eleventh is refused.
-/
theorem conversation_reaches_limit {cast : Cast} (hlearner : cast.learnerPrompt ≠ "")
    (htutor : cast.tutorPrompt ≠ "") (reply : Turn → String) :
    (∀ calls < 10, ∃ history turn, cast.transcript reply calls = .ok history ∧
      history.length = calls ∧ cast.nextTurn history = .ok turn ∧ cast.Continues history turn) ∧
    ∃ history, cast.transcript reply 10 = .ok history ∧
      cast.nextTurn history = .error .tooManyTurns := by
  have hcast := validate_eq_ok hlearner htutor
  constructor
  · intro calls hcalls
    obtain ⟨history, htranscript, hlength, hturns⟩ :=
      transcript_inTurn hcast reply (Nat.le_of_lt hcalls)
    exact ⟨history, cast.turnAfter history, htranscript, hlength,
      nextTurn_eq_ok hcast hturns (by omega), cast.continues_turnAfter hturns (by omega)⟩
  · obtain ⟨history, htranscript, hlength, hturns⟩ := transcript_inTurn hcast reply (Nat.le_refl 10)
    refine ⟨history, htranscript, ?_⟩
    rw [nextTurn_of_inTurn hcast hturns, if_pos]
    rw [turnLimit_lt_turnAt] <;> omega

/-- Two parties that answer with their own prompts, before the tutor's second turn. -/
theorem conversation_reaches_limit_echo :
    let cast : Cast := ⟨"You are Ana.", "You are a tutor."⟩
    let reply : Turn → String := fun turn => turn.request.system
    let history : List Utterance := [⟨.tutor, "You are a tutor."⟩, ⟨.learner, "You are Ana."⟩]
    cast.learnerPrompt ≠ "" ∧ cast.tutorPrompt ≠ "" ∧ cast.transcript reply 2 = .ok history ∧
      ∃ turn, cast.nextTurn history = .ok turn ∧ cast.Continues history turn := by
  intro cast reply history
  have hlearner : cast.learnerPrompt ≠ "" := by decide
  have htutor : cast.tutorPrompt ≠ "" := by decide
  have htranscript : cast.transcript reply 2 = .ok history := by decide +kernel
  obtain ⟨found, turn, hfound, -, hnext, hcontinues⟩ :=
    (conversation_reaches_limit hlearner htutor reply).1 2 (by decide)
  cases hfound.symm.trans htranscript
  exact ⟨hlearner, htutor, htranscript, turn, hnext, hcontinues⟩

end Cast

end LearnerPersona
