import LearnerPersona.Proofs.Conversation.Simulation
import Mathlib.Data.List.Induction

/-!
# Which transcripts are continued

A transcript alternates if the tutor opens it and no two neighbours are by the same
party.  A call looks at the parity of each index instead, which comes to the same, so the
utterance that it blames is the first that breaks the alternation.  The number of a turn
is a word, so beyond the words a transcript is taken for one that has just begun.
-/

namespace LearnerPersona

/-! ## Alternation -/

def Speaker.other : Speaker → Speaker
  | .tutor => .learner
  | .learner => .tutor

private theorem Speaker.ne_iff_eq_other {first second : Speaker} :
    first ≠ second ↔ second = first.other := by
  cases first <;> cases second <;> decide

theorem Speaker.atIndex_succ (index : Nat) : atIndex (index + 1) = (atIndex index).other :=
  ne_iff_eq_other.mp (atIndex_succ_ne index).symm

/-- The tutor opens, and no two neighbours are by the same party. -/
def Alternates (history : List Utterance) : Prop :=
  (∀ opening ∈ history.head?, opening.speaker = .tutor) ∧
    history.IsChain fun utterance next => utterance.speaker ≠ next.speaker

theorem alternates_iff_inTurn {history : List Utterance} :
    Alternates history ↔ InTurn history := by
  rw [Alternates, List.isChain_iff_getElem, List.head?_eq_getElem?]
  constructor
  · rintro ⟨hopening, hneighbours⟩ index hindex
    induction index with
    | zero => exact hopening _ (List.getElem?_eq_getElem hindex)
    | succ index ih =>
        have hindex' : index < history.length := Nat.lt_of_succ_lt hindex
        have hother := Speaker.ne_iff_eq_other.mp (hneighbours index hindex)
        rw [hother, ih hindex', Speaker.atIndex_succ]
  · intro h
    constructor
    · intro opening hopening
      obtain ⟨hindex, rfl⟩ := List.getElem?_eq_some_iff.mp hopening
      exact h 0 hindex
    · intro index hindex
      rw [h index (by omega), h (index + 1) hindex]
      exact (Speaker.atIndex_succ_ne index).symm

/-! ## The first break -/

private theorem inTurn_concat_iff {history : List Utterance} {utterance : Utterance} :
    InTurn (history ++ [utterance]) ↔
      InTurn history ∧ utterance.speaker = Speaker.atIndex history.length := by
  constructor
  · intro h
    constructor
    · intro index hindex
      have hbefore := h index (by simp; omega)
      rwa [List.getElem_append_left hindex] at hbefore
    · simpa using h history.length (by simp)
  · exact fun ⟨hbefore, hlast⟩ => hbefore.concat hlast

def speakerAfter (history : List Utterance) : Speaker :=
  match history.getLast? with
  | none => .tutor
  | some last => last.speaker.other

private theorem speakerAfter_eq {history : List Utterance} (h : InTurn history) :
    speakerAfter history = Speaker.atIndex history.length := by
  induction history using List.reverseRecOn with
  | nil => rfl
  | append_singleton before last _ =>
      have hlast := (inTurn_concat_iff.mp h).2
      rw [List.length_append, List.length_singleton, Speaker.atIndex_succ, ← hlast]
      simp [speakerAfter]

private theorem exists_first_break {history : List Utterance} (h : ¬ InTurn history) :
    ∃ before utterance after, history = before ++ utterance :: after ∧ InTurn before ∧
      ¬ InTurn (before ++ [utterance]) := by
  induction history using List.reverseRecOn with
  | nil => exact absurd inTurn_nil h
  | append_singleton earlier last ih =>
      by_cases hearlier : InTurn earlier
      · exact ⟨earlier, last, [], rfl, hearlier, h⟩
      · obtain ⟨before, utterance, after, rfl, hbefore, hbreak⟩ := ih hearlier
        exact ⟨before, utterance, after ++ [last], by simp, hbefore, hbreak⟩

namespace Cast

private theorem outOfTurn?_append_cons {before after : List Utterance} {utterance : Utterance}
    (hbefore : InTurn before) (hbreak : ¬ InTurn (before ++ [utterance])) :
    outOfTurn? (before ++ utterance :: after) = some (utterance, before.length) := by
  have hspeaker : utterance.speaker ≠ Speaker.atIndex before.length := fun hspeaker =>
    hbreak (hbefore.concat hspeaker)
  have hnone := outOfTurn?_eq_none_iff.mpr hbefore
  rw [outOfTurn?] at hnone ⊢
  rw [List.zipIdx_append, List.find?_append, hnone, Option.none_or, List.zipIdx_cons,
    List.find?_cons_of_pos]
  · simp
  · simpa [atTurn_turnAt] using hspeaker

private theorem nextTurn_of_outOfTurn? {cast : Cast} {history : List Utterance}
    {utterance : Utterance} {index : Nat} (hcast : cast.validate = .ok ())
    (h : outOfTurn? history = some (utterance, index)) :
    cast.nextTurn history =
      .error (.outOfTurn (index + 1) (Speaker.atIndex index) utterance.speaker) := by
  rw [nextTurn, hcast, h, ← atTurn_turnAt]
  rfl

/-! ## Acceptance -/

theorem validate_eq_error {cast : Cast} (h : cast.learnerPrompt = "" ∨ cast.tutorPrompt = "") :
    cast.validate = .error .emptyPrompt := by
  rcases h with h | h <;> simp [validate, h]

theorem turnLimit_lt_turnAt_iff (index : Nat) :
    turnLimit < turnAt index ↔ 10 < (index + 1) % UInt32.size := by
  rw [UInt32.lt_iff_toNat_lt, toNat_turnAt]
  rfl

/--
A transcript that alternates is refused for its length exactly if the number of the next
turn, taken modulo the number of words, is beyond the limit; that is so from ten utterances
on up to one less than the greatest word.  Otherwise the conversation goes on with the
number that is left.  This is arithmetic that wraps.  A build that checks it for overflow
goes on as told up to one less than the greatest word and stops with a panic beyond: at
the number of the next turn for the greatest word itself, and from the number of words on
at the role of the utterance whose index is the greatest word.
-/
theorem nextTurn_counts_modulo_words {cast : Cast} (hlearner : cast.learnerPrompt ≠ "")
    (htutor : cast.tutorPrompt ≠ "") {history : List Utterance} (h : Alternates history) :
    (cast.nextTurn history = .error .tooManyTurns ↔ 10 < (history.length + 1) % UInt32.size) ∧
    (10 ≤ history.length → history.length < UInt32.size - 1 →
      cast.nextTurn history = .error .tooManyTurns) ∧
    ((history.length + 1) % UInt32.size ≤ 10 → ∃ turn, cast.nextTurn history = .ok turn ∧
      turn.turn.toNat = (history.length + 1) % UInt32.size) := by
  have hnext := nextTurn_of_inTurn (validate_eq_ok hlearner htutor) (alternates_iff_inTurn.mp h)
  simp only [turnLimit_lt_turnAt_iff] at hnext
  have hrefused (hlimit : 10 < (history.length + 1) % UInt32.size) :
      cast.nextTurn history = .error .tooManyTurns := hnext.trans (if_pos hlimit)
  have haccepted (hlimit : ¬ 10 < (history.length + 1) % UInt32.size) :
      cast.nextTurn history = .ok (cast.turnAfter history) := hnext.trans (if_neg hlimit)
  refine ⟨⟨fun herror => ?_, hrefused⟩, fun hten hwords => hrefused ?_, fun hlimit => ?_⟩
  · by_contra hlimit
    rw [haccepted hlimit] at herror
    cases herror
  · rw [Nat.mod_eq_of_lt] <;> omega
  · exact ⟨_, haccepted (Nat.not_lt_of_le hlimit), toNat_turnAt history.length⟩

/-- Both parties greet each other over and over. -/
def greetings (count : Nat) : List Utterance :=
  (List.range count).map fun index => ⟨Speaker.atIndex index, "Hello."⟩

theorem alternates_greetings (count : Nat) : Alternates (greetings count) := by
  rw [alternates_iff_inTurn]
  intro index hindex
  simp [greetings]

private theorem length_greetings (count : Nat) : (greetings count).length = count := by
  simp [greetings]

theorem nextTurn_counts_modulo_words_ten :
    let cast : Cast := ⟨"You are Ana.", "You are a tutor."⟩
    cast.learnerPrompt ≠ "" ∧ cast.tutorPrompt ≠ "" ∧ Alternates (greetings 10) ∧
      (greetings 10).length = 10 ∧ cast.nextTurn (greetings 10) = .error .tooManyTurns := by
  intro cast
  have hlearner : cast.learnerPrompt ≠ "" := by decide
  have htutor : cast.tutorPrompt ≠ "" := by decide
  have hten := length_greetings 10
  refine ⟨hlearner, htutor, alternates_greetings 10, hten, ?_⟩
  refine (nextTurn_counts_modulo_words hlearner htutor (alternates_greetings 10)).1.mpr ?_
  rw [hten]
  decide

/-- As many utterances as there are words, and the tutor is asked to open. -/
theorem nextTurn_greetings_beyond_words :
    let cast : Cast := ⟨"You are Ana.", "You are a tutor."⟩
    cast.learnerPrompt ≠ "" ∧ cast.tutorPrompt ≠ "" ∧ Alternates (greetings UInt32.size) ∧
      10 ≤ (greetings UInt32.size).length ∧
      cast.nextTurn (greetings UInt32.size) ≠ .error .tooManyTurns ∧
      ∃ turn, cast.nextTurn (greetings UInt32.size) = .ok turn ∧ turn.turn = 1 ∧
        turn.speaker = .tutor := by
  intro cast
  have hlearner : cast.learnerPrompt ≠ "" := by decide
  have htutor : cast.tutorPrompt ≠ "" := by decide
  have halternates := alternates_greetings UInt32.size
  have hlength := length_greetings UInt32.size
  -- Nothing below may evaluate the transcript: its length is all that is used.
  generalize greetings UInt32.size = history at halternates hlength ⊢
  have hfirst : turnAt history.length = 1 := by
    rw [hlength]
    decide
  have hspeaker : Speaker.atIndex history.length = .tutor := by
    rw [hlength]
    decide
  have hnext : cast.nextTurn history = .ok (cast.turnAfter history) := by
    rw [nextTurn_of_inTurn (validate_eq_ok hlearner htutor)
      (alternates_iff_inTurn.mp halternates), hfirst]
    exact if_neg (by decide)
  refine ⟨hlearner, htutor, halternates, ?_, ?_, _, hnext, hfirst, hspeaker⟩
  · rw [hlength]
    decide
  · rw [hnext]
    exact nofun

end Cast

end LearnerPersona
