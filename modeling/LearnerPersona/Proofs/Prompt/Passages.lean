import LearnerPersona.Prompt.Persona
import LearnerPersona.Proofs.Text.Occurrence
import LearnerPersona.Proofs.Text.Spelling
import LearnerPersona.Proofs.Text.Template

/-!
# The fixed passages of a prompt

Every passage of fixed prose is plain: it has no equals sign, with which all
headings begin and end, and it has a letter that no heading has.  So a heading is
found in a prompt only where the assembler or the learner's own words put it.
The paragraphs of one dimension moreover can be told apart by their beginnings.
-/

namespace LearnerPersona

open LearnerPersona.Text

/-! ## Headings -/

def Heading.spelling (heading : Heading) : Spelling heading.line := by
  cases heading <;> exact .literal rfl

/-- The letters that headings are made of. -/
def Heading.allows (letter : Char) : Bool :=
  letter.isUpper || letter = ' ' || letter = '=' || letter = '\''

/-- The positions at which a heading occurs in a text, counted in characters. -/
def Heading.positions (heading : Heading) (text : String) : List Nat :=
  Text.positions heading.line.toList text.toList

def Heading.count (heading : Heading) (text : String) : Nat :=
  (heading.positions text).length

@[simp] theorem Heading.count_empty (heading : Heading) : heading.count "" = 0 := rfl

theorem Heading.count_of_isEmpty (heading : Heading) {text : String} (h : text.isEmpty) :
    heading.count text = 0 := by
  obtain rfl := String.isEmpty_iff.mp h
  rfl

/-- How often a heading occurs in texts that are kept apart. -/
def Heading.countAll (heading : Heading) (texts : List String) : Nat :=
  (texts.flatMap heading.positions).length

@[simp] theorem Heading.countAll_nil (heading : Heading) : heading.countAll [] = 0 := rfl

@[simp] theorem Heading.countAll_cons (heading : Heading) (text : String)
    (texts : List String) :
    heading.countAll (text :: texts) = heading.count text + heading.countAll texts := by
  simp [countAll, count]

@[simp] theorem Heading.countAll_append (heading : Heading) (front back : List String) :
    heading.countAll (front ++ back) = heading.countAll front + heading.countAll back := by
  simp [countAll]

theorem Heading.countAll_filter_not_isEmpty (heading : Heading) (texts : List String) :
    heading.countAll (texts.filter fun text => !text.isEmpty) = heading.countAll texts := by
  induction texts with
  | nil => rfl
  | cons text texts ih =>
      by_cases hempty : text.isEmpty
      · simp [hempty, ih, heading.count_of_isEmpty hempty]
      · simp [hempty, ih]

theorem Heading.countAll_nonEmpty? (heading : Heading) (text? : Option String) :
    heading.countAll (nonEmpty? text?).toList = heading.count (text?.getD "") := by
  cases text? with
  | none => simp [nonEmpty?]
  | some text =>
      by_cases hempty : text.isEmpty
      · simp [nonEmpty?, Option.filter, hempty, heading.count_of_isEmpty hempty]
      · simp [nonEmpty?, Option.filter, hempty]

/-! ## Plain prose -/

/-- The passage holds no part of a heading that reaches beyond it. -/
def plainLetters (letters : List Char) : Bool :=
  letters.all (· != '=') && letters.any fun letter => !Heading.allows letter

def Plain (passage : String) : Prop := plainLetters passage.toList = true

theorem Plain.literal {passage : String} {letters : List Char}
    (h : passage = String.ofList letters) (hplain : plainLetters letters = true) :
    Plain passage := by
  rwa [Plain, h, String.toList_ofList]

theorem Plain.append {front back : String} (hfront : Plain front) (hback : Plain back) :
    Plain (front ++ back) := by
  simp_all [Plain, plainLetters]

/-- A plain passage keeps the headings before it and behind it apart. -/
theorem Plain.parts {passage : String} (h : Plain passage) (heading : Heading) :
    Parts heading.line.toList passage.toList := by
  simp only [Plain, plainLetters, Bool.and_eq_true, List.all_eq_true, List.any_eq_true,
    bne_iff_ne, Bool.not_eq_true'] at h
  obtain ⟨hequals, letter, hletter, hforeign⟩ := h
  have hnot : '=' ∉ passage.toList := fun hmem => hequals '=' hmem rfl
  rw [heading.spelling.toList_eq]
  refine ⟨⟨'=', ?_, hnot⟩, ?_, letter, hletter, ?_⟩
  · cases heading <;> rfl
  · cases heading <;> simpa [Heading.spelling, Spelling.literal, Spelling.letters] using hnot
  · have hallowed : heading.spelling.letters.all Heading.allows = true := by
      cases heading <;> decide +kernel
    intro hmem
    simp [List.all_eq_true.mp hallowed letter hmem] at hforeign

section Positions

variable {front passage back : String} (heading : Heading)

theorem Plain.positions_eq_nil (h : Plain passage) : heading.positions passage = [] :=
  (h.parts heading).positions_eq_nil

theorem Plain.positions_append_left (h : Plain passage) :
    heading.positions (passage ++ back) =
      (heading.positions back).map (passage.length + ·) := by
  simp only [Heading.positions, String.toList_append]
  rw [(h.parts heading).positions_append_left, String.length_toList]

theorem Plain.positions_append_right (h : Plain passage) :
    heading.positions (front ++ (passage ++ back)) =
      heading.positions front ++
        (heading.positions (passage ++ back)).map (front.length + ·) := by
  simp only [Heading.positions, String.toList_append]
  rw [(h.parts heading).positions_append_right, String.length_toList]

end Positions

/-! ## Spelled passages -/

/-- The pieces are searched one by one, as joining them would take long. -/
def isPlain {text : String} (spelling : Spelling text) : Bool :=
  spelling.pieces.all (·.all (· != '=')) &&
    spelling.pieces.any (·.any fun letter => !Heading.allows letter)

theorem Plain.of_spelling {text : String} (spelling : Spelling text)
    (h : isPlain spelling = true) : Plain text := by
  rw [Plain, plainLetters, spelling.toList_eq, Spelling.letters, List.all_flatten,
    List.any_flatten]
  exact h

/-- A passage with the letters that show that it is plain. -/
structure Passage (text : String) where
  spelling : Spelling text
  isPlain : isPlain spelling = true

theorem Passage.plain {text : String} (passage : Passage text) : Plain text :=
  .of_spelling passage.spelling passage.isPlain

/-! ## Tables of paragraphs -/

/-- The paragraphs of a dimension, plain and pairwise different from the front on. -/
class Legible (α : Type) [Named α] [Prose α] where
  spelling : (value : α) → Spelling (prose value)
  plain : ∀ value ∈ Named.values (α := α), isPlain (spelling value) = true
  pairwise : (Named.values (α := α)).Pairwise fun first second =>
    diverge (spelling first).letters (spelling second).letters = true

theorem plain_prose {α : Type} [Named α] [Prose α] [Legible α] (value : α) :
    Plain (prose value) :=
  .of_spelling (Legible.spelling value) (Legible.plain value (Named.mem_values value))

theorem prefixFree_prose (α : Type) [Named α] [Prose α] [Legible α] :
    PrefixFree fun value : α => (prose value).toList := by
  have heq : (fun value : α => (prose value).toList) =
      fun value => (Legible.spelling value).letters :=
    funext fun value => (Legible.spelling value).toList_eq
  rw [heq]
  exact prefixFree_of_pairwise Legible.pairwise

/-! ## Cognition -/

def PriorKnowledge.spelling (value : PriorKnowledge) : Spelling (prose value) := by
  cases value <;> dsimp only [prose, PriorKnowledge.paragraph]
  all_goals repeat' with_reducible apply Spelling.append
  all_goals exact .literal rfl

instance : Legible PriorKnowledge :=
  ⟨PriorKnowledge.spelling, by decide +kernel, by decide +kernel⟩

def WorkingMemory.spelling (value : WorkingMemory) : Spelling (prose value) := by
  cases value <;> dsimp only [prose, WorkingMemory.paragraph]
  all_goals repeat' with_reducible apply Spelling.append
  all_goals exact .literal rfl

instance : Legible WorkingMemory :=
  ⟨WorkingMemory.spelling, by decide +kernel, by decide +kernel⟩

def Metacognition.spelling (value : Metacognition) : Spelling (prose value) := by
  cases value <;> dsimp only [prose, Metacognition.paragraph]
  all_goals repeat' with_reducible apply Spelling.append
  all_goals exact .literal rfl

instance : Legible Metacognition :=
  ⟨Metacognition.spelling, by decide +kernel, by decide +kernel⟩

def Preference.spelling (value : Preference) : Spelling (prose value) := by
  cases value <;> dsimp only [prose, Preference.paragraph]
  all_goals repeat' with_reducible apply Spelling.append
  all_goals exact .literal rfl

instance : Legible Preference :=
  ⟨Preference.spelling, by decide +kernel, by decide +kernel⟩

/-! ## Motivation -/

def Engagement.spelling (value : Engagement) : Spelling (prose value) := by
  cases value <;> dsimp only [prose, Engagement.paragraph]
  all_goals repeat' with_reducible apply Spelling.append
  all_goals exact .literal rfl

instance : Legible Engagement :=
  ⟨Engagement.spelling, by decide +kernel, by decide +kernel⟩

def Efficacy.spelling (value : Efficacy) : Spelling (prose value) := by
  cases value <;> dsimp only [prose, Efficacy.paragraph]
  all_goals repeat' with_reducible apply Spelling.append
  all_goals exact .literal rfl

instance : Legible Efficacy :=
  ⟨Efficacy.spelling, by decide +kernel, by decide +kernel⟩

def Goal.spelling (value : Goal) : Spelling (prose value) := by
  cases value <;> dsimp only [prose, Goal.paragraph]
  all_goals repeat' with_reducible apply Spelling.append
  all_goals exact .literal rfl

instance : Legible Goal :=
  ⟨Goal.spelling, by decide +kernel, by decide +kernel⟩

def Tolerance.spelling (value : Tolerance) : Spelling (prose value) := by
  cases value <;> dsimp only [prose, Tolerance.paragraph]
  all_goals repeat' with_reducible apply Spelling.append
  all_goals exact .literal rfl

instance : Legible Tolerance :=
  ⟨Tolerance.spelling, by decide +kernel, by decide +kernel⟩

/-! ## Communication -/

def Verbosity.spelling (value : Verbosity) : Spelling (prose value) := by
  cases value <;> dsimp only [prose, Verbosity.paragraph]
  all_goals repeat' with_reducible apply Spelling.append
  all_goals exact .literal rfl

instance : Legible Verbosity :=
  ⟨Verbosity.spelling, by decide +kernel, by decide +kernel⟩

def HelpSeeking.spelling (value : HelpSeeking) : Spelling (prose value) := by
  cases value <;> dsimp only [prose, HelpSeeking.paragraph]
  all_goals repeat' with_reducible apply Spelling.append
  all_goals exact .literal rfl

instance : Legible HelpSeeking :=
  ⟨HelpSeeking.spelling, by decide +kernel, by decide +kernel⟩

def Correction.spelling (value : Correction) : Spelling (prose value) := by
  cases value <;> dsimp only [prose, Correction.paragraph]
  all_goals repeat' with_reducible apply Spelling.append
  all_goals exact .literal rfl

instance : Legible Correction :=
  ⟨Correction.spelling, by decide +kernel, by decide +kernel⟩

def Register.spelling (value : Register) : Spelling (prose value) := by
  cases value <;> dsimp only [prose, Register.paragraph]
  all_goals repeat' with_reducible apply Spelling.append
  all_goals exact .literal rfl

instance : Legible Register :=
  ⟨Register.spelling, by decide +kernel, by decide +kernel⟩

def passageSelfBlame : Passage selfBlame where
  spelling := by
    unfold selfBlame
    repeat' with_reducible apply Spelling.append
    all_goals exact .literal rfl
  isPlain := by decide +kernel

def passageExternalizedBlame : Passage externalizedBlame where
  spelling := by
    unfold externalizedBlame
    repeat' with_reducible apply Spelling.append
    all_goals exact .literal rfl
  isPlain := by decide +kernel

theorem plain_frustration {efficacy : Efficacy} {passage : String}
    (h : efficacy.frustration? = some passage) : Plain passage := by
  cases efficacy with
  | confident =>
      cases h
      exact passageExternalizedBlame.plain
  | uncertain => cases h
  | anxious | defeated =>
      cases h
      exact passageSelfBlame.plain

/-! ## Tensions -/

def Tension.spelling (tension : Tension) : Spelling tension.resolution := by
  cases tension <;> dsimp only [Tension.resolution]
  all_goals repeat' with_reducible apply Spelling.append
  all_goals exact .literal rfl

def Tension.passage (tension : Tension) : Passage tension.resolution where
  spelling := tension.spelling
  isPlain := by cases tension <;> decide +kernel

def Profile.passageTensionsLead : Passage tensionsLead where
  spelling := by
    unfold tensionsLead
    exact .literal rfl
  isPlain := by decide +kernel

/-! ## Inner voice -/

namespace InnerVoice

def passageLead : Passage lead where
  spelling := by
    unfold lead
    repeat' with_reducible apply Spelling.append
    all_goals exact .literal rfl
  isPlain := by decide +kernel

def spellDoubt (efficacy : Efficacy) : Spelling (doubt efficacy) := by
  cases efficacy <;> exact .literal rfl

def emergingFront : String :=
  "You sometimes get a nagging feeling that something isn't quite right, but you can't " ++
  "always identify what. You notice when your reasoning feels shakier than usual, "

def emergingBack : String :=
  ".\n\n" ++
  "Example inner thought: \"I think it's... wait, is that right? Hmm, something feels off " ++
  "but I'm not sure what. I'll go with it.\""

def spellEmergingFront : Spelling emergingFront := by
  unfold emergingFront
  repeat' with_reducible apply Spelling.append
  all_goals exact .literal rfl

def spellEmergingBack : Spelling emergingBack := by
  unfold emergingBack
  repeat' with_reducible apply Spelling.append
  all_goals exact .literal rfl

theorem emergingTemplate_eq :
    emergingTemplate = emergingFront ++ "\x7bflavor\x7d" ++ emergingBack := by
  have hsplit (first second third fourth fifth mark stop : String) (h : third = mark ++ stop) :
      first ++ second ++ third ++ fourth ++ fifth =
        first ++ second ++ mark ++ (stop ++ fourth ++ fifth) := by
    simp only [h, String.append_assoc]
  exact hsplit _ _ _ _ _ _ _ rfl

theorem reasoning_emerging (efficacy : Efficacy) :
    reasoning efficacy .emerging = emergingFront ++ doubt efficacy ++ emergingBack := by
  refine (congrArg (replace _ _) emergingTemplate_eq).trans (replace_eq rfl ?_ ?_)
  · exact spellEmergingFront.not_mem_of_lacks (by decide +kernel)
  · exact spellEmergingBack.not_mem_of_lacks (by decide +kernel)

def spellReasoning (efficacy : Efficacy) : (metacognition : Metacognition) →
    Spelling (reasoning efficacy metacognition)
  | .emerging => (spellEmergingFront.append (spellDoubt efficacy)).append spellEmergingBack
      |>.of_eq (reasoning_emerging efficacy)
  | .unaware => by
      dsimp only [reasoning]
      repeat' with_reducible apply Spelling.append
      all_goals exact .literal rfl
  | .reflective => by
      dsimp only [reasoning]
      repeat' with_reducible apply Spelling.append
      all_goals exact .literal rfl

def passageReasoning (efficacy : Efficacy) (metacognition : Metacognition) :
    Passage (reasoning efficacy metacognition) where
  spelling := spellReasoning efficacy metacognition
  isPlain := by cases metacognition <;> cases efficacy <;> decide +kernel

def spellMisconceptionClause (metacognition : Metacognition) :
    Spelling (misconceptionClause metacognition) := by
  cases metacognition <;> dsimp only [misconceptionClause]
  all_goals repeat' with_reducible apply Spelling.append
  all_goals exact .literal rfl

def passageMisconceptionClause (metacognition : Metacognition) :
    Passage (misconceptionClause metacognition) where
  spelling := spellMisconceptionClause metacognition
  isPlain := by cases metacognition <;> decide +kernel

def spellHesitation (efficacy : Efficacy) (metacognition : Metacognition) :
    Spelling (hesitation efficacy metacognition) := by
  cases efficacy with
  | uncertain =>
      cases metacognition <;> dsimp only [hesitation]
      all_goals repeat' with_reducible apply Spelling.append
      all_goals exact .literal rfl
  | _ =>
      dsimp only [hesitation]
      repeat' with_reducible apply Spelling.append
      all_goals exact .literal rfl

def passageHesitation (efficacy : Efficacy) (metacognition : Metacognition) :
    Passage (hesitation efficacy metacognition) where
  spelling := spellHesitation efficacy metacognition
  isPlain := by cases efficacy <;> cases metacognition <;> decide +kernel

end InnerVoice

/-! ## Boundaries -/

namespace Boundaries

def passageCoreRule : Passage coreRule where
  spelling := by
    unfold coreRule
    repeat' with_reducible apply Spelling.append
    all_goals exact .literal rfl
  isPlain := by decide +kernel

def passageShutdownValve : Passage shutdownValve where
  spelling := by
    unfold shutdownValve
    repeat' with_reducible apply Spelling.append
    all_goals exact .literal rfl
  isPlain := by decide +kernel

def passageDefeatValve : Passage defeatValve where
  spelling := by
    unfold defeatValve
    repeat' with_reducible apply Spelling.append
    all_goals exact .literal rfl
  isPlain := by decide +kernel

def passageTerseValve : Passage terseValve where
  spelling := by
    unfold terseValve
    repeat' with_reducible apply Spelling.append
    all_goals exact .literal rfl
  isPlain := by decide +kernel

def disengagementFront : String := "DISENGAGEMENT VALVE: You're "

def disengagementBack : String :=
  ", but you're still in the conversation. Maybe you were told you have to be here, maybe " ++
  "there are consequences for leaving. You'll give minimal effort but you won't literally " ++
  "walk away or refuse every single question. A clever, genuinely interesting, or surprising " ++
  "question can briefly break through your wall."

def spellDisengagementFront : Spelling disengagementFront := by
  unfold disengagementFront
  exact .literal rfl

def spellDisengagementBack : Spelling disengagementBack := by
  unfold disengagementBack
  repeat' with_reducible apply Spelling.append
  all_goals exact .literal rfl

theorem disengagementTemplate_eq :
    disengagementTemplate = disengagementFront ++ "\x7bengagement\x7d" ++ disengagementBack := by
  have hsplit (first second third fourth fifth front mark : String) (h : first = front ++ mark) :
      first ++ second ++ third ++ fourth ++ fifth =
        front ++ mark ++ (second ++ third ++ fourth ++ fifth) := by
    simp only [h, String.append_assoc]
  exact hsplit _ _ _ _ _ _ _ rfl

theorem disengagementValve_eq (engagement : Engagement) :
    disengagementValve engagement = disengagementFront ++ name engagement ++ disengagementBack := by
  refine (congrArg (replace _ _) disengagementTemplate_eq).trans (replace_eq rfl ?_ ?_)
  · exact spellDisengagementFront.not_mem_of_lacks (by decide +kernel)
  · exact spellDisengagementBack.not_mem_of_lacks (by decide +kernel)

def spellDisengagementValve (engagement : Engagement) :
    Spelling (disengagementValve engagement) :=
  have hname : Spelling (name engagement) := by cases engagement <;> exact .literal rfl
  ((spellDisengagementFront.append hname).append spellDisengagementBack).of_eq
    (disengagementValve_eq engagement)

def passageDisengagementValve (engagement : Engagement) :
    Passage (disengagementValve engagement) where
  spelling := spellDisengagementValve engagement
  isPlain := by cases engagement <;> decide +kernel

end Boundaries

/-! ## Knowledge -/

namespace Knowledge

def passageGenericLearner : Passage genericLearner where
  spelling := by
    unfold genericLearner
    repeat' with_reducible apply Spelling.append
    all_goals exact .literal rfl
  isPlain := by decide +kernel

def passageUnderstandingLead :
    Passage ("WHAT YOU DO UNDERSTAND:\n" ++ understandingLead ++ "\n") where
  spelling := by
    unfold understandingLead
    repeat' with_reducible apply Spelling.append
    all_goals exact .literal rfl
  isPlain := by decide +kernel

def passageMisconceptionLead :
    Passage ("WHAT YOU BELIEVE (that is actually wrong):\n" ++ misconceptionLead ++ "\n") where
  spelling := by
    unfold misconceptionLead
    repeat' with_reducible apply Spelling.append
    all_goals exact .literal rfl
  isPlain := by decide +kernel

def passageMisconceptionEffect :
    Passage ("\n\n" ++ misconceptionReasoning ++ "\n\n" ++ resistAccuracy ++ "\n\n" ++
      misconceptionCertainty) where
  spelling := by
    unfold misconceptionReasoning resistAccuracy misconceptionCertainty
    repeat' with_reducible apply Spelling.append
    all_goals exact .literal rfl
  isPlain := by decide +kernel

def passageGapsLead : Passage ("FOUNDATIONS YOU'RE MISSING:\n" ++ gapsLead ++ "\n") where
  spelling := by
    unfold gapsLead
    repeat' with_reducible apply Spelling.append
    all_goals exact .literal rfl
  isPlain := by decide +kernel

def passageGapsEffect :
    Passage ("\n\n" ++ gapsEffect ++ "\n\n" ++ gapsUnrecognized) where
  spelling := by
    unfold gapsEffect gapsUnrecognized
    repeat' with_reducible apply Spelling.append
    all_goals exact .literal rfl
  isPlain := by decide +kernel

end Knowledge

/-! ## Opening and close -/

def Profile.spellNote (preset : Preset) :
    Spelling ("\n\nDesign note — this persona was built  (based on archetype: " ++
      name preset ++
      "). This is metadata for the user, not something you reference in character.") := by
  repeat' with_reducible apply Spelling.append
  · exact .literal rfl
  · cases preset <;> exact .literal rfl
  · exact .literal rfl

def Profile.passageNote (preset : Preset) :
    Passage ("\n\nDesign note — this persona was built  (based on archetype: " ++
      name preset ++
      "). This is metadata for the user, not something you reference in character.") where
  spelling := spellNote preset
  isPlain := by cases preset <;> decide +kernel

namespace Persona

def passagePreamble : Passage preamble where
  spelling := by
    unfold preamble
    repeat' with_reducible apply Spelling.append
    all_goals exact .literal rfl
  isPlain := by decide +kernel

def passagePostamble : Passage postamble where
  spelling := by
    unfold postamble
    repeat' with_reducible apply Spelling.append
    all_goals exact .literal rfl
  isPlain := by decide +kernel

end Persona

end LearnerPersona
