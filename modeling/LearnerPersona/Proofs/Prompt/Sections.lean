import LearnerPersona.Proofs.Prompt.Outline

/-!
# The sections of a prompt

Whatever the profile, every section puts plain passages between the texts that it
copies and has no heading of its own.  The prompt is therefore clear, and what it
copies are the texts of the profile that are not empty, the domain twice.
-/

namespace LearnerPersona

open Script (Body Clear)

/-! ## Every section is clear -/

private theorem plain_intercalate {passages : List String} (hne : passages ≠ [])
    (h : ∀ passage ∈ passages, Plain passage) : Plain (" ".intercalate passages) := by
  induction passages with
  | nil => exact absurd rfl hne
  | cons passage rest ih =>
      have hpassage := h passage List.mem_cons_self
      cases rest with
      | nil => simpa using hpassage
      | cons next rest =>
          have hrest := ih (by simp) fun other hother => h other (List.mem_cons_of_mem _ hother)
          rw [String.intercalate_cons_cons]
          refine Plain.append ?_ hrest
          simpa [Plain, plainLetters, Heading.allows] using hpassage

namespace Cognition

theorem body_script (cognition : Cognition) : Body cognition.script := by
  apply Body.paragraphs
  intro passage hpassage
  simp only [List.mem_append, List.mem_cons, List.not_mem_nil, or_false] at hpassage
  rcases hpassage with (rfl | rfl | rfl) | hpreferences
  · exact plain_prose _
  · exact plain_prose _
  · exact plain_prose _
  · split at hpreferences
    · simp at hpreferences
    · obtain rfl := List.mem_singleton.mp hpreferences
      refine .append (.append ?_ ?_) (plain_intercalate ?_ ?_)
      · exact .literal rfl (by decide)
      · exact .literal rfl (by decide)
      · simp_all
      · intro passage hpassage
        obtain ⟨preference, -, rfl⟩ := List.mem_map.mp hpassage
        exact plain_prose preference

end Cognition

theorem Motivation.body_script (motivation : Motivation) : Body motivation.script := by
  apply Body.paragraphs
  intro passage hpassage
  simp only [List.mem_append, List.mem_cons, List.not_mem_nil, or_false,
    Option.mem_toList] at hpassage
  rcases hpassage with (rfl | rfl | rfl | rfl) | hfrustration
  · exact plain_prose _
  · exact plain_prose _
  · exact plain_prose _
  · exact plain_prose _
  · exact plain_frustration hfrustration

theorem Communication.body_script (communication : Communication) :
    Body communication.script := by
  apply Body.paragraphs
  intro passage hpassage
  simp only [List.mem_cons, List.not_mem_nil, or_false] at hpassage
  rcases hpassage with rfl | rfl | rfl | rfl <;> exact plain_prose _

namespace Knowledge

variable {knowledge : Knowledge} {block : Script}

private theorem body_subjectBlock (h : knowledge.subjectBlock? = some block) : Body block := by
  have hstart : Plain "You are studying " := .literal rfl (by decide)
  have hstop : Plain "." := .literal rfl (by decide)
  have hdomain : (if knowledge.domain.isEmpty then Piece.prose "a subject"
      else Piece.verbatim knowledge.domain).Sound := by
    split
    · exact Piece.sound_prose.mpr (.literal rfl (by decide))
    · exact Piece.sound_verbatim _
  unfold subjectBlock? at h
  split at h <;> cases h
  constructor
  · refine .prose hstart ?_
    by_cases htopic : knowledge.topic.isEmpty
    · simp only [htopic, if_true]
      exact .apart hdomain hstop .nil
    · simp only [htopic, Bool.false_eq_true, if_false]
      exact .apart hdomain (.literal rfl (by decide))
        (.apart (Piece.sound_verbatim _) hstop .nil)
  · by_cases hdomain : knowledge.domain.isEmpty <;>
      by_cases htopic : knowledge.topic.isEmpty <;> simp [hdomain, htopic, Script.headings]

private theorem body_understandingBlock (h : knowledge.understandingBlock? = some block) :
    Body block := by
  unfold understandingBlock? at h
  split at h <;> cases h
  exact ⟨.prose passageUnderstandingLead.plain (.last (Piece.sound_verbatim _)), rfl⟩

private theorem body_misconceptionsBlock (h : knowledge.misconceptionsBlock? = some block) :
    Body block := by
  unfold misconceptionsBlock? at h
  split at h <;> cases h
  exact ⟨.prose passageMisconceptionLead.plain
    (.apart (Piece.sound_verbatim _) passageMisconceptionEffect.plain .nil), rfl⟩

private theorem body_gapsBlock (h : knowledge.gapsBlock? = some block) : Body block := by
  unfold gapsBlock? at h
  split at h <;> cases h
  exact ⟨.prose passageGapsLead.plain
    (.apart (Piece.sound_verbatim _) passageGapsEffect.plain .nil), rfl⟩

private theorem body_contextBlock (h : knowledge.contextBlock? = some block) : Body block := by
  obtain ⟨context, -, rfl⟩ := Option.map_eq_some_iff.mp h
  exact ⟨.prose (.literal rfl (by decide +kernel)) (.last (Piece.sound_verbatim _)), rfl⟩

private theorem body_of_mem_blocks (h : block ∈ knowledge.blocks) : Body block := by
  simp only [blocks, List.mem_filterMap, List.mem_cons, List.not_mem_nil, or_false, id] at h
  obtain ⟨_, rfl | rfl | rfl | rfl | rfl, hblock⟩ := h
  · exact body_subjectBlock hblock
  · exact body_understandingBlock hblock
  · exact body_misconceptionsBlock hblock
  · exact body_gapsBlock hblock
  · exact body_contextBlock hblock

theorem body_script (knowledge : Knowledge) : Body knowledge.script := by
  unfold script
  split
  · exact ⟨.prose passageGenericLearner.plain .nil, rfl⟩
  · exact .blocks fun block hblock => body_of_mem_blocks hblock

end Knowledge

namespace Profile

variable (profile : Profile)

theorem body_identityScript : Body profile.identityScript := by
  have hperson : Plain (". You are a real person with your own thoughts, feelings, and ways of " ++
      "approaching learning.") :=
    .append (.literal rfl (by decide +kernel)) (.literal rfl (by decide +kernel))
  have hlearner : Plain "a student" := .literal rfl (by decide)
  unfold identityScript
  constructor
  · refine .prose (.literal rfl (by decide)) ?_
    by_cases hdomain : profile.knowledge.domain.isEmpty
    · simp only [hdomain, if_true]
      refine .apart ?_ hperson ?_ <;> split
      · exact Piece.sound_verbatim _
      · exact Piece.sound_prose.mpr hlearner
      · exact .prose (passageNote _).plain .nil
      · exact .nil
    · simp only [hdomain, Bool.false_eq_true, if_false]
      refine .apart ?_ (.literal rfl (by decide)) (.apart (Piece.sound_verbatim _) hperson ?_) <;>
        split
      · exact Piece.sound_verbatim _
      · exact Piece.sound_prose.mpr hlearner
      · exact .prose (passageNote _).plain .nil
      · exact .nil
  · cases profile.displayName? <;> cases profile.preset? <;>
      by_cases hdomain : profile.knowledge.domain.isEmpty <;> simp [hdomain, Script.headings]

theorem body_tensionsScript : Body profile.tensionsScript := by
  unfold tensionsScript
  split
  · exact .nil
  · apply Body.paragraphs
    intro passage hpassage
    rcases List.mem_cons.mp hpassage with rfl | hresolution
    · exact passageTensionsLead.plain
    · obtain ⟨tension, -, rfl⟩ := List.mem_map.mp hresolution
      exact tension.passage.plain

def innerVoicePassages : List String :=
  let metacognition := profile.cognition.metacognition
  let efficacy := profile.motivation.efficacy
  [InnerVoice.lead, InnerVoice.reasoning efficacy metacognition] ++
    (if profile.knowledge.misconceptions.isEmpty then []
      else [InnerVoice.misconceptionClause metacognition]) ++
    [InnerVoice.hesitation efficacy metacognition]

theorem innerVoiceScript_eq_paragraphs :
    profile.innerVoiceScript = Script.paragraphs profile.innerVoicePassages := rfl

theorem eq_of_mem_innerVoicePassages {passage : String}
    (h : passage ∈ profile.innerVoicePassages) :
    passage = InnerVoice.lead ∨
    passage = InnerVoice.reasoning profile.motivation.efficacy profile.cognition.metacognition ∨
    passage = InnerVoice.misconceptionClause profile.cognition.metacognition ∨
    passage =
      InnerVoice.hesitation profile.motivation.efficacy profile.cognition.metacognition := by
  simp only [innerVoicePassages, List.mem_append, List.mem_cons, List.not_mem_nil, or_false,
    List.mem_ite_nil_left] at h
  tauto

theorem body_innerVoiceScript : Body profile.innerVoiceScript := by
  rw [innerVoiceScript_eq_paragraphs]
  apply Body.paragraphs
  intro passage hpassage
  rcases profile.eq_of_mem_innerVoicePassages hpassage with rfl | rfl | rfl | rfl
  · exact InnerVoice.passageLead.plain
  · exact (InnerVoice.passageReasoning _ _).plain
  · exact (InnerVoice.passageMisconceptionClause _).plain
  · exact (InnerVoice.passageHesitation _ _).plain

theorem body_boundariesScript : Body profile.boundariesScript := by
  apply Body.paragraphs
  intro passage hpassage
  simp only [valves, List.mem_cons, List.mem_append, List.mem_ite_nil_right,
    List.not_mem_nil, or_false] at hpassage
  rcases hpassage with rfl | ((⟨-, rfl⟩ | ⟨-, rfl⟩) | ⟨-, rfl⟩) | ⟨-, rfl⟩
  · exact Boundaries.passageCoreRule.plain
  · exact (Boundaries.passageDisengagementValve _).plain
  · exact Boundaries.passageShutdownValve.plain
  · exact Boundaries.passageDefeatValve.plain
  · exact Boundaries.passageTerseValve.plain

/-- The sections that quote nothing. -/
def traitParts : List Script :=
  [Script.under .cognition profile.cognition.script,
    Script.under .motivation profile.motivation.script,
    Script.under .communication profile.communication.script] ++
  (if profile.tensionsScript.isEmpty then []
    else [Script.under .tensions profile.tensionsScript]) ++
  [Script.under .innerVoice profile.innerVoiceScript,
    Script.under .boundaries profile.boundariesScript]

def innerParts : List Script :=
  Script.under .identity profile.identityScript ::
    Script.under .knowledge profile.knowledge.script :: profile.traitParts

theorem parts_eq :
    profile.parts =
      [.prose Persona.preamble] :: (profile.innerParts ++ [[.prose Persona.postamble]]) := by
  simp [parts, innerParts, traitParts]

private theorem clear_innerParts : ∀ part ∈ profile.innerParts, Clear part := by
  intro part hpart
  simp only [innerParts, traitParts, List.mem_append, List.mem_cons, List.mem_ite_nil_left,
    List.not_mem_nil, or_false] at hpart
  rcases hpart with rfl | rfl | ((rfl | rfl | rfl) | ⟨-, rfl⟩) | rfl | rfl
  · exact .under _ profile.body_identityScript.clear
  · exact .under _ profile.knowledge.body_script.clear
  · exact .under _ profile.cognition.body_script.clear
  · exact .under _ profile.motivation.body_script.clear
  · exact .under _ profile.communication.body_script.clear
  · exact .under _ profile.body_tensionsScript.clear
  · exact .under _ profile.body_innerVoiceScript.clear
  · exact .under _ profile.body_boundariesScript.clear

theorem clear_of_mem_parts : ∀ part ∈ profile.parts, Clear part := by
  rw [parts_eq]
  intro part hpart
  simp only [List.mem_cons, List.mem_append, List.not_mem_nil, or_false] at hpart
  rcases hpart with rfl | hpart | rfl
  · exact .prose Persona.passagePreamble.plain .nil
  · exact profile.clear_innerParts part hpart
  · exact .prose Persona.passagePostamble.plain .nil

theorem clear_script : Clear profile.script :=
  .blocks profile.clear_of_mem_parts

end Profile

/-! ## What is copied from the profile -/

def Knowledge.texts (knowledge : Knowledge) : List String :=
  [knowledge.domain, knowledge.topic, knowledge.understanding, knowledge.misconceptions,
    knowledge.gaps] ++ knowledge.contextText?.toList

/-- The texts of the profile that the prompt copies, in order and as often as it does.
The domain is copied twice, empty texts are left out. -/
def Profile.copies (profile : Profile) : List String :=
  (profile.displayName?.toList ++ profile.knowledge.domain :: profile.knowledge.texts).filter
    fun text => !text.isEmpty

private theorem filter_nonEmpty? (text? : Option String) :
    (nonEmpty? text?).toList.filter (fun text => !text.isEmpty) = (nonEmpty? text?).toList := by
  rw [List.filter_eq_self]
  intro text htext
  rw [Option.mem_toList, nonEmpty?, Option.filter_eq_some_iff] at htext
  exact htext.2

namespace Knowledge

variable (knowledge : Knowledge)

theorem quotes_subjectBlock :
    knowledge.subjectBlock?.elim [] Script.quotes =
      [knowledge.domain, knowledge.topic].filter fun text => !text.isEmpty := by
  unfold subjectBlock?
  by_cases hdomain : knowledge.domain.isEmpty <;> by_cases htopic : knowledge.topic.isEmpty <;>
    simp [hdomain, htopic, Script.quotes]

theorem quotes_understandingBlock :
    knowledge.understandingBlock?.elim [] Script.quotes =
      [knowledge.understanding].filter fun text => !text.isEmpty := by
  unfold understandingBlock?
  split <;> simp [*, Script.quotes]

theorem quotes_misconceptionsBlock :
    knowledge.misconceptionsBlock?.elim [] Script.quotes =
      [knowledge.misconceptions].filter fun text => !text.isEmpty := by
  unfold misconceptionsBlock?
  split <;> simp [*, Script.quotes]

theorem quotes_gapsBlock :
    knowledge.gapsBlock?.elim [] Script.quotes =
      [knowledge.gaps].filter fun text => !text.isEmpty := by
  unfold gapsBlock?
  split <;> simp [*, Script.quotes]

theorem quotes_contextBlock :
    knowledge.contextBlock?.elim [] Script.quotes = knowledge.contextText?.toList := by
  unfold contextBlock?
  cases knowledge.contextText? <;> simp [Script.quotes]

theorem quotes_script :
    knowledge.script.quotes = knowledge.texts.filter fun text => !text.isEmpty := by
  have hblocks : knowledge.script.quotes = knowledge.blocks.flatMap Script.quotes := by
    unfold script
    split
    · simp [*, Script.quotes]
    · exact Script.quotes_blocks _
  rw [hblocks, blocks, Script.quotes_filterMap_id, texts, List.filter_append, contextText?,
    filter_nonEmpty?]
  simp only [List.flatMap_cons, List.flatMap_nil, quotes_subjectBlock,
    quotes_understandingBlock, quotes_misconceptionsBlock, quotes_gapsBlock,
    quotes_contextBlock, contextText?, List.append_nil, ← List.append_assoc,
    ← List.filter_append]
  rfl

end Knowledge

namespace Profile

variable (profile : Profile)

private theorem quotes_identityScript :
    profile.identityScript.quotes =
      profile.displayName?.toList ++
        [profile.knowledge.domain].filter fun text => !text.isEmpty := by
  unfold identityScript
  cases profile.displayName? <;> cases profile.preset? <;>
    by_cases hdomain : profile.knowledge.domain.isEmpty <;> simp [hdomain, Script.quotes]

theorem quotes_traitParts : profile.traitParts.flatMap Script.quotes = [] := by
  have hcognition : profile.cognition.script.quotes = [] := Script.quotes_paragraphs _
  have hmotivation : profile.motivation.script.quotes = [] := Script.quotes_paragraphs _
  have hcommunication : profile.communication.script.quotes = [] := Script.quotes_paragraphs _
  have htensions : profile.tensionsScript.quotes = [] := by
    unfold tensionsScript
    split
    · rfl
    · exact Script.quotes_paragraphs _
  have hvoice : profile.innerVoiceScript.quotes = [] := Script.quotes_paragraphs _
  have hboundaries : profile.boundariesScript.quotes = [] := Script.quotes_paragraphs _
  unfold traitParts
  split <;>
    simp [hcognition, hmotivation, hcommunication, htensions, hvoice, hboundaries]

theorem quotes_innerParts : profile.innerParts.flatMap Script.quotes = profile.copies := by
  rw [innerParts, List.flatMap_cons, List.flatMap_cons, quotes_traitParts,
    Script.quotes_under, Script.quotes_under, quotes_identityScript, Knowledge.quotes_script,
    List.append_nil]
  rw [copies, List.filter_append, displayName?, filter_nonEmpty?, List.append_assoc,
    ← List.filter_append, List.singleton_append]

end Profile

end LearnerPersona
