import LearnerPersona.Proofs.Prompt.Influence

/-!
# Reading the dimensions back

From the heading of the cognition on, a prompt quotes nothing.  So this is where the
heading occurs last, whatever the profile has in its texts, and equal prompts are
equal from there on.  What follows is read off from left to right: a paragraph
determines its value and where it ends.
-/

namespace LearnerPersona

open LearnerPersona.Text

/-! ## The letters of a script -/

namespace Script

private theorem toList_render_under (heading : Heading) (body : Script) :
    (under heading body).render.toList = heading.line.toList ++ '\n' :: body.render.toList := by
  simp [under, Piece.render]

private theorem toList_render_blocks (part : Script) (parts : List Script) :
    (blocks (part :: parts)).render.toList =
      part.render.toList ++
        parts.flatMap fun other => '\n' :: '\n' :: other.render.toList := by
  induction parts generalizing part with
  | nil => simp [blocks]
  | cons next parts ih => simp [blocks, ih, Piece.render]

theorem toList_render_paragraphs (passage : String) (passages : List String) :
    (paragraphs (passage :: passages)).render.toList =
      passage.toList ++ passages.flatMap fun other => '\n' :: '\n' :: other.toList := by
  rw [paragraphs, List.map_cons, toList_render_blocks, List.flatMap_map]
  simp [Piece.render]

end Script

/-! ## Cognition -/

namespace Cognition

private theorem toList_intercalate (preference : Preference) (preferences : List Preference) :
    (" ".intercalate ((preference :: preferences).map prose)).toList =
      (prose preference).toList ++
        preferences.flatMap fun other => ' ' :: (prose other).toList := by
  induction preferences generalizing preference with
  | nil => simp
  | cons next preferences ih =>
      rw [List.map_cons, List.map_cons, String.intercalate_cons_cons, ← List.map_cons,
        String.toList_append, ih]
      simp

/-- A blank goes on with the list, a line break ends it. -/
private theorem preferences_inj {first second : List Preference} {rest rest' : List Char}
    (h : (first.flatMap fun other => ' ' :: (prose other).toList) ++ '\n' :: rest =
      (second.flatMap fun other => ' ' :: (prose other).toList) ++ '\n' :: rest') :
    first = second ∧ rest = rest' := by
  induction first generalizing second with
  | nil =>
      cases second with
      | nil => simpa using h
      | cons preference second => simp at h
  | cons preference first ih =>
      cases second with
      | nil => simp at h
      | cons preference' second =>
          simp only [List.flatMap_cons, List.cons_append, List.append_assoc,
            List.cons.injEq, true_and] at h
          obtain ⟨rfl, htail⟩ := prefixFree_prose Preference h
          obtain ⟨rfl, hrest⟩ := ih htail
          exact ⟨rfl, hrest⟩

private theorem head_preferencesTitle : preferencesTitle.toList.head? = some 'H' := by
  decide +kernel

/-- The next heading tells where the cognition ends. -/
theorem script_inj {cognition cognition' : Cognition} {rest rest' : List Char}
    (h : cognition.script.render.toList ++ '\n' :: '\n' :: '=' :: rest =
      cognition'.script.render.toList ++ '\n' :: '\n' :: '=' :: rest') :
    cognition = cognition' ∧ rest = rest' := by
  obtain ⟨title, htitle⟩ := List.head?_eq_some_iff.mp head_preferencesTitle
  obtain ⟨priorKnowledge, workingMemory, metacognition, preferences⟩ := cognition
  obtain ⟨priorKnowledge', workingMemory', metacognition', preferences'⟩ := cognition'
  simp only [script, List.cons_append, List.nil_append, Script.toList_render_paragraphs,
    List.flatMap_cons, List.append_assoc] at h
  obtain ⟨rfl, hworking⟩ := prefixFree_prose PriorKnowledge h
  simp only [List.cons.injEq, true_and] at hworking
  obtain ⟨rfl, hmetacognition⟩ := prefixFree_prose WorkingMemory hworking
  simp only [List.cons.injEq, true_and] at hmetacognition
  obtain ⟨rfl, hpreferences⟩ := prefixFree_prose Metacognition hmetacognition
  cases preferences with
  | nil =>
      cases preferences' with
      | nil => simpa using hpreferences
      | cons preference' preferences' => simp [htitle] at hpreferences
  | cons preference preferences =>
      cases preferences' with
      | nil => simp [htitle] at hpreferences
      | cons preference' preferences' =>
          simp only [List.isEmpty_cons, Bool.false_eq_true, if_false, List.flatMap_cons,
            List.flatMap_nil, List.append_nil, String.toList_append, toList_intercalate,
            List.cons_append, List.append_assoc, List.cons.injEq, true_and] at hpreferences
          have hfirst := List.append_cancel_left (List.append_cancel_left hpreferences)
          obtain ⟨rfl, hothers⟩ := prefixFree_prose Preference hfirst
          obtain ⟨rfl, hrest⟩ := preferences_inj hothers
          exact ⟨rfl, by simpa using hrest⟩

end Cognition

/-! ## Motivation and communication -/

theorem Motivation.prefixFree_script :
    PrefixFree fun motivation : Motivation => motivation.script.render.toList := by
  intro motivation motivation' rest rest' h
  obtain ⟨engagement, efficacy, goal, tolerance⟩ := motivation
  obtain ⟨engagement', efficacy', goal', tolerance'⟩ := motivation'
  simp only [script, List.cons_append, List.nil_append, Script.toList_render_paragraphs,
    List.flatMap_cons, List.append_assoc] at h
  obtain ⟨rfl, hefficacy⟩ := prefixFree_prose Engagement h
  simp only [List.cons.injEq, true_and] at hefficacy
  obtain ⟨rfl, hgoal⟩ := prefixFree_prose Efficacy hefficacy
  simp only [List.cons.injEq, true_and] at hgoal
  obtain ⟨rfl, htolerance⟩ := prefixFree_prose Goal hgoal
  simp only [List.cons.injEq, true_and] at htolerance
  obtain ⟨rfl, hfrustration⟩ := prefixFree_prose Tolerance htolerance
  -- Self-belief is known by now, and with it the paragraph on frustration.
  exact ⟨rfl, List.append_cancel_left hfrustration⟩

theorem Communication.prefixFree_script :
    PrefixFree fun communication : Communication => communication.script.render.toList := by
  intro communication communication' rest rest' h
  obtain ⟨verbosity, helpSeeking, correction, register⟩ := communication
  obtain ⟨verbosity', helpSeeking', correction', register'⟩ := communication'
  simp only [script, Script.toList_render_paragraphs, List.flatMap_cons, List.flatMap_nil,
    List.cons_append, List.append_nil, List.append_assoc] at h
  obtain ⟨rfl, hhelp⟩ := prefixFree_prose Verbosity h
  simp only [List.cons.injEq, true_and] at hhelp
  obtain ⟨rfl, hcorrection⟩ := prefixFree_prose HelpSeeking hhelp
  simp only [List.cons.injEq, true_and] at hcorrection
  obtain ⟨rfl, hregister⟩ := prefixFree_prose Correction hcorrection
  simp only [List.cons.injEq, true_and] at hregister
  obtain ⟨rfl, hrest⟩ := prefixFree_prose Register hregister
  exact ⟨rfl, hrest⟩

/-! ## Inner voice -/

private theorem InnerVoice.diverge_hesitation (efficacy : Efficacy)
    (metacognition : Metacognition) :
    diverge (hesitation efficacy metacognition).toList
      (misconceptionClause metacognition).toList = true := by
  rw [(spellHesitation efficacy metacognition).toList_eq,
    (spellMisconceptionClause metacognition).toList_eq]
  cases metacognition <;> cases efficacy <;> decide +kernel

namespace Profile

variable {profile profile' : Profile} {rest rest' : List Char}

private theorem isEmpty_misconceptions_eq
    (hmetacognition : profile.cognition.metacognition = profile'.cognition.metacognition)
    (hefficacy : profile.motivation.efficacy = profile'.motivation.efficacy)
    (h : profile.innerVoiceScript.render.toList ++ rest =
      profile'.innerVoiceScript.render.toList ++ rest') :
    profile.knowledge.misconceptions.isEmpty = profile'.knowledge.misconceptions.isEmpty := by
  have hdiverge := InnerVoice.diverge_hesitation profile'.motivation.efficacy
    profile'.cognition.metacognition
  simp only [innerVoiceScript, hmetacognition, hefficacy, List.cons_append, List.nil_append,
    Script.toList_render_paragraphs, List.flatMap_cons, List.append_assoc] at h
  have hreasoning := List.append_cancel_left h
  simp only [List.cons.injEq, true_and] at hreasoning
  have hclause := List.append_cancel_left hreasoning
  cases hempty : profile.knowledge.misconceptions.isEmpty <;>
    cases hempty' : profile'.knowledge.misconceptions.isEmpty
  · rfl
  · simp [hempty, hempty'] at hclause
    exact absurd hclause (append_ne_of_diverge (diverge_symm hdiverge))
  · simp [hempty, hempty'] at hclause
    exact absurd hclause (append_ne_of_diverge hdiverge)
  · rfl

/-! ## The end of the prompt -/

/-- The prompt from the cognition on. -/
def backScript (profile : Profile) : Script :=
  Script.blocks (profile.traitParts ++ [[.prose Persona.postamble]])

theorem script_eq_append_backScript (profile : Profile) :
    ∃ front, profile.script = front ++ profile.backScript := by
  refine ⟨Script.blocks [[.prose Persona.preamble],
    Script.under .identity profile.identityScript,
    Script.under .knowledge profile.knowledge.script] ++ [.prose "\n\n"], ?_⟩
  simp [script, parts_eq, innerParts, backScript, traitParts, Script.blocks]

private theorem clear_backScript (profile : Profile) : Script.Clear profile.backScript := by
  apply Script.Clear.blocks
  intro part hpart
  apply profile.clear_of_mem_parts
  rw [parts_eq, innerParts]
  exact List.mem_cons_of_mem _ (List.mem_cons_of_mem _ (List.mem_cons_of_mem _ hpart))

private theorem quotes_backScript (profile : Profile) : profile.backScript.quotes = [] := by
  rw [backScript, Script.quotes_blocks, List.flatMap_append, quotes_traitParts]
  rfl

/-- The heading at the front is the only one, as the rest is plain or another heading. -/
theorem positions_backScript (profile : Profile) :
    Heading.cognition.positions profile.backScript.render = [0] := by
  obtain ⟨front, hfront⟩ := profile.script_eq_append_backScript
  have hquotes := profile.quotes_backScript
  obtain ⟨rest, hrest⟩ : ∃ rest, profile.backScript = .title .cognition :: rest := by
    simp [backScript, traitParts, Script.blocks, Script.under]
  rw [profile.clear_backScript.positions_render]
  rw [hrest] at hfront hquotes ⊢
  exact profile.positions_of_script_eq hfront hquotes

theorem backScript_eq_of_prompt_eq (h : profile.compile.prompt = profile'.compile.prompt) :
    profile.backScript.render.toList = profile'.backScript.render.toList := by
  obtain ⟨front, hfront⟩ := profile.script_eq_append_backScript
  obtain ⟨front', hfront'⟩ := profile'.script_eq_append_backScript
  rw [prompt_compile, prompt_compile, hfront, hfront', Script.render_append,
    Script.render_append] at h
  have hletters := congrArg String.toList h
  rw [String.toList_append, String.toList_append] at hletters
  exact (append_inj_of_positions_eq profile.positions_backScript
    profile'.positions_backScript hletters).2

/-! ## Everything but the free text -/

/-- The dimensions in the profile. -/
structure Alike (profile profile' : Profile) : Prop where
  cognition : profile.cognition = profile'.cognition
  motivation : profile.motivation = profile'.motivation
  communication : profile.communication = profile'.communication

namespace Alike

theorem sameScalars (h : Alike profile profile') : SameScalars profile profile' where
  priorKnowledge := by rw [h.cognition]
  workingMemory := by rw [h.cognition]
  metacognition := by rw [h.cognition]
  motivation := h.motivation
  communication := h.communication

theorem tensionsScript_eq (h : Alike profile profile') :
    profile.tensionsScript = profile'.tensionsScript :=
  h.sameScalars.tensionsScript_eq

theorem boundariesScript_eq (h : Alike profile profile') :
    profile.boundariesScript = profile'.boundariesScript :=
  h.sameScalars.boundariesScript_eq

theorem innerVoiceScript_eq (h : Alike profile profile')
    (hempty : profile.knowledge.misconceptions.isEmpty =
      profile'.knowledge.misconceptions.isEmpty) :
    profile.innerVoiceScript = profile'.innerVoiceScript := by
  have hempty' : profile.knowledge.misconceptions = "" ↔
      profile'.knowledge.misconceptions = "" := by
    rw [← String.isEmpty_iff, ← String.isEmpty_iff, hempty]
  exact Profile.innerVoiceScript_eq h.sameScalars.metacognition (by rw [h.motivation]) hempty'

end Alike

private theorem toList_render_backScript (profile : Profile) :
    profile.backScript.render.toList =
      (Script.under .cognition profile.cognition.script).render.toList ++ '\n' :: '\n' ::
      ((Script.under .motivation profile.motivation.script).render.toList ++ '\n' :: '\n' ::
      ((Script.under .communication profile.communication.script).render.toList ++
      ((if profile.tensionsScript.isEmpty then []
          else '\n' :: '\n' ::
            (Script.under .tensions profile.tensionsScript).render.toList) ++ '\n' :: '\n' ::
      ((Script.under .innerVoice profile.innerVoiceScript).render.toList ++ '\n' :: '\n' ::
      ((Script.under .boundaries profile.boundariesScript).render.toList ++ '\n' :: '\n' ::
        Persona.postamble.toList))))) := by
  rw [backScript, traitParts]
  simp only [List.cons_append, List.nil_append, List.append_assoc, Script.toList_render_blocks,
    List.flatMap_cons]
  split <;> simp [Piece.render]

private theorem head_motivation : Heading.motivation.line.toList.head? = some '=' := by
  rw [Heading.motivation.spelling.toList_eq]
  rfl

private theorem alike_of_backScript_eq
    (h : profile.backScript.render.toList = profile'.backScript.render.toList) :
    Alike profile profile' ∧
      profile.knowledge.misconceptions.isEmpty =
        profile'.knowledge.misconceptions.isEmpty := by
  obtain ⟨title, htitle⟩ := List.head?_eq_some_iff.mp head_motivation
  rw [toList_render_backScript, toList_render_backScript] at h
  simp only [Script.toList_render_under, List.append_assoc, List.cons_append, htitle] at h
  have hcognition := List.append_cancel_left h
  simp only [List.cons.injEq, true_and] at hcognition
  obtain ⟨hcognition, hmotivation⟩ := Cognition.script_inj hcognition
  have hmotivation := List.append_cancel_left hmotivation
  simp only [List.cons.injEq, true_and] at hmotivation
  obtain ⟨hmotivation, hcommunication⟩ := Motivation.prefixFree_script hmotivation
  simp only [List.cons.injEq, true_and] at hcommunication
  have hcommunication := List.append_cancel_left hcommunication
  simp only [List.cons.injEq, true_and] at hcommunication
  obtain ⟨hcommunication, htensions⟩ := Communication.prefixFree_script hcommunication
  have halike : Alike profile profile' := ⟨hcognition, hmotivation, hcommunication⟩
  rw [halike.tensionsScript_eq] at htensions
  have hvoice := List.append_cancel_left htensions
  simp only [List.cons.injEq, true_and] at hvoice
  have hvoice := List.append_cancel_left hvoice
  simp only [List.cons.injEq, true_and] at hvoice
  exact ⟨halike, isEmpty_misconceptions_eq (by rw [hcognition]) (by rw [hmotivation]) hvoice⟩

/-- Whatever the free text, the prompt tells the dimensions, the sections that depend on
them, and whether there are misconceptions. -/
theorem dimensions_eq_of_prompt_eq (h : profile.compile.prompt = profile'.compile.prompt) :
    profile.cognition = profile'.cognition ∧
    profile.motivation = profile'.motivation ∧
    profile.communication = profile'.communication ∧
    profile.compile.sections.tensions = profile'.compile.sections.tensions ∧
    profile.compile.sections.innerVoice = profile'.compile.sections.innerVoice ∧
    profile.compile.sections.boundaries = profile'.compile.sections.boundaries ∧
    (profile.knowledge.misconceptions = "" ↔ profile'.knowledge.misconceptions = "") := by
  obtain ⟨halike, hempty⟩ := alike_of_backScript_eq (backScript_eq_of_prompt_eq h)
  refine ⟨halike.cognition, halike.motivation, halike.communication, ?_, ?_, ?_, ?_⟩
  · simp only [compile, sections, halike.tensionsScript_eq]
  · simp only [compile, sections, halike.innerVoiceScript_eq hempty]
  · simp only [compile, sections, halike.boundariesScript_eq]
  · rw [← String.isEmpty_iff, ← String.isEmpty_iff, hempty]

/-- The subject is part of the name. -/
def subjectInName : Profile where
  id := "subject-in-name"
  name? := some "Sam studying a subject"
  knowledge := { topic := "limits" }

/-- The prompt cannot tell this profile from `subjectInName`. -/
def subjectInDomain : Profile where
  id := "subject-in-domain"
  name? := some "Sam"
  knowledge := { domain := "a subject", topic := "limits" }

private theorem prompt_subjectInName :
    subjectInName.compile.prompt = subjectInDomain.compile.prompt := by
  have hidentity : subjectInName.identityScript.render =
      subjectInDomain.identityScript.render := by
    decide +kernel
  have hknowledge : subjectInName.knowledge.script.render =
      subjectInDomain.knowledge.script.render := by
    decide +kernel
  have hletters : subjectInName.script.render.toList =
      subjectInDomain.script.render.toList := by
    simp only [script, parts_eq, innerParts, Script.toList_render_blocks, List.flatMap_append,
      List.flatMap_cons, Script.toList_render_under, hidentity, hknowledge]
    rfl
  rw [prompt_compile, prompt_compile, ← String.toList_inj, hletters]

theorem dimensions_eq_of_subject_moved :
    subjectInName.compile.prompt = subjectInDomain.compile.prompt ∧
      subjectInName.name? ≠ subjectInDomain.name? ∧
      subjectInName.cognition = subjectInDomain.cognition :=
  ⟨prompt_subjectInName, by decide, (dimensions_eq_of_prompt_eq prompt_subjectInName).1⟩

end Profile

end LearnerPersona
