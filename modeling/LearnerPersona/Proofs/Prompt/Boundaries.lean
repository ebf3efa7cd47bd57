import LearnerPersona.Proofs.Prompt.Recovery
import LearnerPersona.Proofs.Text.Paragraphs

/-!
# The end of a prompt

The boundaries close every prompt, whatever the learner's own words are: nothing that is
copied from the profile stands behind their heading.  The core rule comes first, then each
open valve in a paragraph of its own.
-/

namespace LearnerPersona

open LearnerPersona.Text

/-! ## Letters of the fixed paragraphs -/

/-- The text has neither a line break nor the brace that opens a marker. -/
structure Bare (text : String) : Prop where
  unbroken : '\n' ∉ text.toList
  unmarked : '\x7b' ∉ text.toList

theorem Bare.of_spelling {text : String} (spelling : Spelling text)
    (h : (spelling.lacks '\n' && spelling.lacks '\x7b') = true) : Bare text := by
  obtain ⟨hbreak, hbrace⟩ := Bool.and_eq_true_iff.mp h
  exact ⟨spelling.not_mem_of_lacks hbreak, spelling.not_mem_of_lacks hbrace⟩

namespace Script

private theorem not_mem_render_paragraphs {letter : Char} (hletter : letter ≠ '\n')
    {passage : String} {passages : List String}
    (h : ∀ other ∈ passage :: passages, letter ∉ other.toList) :
    letter ∉ (paragraphs (passage :: passages)).render.toList := by
  obtain ⟨hpassage, hpassages⟩ := List.forall_mem_cons.mp h
  rw [toList_render_paragraphs, List.mem_append, List.mem_flatMap]
  rintro (hmem | ⟨other, hother, hmem⟩)
  · exact hpassage hmem
  · simp only [List.mem_cons, hletter, false_or] at hmem
    exact hpassages other hother hmem

theorem paragraphs_render_paragraphs {passage : String} {passages : List String}
    (h : ∀ other ∈ passage :: passages, '\n' ∉ other.toList) :
    Text.paragraphs (paragraphs (passage :: passages)).render.toList =
      (passage :: passages).map String.toList := by
  obtain ⟨hpassage, hpassages⟩ := List.forall_mem_cons.mp h
  have hothers : ∀ other ∈ passages.map String.toList, '\n' ∉ other := by
    intro other hother
    obtain ⟨source, hsource, rfl⟩ := List.mem_map.mp hother
    exact hpassages source hsource
  rw [toList_render_paragraphs, List.map_cons, ← paragraphs_flatMap hpassage hothers,
    List.flatMap_map]

end Script

/-! ## Valves -/

/-- What is let out although the learner holds back. -/
inductive Valve where
  | disengagement | shutdown | defeat | terse
  deriving DecidableEq, Repr

namespace Valve

def all : List Valve := [.disengagement, .shutdown, .defeat, .terse]

def isOpen (profile : Profile) : Valve → Bool
  | .disengagement =>
      profile.motivation.engagement = .disengaged || profile.motivation.engagement = .resistant
  | .shutdown => profile.communication.correction = .shutsDown
  | .defeat => profile.motivation.efficacy = .defeated
  | .terse => profile.communication.verbosity = .terse

def text (engagement : Engagement) : Valve → String
  | .disengagement =>
      Boundaries.disengagementFront ++ name engagement ++ Boundaries.disengagementBack
  | .shutdown => Boundaries.shutdownValve
  | .defeat => Boundaries.defeatValve
  | .terse => Boundaries.terseValve

private theorem bare_text (engagement : Engagement) (valve : Valve) :
    Bare (valve.text engagement) := by
  have hshutdown : Bare Boundaries.shutdownValve :=
    .of_spelling Boundaries.passageShutdownValve.spelling (by decide +kernel)
  have hdefeat : Bare Boundaries.defeatValve :=
    .of_spelling Boundaries.passageDefeatValve.spelling (by decide +kernel)
  have hterse : Bare Boundaries.terseValve :=
    .of_spelling Boundaries.passageTerseValve.spelling (by decide +kernel)
  cases valve with
  | disengagement =>
      rw [text, ← Boundaries.disengagementValve_eq]
      cases engagement <;>
        exact .of_spelling (Boundaries.spellDisengagementValve _) (by decide +kernel)
  | shutdown => exact hshutdown
  | defeat => exact hdefeat
  | terse => exact hterse

end Valve

namespace Boundaries

private theorem bare_coreRule : Bare coreRule :=
  .of_spelling passageCoreRule.spelling (by decide +kernel)

end Boundaries

namespace Profile

variable (profile : Profile)

def openValves : List Valve := Valve.all.filter (Valve.isOpen profile)

theorem valves_eq : profile.valves =
    profile.openValves.map (Valve.text profile.motivation.engagement) := by
  have hcons (valve : Valve) (valves : List Valve) :
      ((valve :: valves).filter (Valve.isOpen profile)).map
          (Valve.text profile.motivation.engagement) =
        (if valve.isOpen profile then [valve.text profile.motivation.engagement] else []) ++
          (valves.filter (Valve.isOpen profile)).map
            (Valve.text profile.motivation.engagement) := by
    cases h : valve.isOpen profile <;> simp [h]
  rw [openValves, Valve.all, hcons, hcons, hcons, hcons]
  simp [valves, Valve.isOpen, Valve.text, Boundaries.disengagementValve_eq]

theorem bare_boundaries : ∀ passage ∈ Boundaries.coreRule :: profile.valves, Bare passage := by
  intro passage hpassage
  rw [valves_eq, List.mem_cons, List.mem_map] at hpassage
  rcases hpassage with rfl | ⟨valve, -, rfl⟩
  · exact Boundaries.bare_coreRule
  · exact valve.bare_text _

private theorem unmarked_innerVoice : '\x7b' ∉ profile.innerVoiceScript.render.toList := by
  have hreasoning (efficacy : Efficacy) (metacognition : Metacognition) :
      '\x7b' ∉ (InnerVoice.reasoning efficacy metacognition).toList := by
    apply (InnerVoice.spellReasoning efficacy metacognition).not_mem_of_lacks
    cases metacognition <;> cases efficacy <;> decide +kernel
  have hclause (metacognition : Metacognition) :
      '\x7b' ∉ (InnerVoice.misconceptionClause metacognition).toList := by
    apply (InnerVoice.spellMisconceptionClause metacognition).not_mem_of_lacks
    cases metacognition <;> decide +kernel
  have hhesitation (efficacy : Efficacy) (metacognition : Metacognition) :
      '\x7b' ∉ (InnerVoice.hesitation efficacy metacognition).toList := by
    apply (InnerVoice.spellHesitation efficacy metacognition).not_mem_of_lacks
    cases efficacy <;> cases metacognition <;> decide +kernel
  have hlead : '\x7b' ∉ InnerVoice.lead.toList :=
    InnerVoice.passageLead.spelling.not_mem_of_lacks (by decide +kernel)
  have hpassages : ∀ passage ∈ profile.innerVoicePassages, '\x7b' ∉ passage.toList := by
    intro passage hpassage
    rcases profile.eq_of_mem_innerVoicePassages hpassage with rfl | rfl | rfl | rfl
    · exact hlead
    · exact hreasoning _ _
    · exact hclause _
    · exact hhesitation _ _
  rw [innerVoiceScript_eq_paragraphs]
  exact Script.not_mem_render_paragraphs (by decide) hpassages

/-! ## The close -/

def closeScript : Script :=
  .prose "\n" :: profile.boundariesScript ++ [.prose "\n\n", .prose Persona.postamble]

theorem script_eq_append_closeScript :
    ∃ front, profile.script = front ++ .title .boundaries :: profile.closeScript := by
  obtain ⟨others, hparts⟩ : ∃ others, profile.parts = [.prose Persona.preamble] ::
      (others ++ [Script.under .boundaries profile.boundariesScript] ++
        [[.prose Persona.postamble]]) := by
    refine ⟨[Script.under .identity profile.identityScript,
      Script.under .knowledge profile.knowledge.script,
      Script.under .cognition profile.cognition.script,
      Script.under .motivation profile.motivation.script,
      Script.under .communication profile.communication.script] ++
        (if profile.tensionsScript.isEmpty then []
          else [Script.under .tensions profile.tensionsScript]) ++
        [Script.under .innerVoice profile.innerVoiceScript], ?_⟩
    simp [parts]
  -- The last two parts are split off one after the other.
  refine ⟨Script.blocks ([.prose Persona.preamble] :: others) ++ [.prose "\n\n"], ?_⟩
  rw [script, hparts, Script.blocks_concat, Script.blocks_concat]
  simp [closeScript, Script.under]

private theorem quotes_closeScript : profile.closeScript.quotes = [] := by
  have hboundaries : profile.boundariesScript.quotes = [] := Script.quotes_paragraphs _
  rw [closeScript, List.cons_append, ← List.singleton_append, Script.quotes_append,
    Script.quotes_append, hboundaries]
  rfl

private theorem render_closeScript : profile.closeScript.render =
    "\n" ++ Boundaries.coreRule ++ String.join (profile.valves.map ("\n\n" ++ ·)) ++ "\n\n" ++
      Persona.postamble := by
  have hboundaries : profile.boundariesScript.render =
      Boundaries.coreRule ++ String.join (profile.valves.map ("\n\n" ++ ·)) := by
    have hbreak (valve : String) : ("\n\n" ++ valve).toList = '\n' :: '\n' :: valve.toList :=
      String.toList_append
    rw [← String.toList_inj, boundariesScript, Script.toList_render_paragraphs,
      String.toList_append, String.toList_join, List.flatMap_map]
    simp only [hbreak]
  rw [closeScript, List.cons_append, Script.render_cons, Script.render_append, hboundaries]
  simp [Piece.render, String.append_assoc]

/--
Behind the last heading of the boundaries a prompt has the core rule, the open valves and
the final instructions, each after a blank line, and nothing else.  The valve for the
disengaged is its template with the name of their engagement in the place of the mark, no
mark is left over, and the section has a paragraph for the rule and one for each open valve.
-/
theorem boundaries_close_prompt :
    let paragraphs := profile.openValves.map (Valve.text profile.motivation.engagement)
    let sections := profile.compile.sections
    (∃ before, profile.compile.prompt = before ++ Heading.boundaries.line ++
        ("\n" ++ Boundaries.coreRule ++ String.join (paragraphs.map ("\n\n" ++ ·)) ++ "\n\n" ++
          Persona.postamble) ∧
      (Heading.boundaries.positions profile.compile.prompt).getLast? = some before.length) ∧
    (∃ front back,
      Boundaries.disengagementTemplate = front ++ "\x7bengagement\x7d" ++ back ∧
      ∀ engagement : Engagement,
        Valve.disengagement.text engagement = front ++ name engagement ++ back) ∧
    (∀ marker ∈ ["\x7bengagement\x7d", "\x7bflavor\x7d"],
      ¬ marker.toList <:+: sections.boundaries.toList ∧
      ¬ marker.toList <:+: sections.innerVoice.toList) ∧
    Text.paragraphs sections.boundaries.toList =
      (Boundaries.coreRule :: paragraphs).map String.toList ∧
    (Text.paragraphs sections.boundaries.toList).length = 1 + profile.openValves.length := by
  intro paragraphs sections
  have hvalves : profile.valves = paragraphs := profile.valves_eq
  have hparagraphs : Text.paragraphs sections.boundaries.toList =
      (Boundaries.coreRule :: paragraphs).map String.toList := by
    rw [← hvalves]
    exact Script.paragraphs_render_paragraphs fun passage hpassage =>
      (profile.bare_boundaries passage hpassage).unbroken
  have hboundaries : '\x7b' ∉ sections.boundaries.toList :=
    Script.not_mem_render_paragraphs (by decide) fun passage hpassage =>
      (profile.bare_boundaries passage hpassage).unmarked
  refine ⟨?close, ⟨_, _, Boundaries.disengagementTemplate_eq, fun _ => rfl⟩, ?markers,
    hparagraphs, ?count⟩
  case close =>
    obtain ⟨front, hscript⟩ := profile.script_eq_append_closeScript
    refine ⟨Script.render front, ?_, ?_⟩
    · rw [prompt_compile, hscript, Script.render_append, Script.render_cons, Piece.render,
        render_closeScript, ← hvalves, ← String.append_assoc]
    · rw [positions_prompt, hscript, Script.positions_append,
        profile.positions_of_script_eq hscript profile.quotes_closeScript]
      simp
  case markers =>
    have hmarkers : ∀ marker ∈ ["\x7bengagement\x7d", "\x7bflavor\x7d"],
        '\x7b' ∈ marker.toList := by
      decide +kernel
    intro marker hmarker
    have hbrace := hmarkers marker hmarker
    exact ⟨fun hinside => hboundaries (hinside.subset hbrace),
      fun hinside => profile.unmarked_innerVoice (hinside.subset hbrace)⟩
  case count =>
    rw [hparagraphs, List.length_map, List.length_cons, List.length_map, Nat.add_comm]

end Profile

end LearnerPersona
