import LearnerPersona.Proofs.Prompt.Sections

/-!
# The headings of a prompt

A heading occurs in a prompt where the assembler puts it and inside the copies of
the profile's texts.  If none of these texts has a heading, the prompt has each of
its headings once, in their order, between the preamble and the postamble.
-/

namespace LearnerPersona

namespace Profile

variable (profile : Profile)

/-- The headings that the prompt of the profile has, in their order. -/
def headings : List Heading :=
  [.identity, .knowledge, .cognition, .motivation, .communication, .tensions, .innerVoice,
    .boundaries].filter fun heading => heading ≠ .tensions ∨ profile.tensions ≠ []

theorem tensionsScript_isEmpty :
    profile.tensionsScript.isEmpty = profile.tensions.isEmpty := by
  unfold tensionsScript
  split
  · simp [*]
  · cases htensions : profile.tensions with
    | nil => contradiction
    | cons tension rest => simp [Script.paragraphs, Script.blocks]

private theorem headings_innerParts :
    profile.innerParts.flatMap Script.headings = profile.headings := by
  have htensions : profile.headings =
      [.identity, .knowledge, .cognition, .motivation, .communication] ++
        (if profile.tensionsScript.isEmpty then [] else [.tensions]) ++
        [.innerVoice, .boundaries] := by
    rw [tensionsScript_isEmpty]
    cases h : profile.tensions <;> simp [headings, h]
  rw [htensions]
  simp only [innerParts, traitParts, List.flatMap_append, List.flatMap_cons, List.flatMap_nil,
    Script.headings_under, profile.body_identityScript.untitled,
    profile.knowledge.body_script.untitled, profile.cognition.body_script.untitled,
    profile.motivation.body_script.untitled, profile.communication.body_script.untitled,
    profile.body_innerVoiceScript.untitled, profile.body_boundariesScript.untitled]
  split <;> simp [profile.body_tensionsScript.untitled]

theorem nodup_headings : profile.headings.Nodup :=
  (by decide : [Heading.identity, .knowledge, .cognition, .motivation, .communication,
    .tensions, .innerVoice, .boundaries].Nodup).sublist List.filter_sublist

private theorem count_headings (heading : Heading) :
    profile.headings.count heading =
      if heading = .tensions ∧ profile.tensions = [] then 0 else 1 := by
  cases h : profile.tensions <;> cases heading <;> simp [headings, h]

theorem headings_script : profile.script.headings = profile.headings := by
  rw [script, Script.headings_blocks, parts_eq, ← headings_innerParts]
  simp [Script.headings]

theorem quotes_script : profile.script.quotes = profile.copies := by
  rw [script, Script.quotes_blocks, parts_eq, ← quotes_innerParts]
  simp [Script.quotes]

theorem script_eq :
    ∃ inner, profile.script =
      .prose Persona.preamble :: (inner ++ [.prose Persona.postamble]) := by
  refine ⟨.prose "\n\n" :: (Script.blocks profile.innerParts ++ [.prose "\n\n"]), ?_⟩
  rw [script, parts_eq, Script.blocks_concat]
  simp [innerParts, Script.blocks]

/-- The free text of a profile, each field once. -/
def freeTexts : List String :=
  [profile.name?.getD "", profile.knowledge.domain, profile.knowledge.topic,
    profile.knowledge.understanding, profile.knowledge.misconceptions, profile.knowledge.gaps,
    profile.knowledge.context?.getD ""]

private theorem mem_freeTexts_of_mem_copies {text : String} (h : text ∈ profile.copies) :
    text ∈ profile.freeTexts := by
  have hpresent : ∀ text? : Option String, text ∈ (nonEmpty? text?).toList →
      text = text?.getD "" := by
    intro text? htext
    rw [Option.mem_toList, nonEmpty?, Option.filter_eq_some_iff] at htext
    simp [htext.1]
  have hname := hpresent profile.name?
  have hcontext := hpresent profile.knowledge.context?
  have htext := (List.mem_filter.mp h).1
  simp only [Knowledge.texts, displayName?, Knowledge.contextText?, List.mem_append,
    List.mem_cons, List.not_mem_nil, or_false] at htext
  simp only [freeTexts, List.mem_cons, List.not_mem_nil, or_false]
  tauto

private theorem countAll_copies (heading : Heading) :
    heading.countAll profile.copies =
      heading.count (profile.name?.getD "") + 2 * heading.count profile.knowledge.domain +
        heading.count profile.knowledge.topic + heading.count profile.knowledge.understanding +
        heading.count profile.knowledge.misconceptions + heading.count profile.knowledge.gaps +
        heading.count (profile.knowledge.context?.getD "") := by
  rw [copies, Heading.countAll_filter_not_isEmpty]
  simp only [Knowledge.texts, displayName?, Knowledge.contextText?,
    Heading.countAll_nonEmpty?, Heading.countAll_append, Heading.countAll_cons,
    Heading.countAll_nil]
  omega

theorem prompt_compile : profile.compile.prompt = profile.script.render := by
  simp only [compile]

theorem positions_prompt (heading : Heading) :
    heading.positions profile.compile.prompt = profile.script.positions heading := by
  rw [prompt_compile, profile.clear_script.positions_render]

/-- From where the profile is not quoted any more, a heading occurs as a title only. -/
theorem positions_of_script_eq {heading : Heading} {front rest : Script}
    (hscript : profile.script = front ++ .title heading :: rest) (hquotes : rest.quotes = []) :
    Script.positions heading (.title heading :: rest) = [0] := by
  have hnodup : (Script.headings (front ++ .title heading :: rest)).Nodup := by
    rw [← hscript, headings_script]
    exact profile.nodup_headings
  rw [Script.headings_append] at hnodup
  have hheading : heading ∉ Script.headings rest :=
    (List.nodup_cons.mp (List.nodup_append.mp hnodup).2.1).1
  have hsound : ∀ piece ∈ rest, piece.Sound := fun piece hpiece =>
    profile.clear_script.sound piece (by simp [hscript, hpiece])
  exact Script.positions_title_cons hsound hheading hquotes

theorem mem_positions_prompt {heading : Heading} {position : Nat}
    (h : position ∈ heading.positions profile.compile.prompt) :
    ∃ front piece back offset, profile.script = front ++ piece :: back ∧
      position = (Script.render front).length + offset ∧
      offset ∈ heading.positions piece.render ∧
      (piece = .title heading ∧ offset = 0 ∨
        ∃ text ∈ profile.copies, piece = .verbatim text) := by
  rw [positions_prompt] at h
  obtain ⟨front, piece, back, offset, hscript, hoffset, hposition⟩ := Script.mem_positions h
  have hpiece : piece ∈ profile.script := by simp [hscript]
  refine ⟨front, piece, back, offset, hscript, hposition, hoffset, ?_⟩
  rcases Script.mem_positions_piece (profile.clear_script.sound piece hpiece) hoffset
    with htitle | ⟨text, rfl⟩
  · exact .inl htitle
  · exact .inr ⟨text, profile.quotes_script ▸ Script.mem_quotes.mpr hpiece, rfl⟩

private theorem positions_title {placed : Heading × Nat} (hplaced : placed ∈ profile.script.titles)
    (hfree : ∀ text ∈ profile.copies, placed.1.positions text = []) :
    placed.1.positions profile.compile.prompt = [placed.2] := by
  have hnodup : (profile.script.titles.map Prod.fst).Nodup := by
    rw [Script.titles_map_fst, headings_script]
    exact profile.nodup_headings
  rw [positions_prompt, Script.positions_eq_titles profile.clear_script.sound
    (profile.quotes_script ▸ hfree), Script.filter_titles_eq_singleton hnodup hplaced]
  rfl

private theorem titles_between {inner : Script} {placed : Heading × Nat}
    (hscript : profile.script =
      .prose Persona.preamble :: (inner ++ [.prose Persona.postamble]))
    (hplaced : placed ∈ profile.script.titles) :
    Persona.preamble.length ≤ placed.2 ∧
      placed.2 + placed.1.line.length ≤ (Persona.preamble ++ Script.render inner).length := by
  have htitles : profile.script.titles =
      (Script.titles inner).map (Script.shift Persona.preamble.length) := by
    rw [hscript, ← Script.titles_append_prose inner Persona.postamble]
    rfl
  rw [htitles, List.mem_map] at hplaced
  obtain ⟨title, htitle, rfl⟩ := hplaced
  have hend := Script.end_le_of_mem_titles htitle
  simp only [Script.shift, String.length_append]
  omega

/-- Every heading is put once, the one of the tensions only if there are any; apart
from that it occurs in the free text that the prompt copies, and nowhere else.
Without headings in the free text, the headings stand in their order between
the preamble and the postamble. -/
theorem heading_occurrences :
    (∀ heading : Heading,
      heading.count profile.compile.prompt =
        (if heading = .tensions ∧ profile.tensions = [] then 0 else 1) +
          (heading.count (profile.name?.getD "") + 2 * heading.count profile.knowledge.domain +
            heading.count profile.knowledge.topic +
            heading.count profile.knowledge.understanding +
            heading.count profile.knowledge.misconceptions +
            heading.count profile.knowledge.gaps +
            heading.count (profile.knowledge.context?.getD ""))) ∧
    (∀ heading : Heading, ∀ position ∈ heading.positions profile.compile.prompt,
      ∃ front piece back offset, profile.script = front ++ piece :: back ∧
        position = (Script.render front).length + offset ∧
        offset ∈ heading.positions piece.render ∧
        (piece = .title heading ∧ offset = 0 ∨
          ∃ text ∈ profile.copies, piece = .verbatim text)) ∧
    ((∀ text ∈ profile.freeTexts, ∀ heading : Heading,
        ¬ heading.line.toList <:+: text.toList) →
      ∃ (body : String) (placed : List (Heading × Nat)),
        profile.compile.prompt = Persona.preamble ++ body ++ Persona.postamble ∧
        placed.map Prod.fst = profile.headings ∧
        (placed.Pairwise fun first second => first.2 + first.1.line.length ≤ second.2) ∧
        ∀ title ∈ placed, title.1.positions profile.compile.prompt = [title.2] ∧
          Persona.preamble.length ≤ title.2 ∧
          title.2 + title.1.line.length ≤ (Persona.preamble ++ body).length) := by
  refine ⟨fun heading => ?_, fun _ _ => profile.mem_positions_prompt, fun hfree => ?_⟩
  · rw [Heading.count, positions_prompt,
      Script.length_positions heading profile.clear_script.sound, headings_script,
      count_headings, quotes_script, countAll_copies]
  · obtain ⟨inner, hscript⟩ := profile.script_eq
    refine ⟨Script.render inner, profile.script.titles, ?_, ?_, Script.pairwise_titles _, ?_⟩
    · simp [prompt_compile, hscript, Piece.render, String.append_assoc]
    · rw [Script.titles_map_fst, headings_script]
    · intro title htitle
      refine ⟨profile.positions_title htitle fun text htext => ?_,
        profile.titles_between hscript htitle⟩
      exact Text.positions_eq_nil_of_not_infix
        (hfree text (profile.mem_freeTexts_of_mem_copies htext) title.1)

private theorem not_infix_of_not_mem {text : String} (heading : Heading) (h : '=' ∉ text.toList) :
    ¬ heading.line.toList <:+: text.toList := by
  have hmem : '=' ∈ heading.line.toList := by
    rw [heading.spelling.toList_eq]
    cases heading <;> decide +kernel
  exact fun hword => h (hword.subset hmem)

def algebraLearner : Profile where
  id := "algebra-learner"
  name? := some "Sam"
  knowledge := { domain := "algebra" }

theorem heading_occurrences_algebraLearner :
    (∀ text ∈ algebraLearner.freeTexts, ∀ heading : Heading,
      ¬ heading.line.toList <:+: text.toList) ∧
    ∃ placed : List (Heading × Nat),
      placed.map Prod.fst =
        [.identity, .knowledge, .cognition, .motivation, .communication, .innerVoice,
          .boundaries] ∧
      ∀ title ∈ placed, title.1.positions algebraLearner.compile.prompt = [title.2] := by
  have hfree : ∀ text ∈ algebraLearner.freeTexts, ∀ heading : Heading,
      ¬ heading.line.toList <:+: text.toList := by
    intro text htext heading
    apply not_infix_of_not_mem
    revert text
    decide +kernel
  obtain ⟨_, placed, -, hplaced, -, hpositions⟩ :=
    (heading_occurrences algebraLearner).2.2 hfree
  have hheadings : algebraLearner.headings =
      [.identity, .knowledge, .cognition, .motivation, .communication, .innerVoice,
        .boundaries] := by
    decide
  exact ⟨hfree, placed, hplaced.trans hheadings, fun title htitle => (hpositions title htitle).1⟩

end Profile

end LearnerPersona
