import LearnerPersona.Proofs.Prompt.Headings

/-!
# What each part of a persona depends on

Every section reads a part of the profile and nothing else, and the prompt reads the
sections, the name, the domain and the preset.  So profiles that agree on what a part
reads agree on the part, whatever else they say.
-/

namespace LearnerPersona

/-! ## The prompt as text -/

theorem Script.render_under (heading : Heading) (body : Script) :
    (under heading body).render = heading.line ++ "\n" ++ body.render := by
  simp [under, Piece.render, String.append_assoc]

theorem Script.render_blocks (parts : List Script) :
    (blocks parts).render = "\n\n".intercalate (parts.map render) := by
  match parts with
  | [] => rfl
  | [part] => simp [blocks]
  | part :: next :: parts =>
      rw [blocks, render_append, render_cons, render_blocks (next :: parts), List.map_cons,
        List.map_cons, List.map_cons, String.intercalate_cons_cons, String.append_assoc]
      rfl

/-- The prompt that the sections make together with the text on who the learner is. -/
def Sections.assemble (sections : Sections) (identity : String) : String :=
  let titled (heading : Heading) (body : String) : String := heading.line ++ "\n" ++ body
  "\n\n".intercalate
    ([Persona.preamble, titled .identity identity, titled .knowledge sections.knowledge,
        titled .cognition sections.cognition, titled .motivation sections.motivation,
        titled .communication sections.communication] ++
      (if sections.tensions = "" then [] else [titled .tensions sections.tensions]) ++
      [titled .innerVoice sections.innerVoice, titled .boundaries sections.boundaries,
        Persona.postamble])

namespace Profile

variable {profile profile' : Profile}

/-- The section on tensions is left out of the prompt just when it is empty. -/
theorem render_tensionsScript_eq_empty_iff :
    profile.tensionsScript.render = "" ↔ profile.tensionsScript.isEmpty := by
  cases htensions : profile.tensions with
  | nil => simp [tensionsScript, htensions]
  | cons tension tensions =>
      have hlead : tensionsLead ≠ "" := by decide
      cases tensions <;>
        simp [tensionsScript, htensions, Script.paragraphs, Script.blocks, Piece.render, hlead]

theorem prompt_eq_assemble (profile : Profile) :
    profile.compile.prompt =
      profile.compile.sections.assemble profile.identityScript.render := by
  have htensions : (profile.compile.sections.tensions = "") =
      (profile.tensionsScript.isEmpty = true) :=
    propext render_tensionsScript_eq_empty_iff
  rw [prompt_compile, script, Script.render_blocks, Sections.assemble, parts]
  simp only [htensions, List.map_append, List.map_cons, List.map_nil, Script.render_under]
  split <;> simp [compile, sections, Piece.render, Script.render_under]

/-! ## Profiles that agree -/

/-- The profiles differ at most in their identifiers, and in whether an empty name or an
empty context is told at all. -/
structure SaysTheSame (profile profile' : Profile) : Prop where
  name : profile.name?.getD "" = profile'.name?.getD ""
  preset : profile.preset? = profile'.preset?
  knowledge : { profile.knowledge with context? := none } =
    { profile'.knowledge with context? := none }
  context : profile.knowledge.context?.getD "" = profile'.knowledge.context?.getD ""
  cognition : profile.cognition = profile'.cognition
  motivation : profile.motivation = profile'.motivation
  communication : profile.communication = profile'.communication

/-- The profiles have the same value for every dimension that has just one. -/
structure SameScalars (profile profile' : Profile) : Prop where
  priorKnowledge : profile.cognition.priorKnowledge = profile'.cognition.priorKnowledge
  workingMemory : profile.cognition.workingMemory = profile'.cognition.workingMemory
  metacognition : profile.cognition.metacognition = profile'.cognition.metacognition
  motivation : profile.motivation = profile'.motivation
  communication : profile.communication = profile'.communication

private theorem nonEmpty?_eq_of_getD_eq {text? text?' : Option String}
    (h : text?.getD "" = text?'.getD "") : nonEmpty? text? = nonEmpty? text?' := by
  have hnormal (text? : Option String) : nonEmpty? text? = nonEmpty? (some (text?.getD "")) := by
    cases text? <;> rfl
  rw [hnormal text?, h, ← hnormal text?']

private theorem identityScript_eq (hname : profile.displayName? = profile'.displayName?)
    (hdomain : profile.knowledge.domain = profile'.knowledge.domain)
    (hpreset : profile.preset? = profile'.preset?) :
    profile.identityScript = profile'.identityScript := by
  simp only [identityScript, hname, hdomain, hpreset]

theorem innerVoiceScript_eq
    (hmetacognition : profile.cognition.metacognition = profile'.cognition.metacognition)
    (hefficacy : profile.motivation.efficacy = profile'.motivation.efficacy)
    (hempty : profile.knowledge.misconceptions = "" ↔ profile'.knowledge.misconceptions = "") :
    profile.innerVoiceScript = profile'.innerVoiceScript := by
  simp only [← String.isEmpty_iff, ← Bool.eq_iff_iff] at hempty
  simp only [innerVoiceScript, hmetacognition, hefficacy, hempty]

namespace SameScalars

theorem tensionsScript_eq (h : SameScalars profile profile') :
    profile.tensionsScript = profile'.tensionsScript := by
  have hholds : Tension.holds profile = Tension.holds profile' := by
    funext tension
    cases tension <;>
      simp only [Tension.holds, h.priorKnowledge, h.workingMemory, h.metacognition,
        h.motivation, h.communication]
  rw [tensionsScript, tensionsScript, tensions, tensions, hholds]

theorem boundariesScript_eq (h : SameScalars profile profile') :
    profile.boundariesScript = profile'.boundariesScript := by
  simp only [boundariesScript, valves, h.motivation, h.communication]

end SameScalars

namespace SaysTheSame

private theorem displayName?_eq (h : SaysTheSame profile profile') :
    profile.displayName? = profile'.displayName? :=
  nonEmpty?_eq_of_getD_eq h.name

private theorem misconceptions_eq (h : SaysTheSame profile profile') :
    profile.knowledge.misconceptions = profile'.knowledge.misconceptions :=
  (Knowledge.mk.inj h.knowledge).2.2.2.1

private theorem domain_eq (h : SaysTheSame profile profile') :
    profile.knowledge.domain = profile'.knowledge.domain :=
  (Knowledge.mk.inj h.knowledge).1

theorem sameScalars (h : SaysTheSame profile profile') : SameScalars profile profile' where
  priorKnowledge := by rw [h.cognition]
  workingMemory := by rw [h.cognition]
  metacognition := by rw [h.cognition]
  motivation := h.motivation
  communication := h.communication

private theorem knowledgeScript_eq (h : SaysTheSame profile profile') :
    profile.knowledge.script = profile'.knowledge.script := by
  obtain ⟨hdomain, htopic, hunderstanding, hmisconceptions, hgaps, -⟩ :=
    Knowledge.mk.inj h.knowledge
  have hcontext : profile.knowledge.contextText? = profile'.knowledge.contextText? :=
    nonEmpty?_eq_of_getD_eq h.context
  simp only [Knowledge.script, Knowledge.blocks, Knowledge.subjectBlock?,
    Knowledge.understandingBlock?, Knowledge.misconceptionsBlock?, Knowledge.gapsBlock?,
    Knowledge.contextBlock?, hdomain, htopic, hunderstanding, hmisconceptions, hgaps, hcontext]

end SaysTheSame

/-! ## Parts that agree -/

theorem prompt_eq_of_sections_eq
    (hsections : profile.compile.sections = profile'.compile.sections)
    (hname : profile.displayName? = profile'.displayName?)
    (hdomain : profile.knowledge.domain = profile'.knowledge.domain)
    (hpreset : profile.preset? = profile'.preset?) :
    profile.compile.prompt = profile'.compile.prompt := by
  rw [prompt_eq_assemble, prompt_eq_assemble, hsections, identityScript_eq hname hdomain hpreset]

theorem SaysTheSame.compile_eq (h : SaysTheSame profile profile') :
    profile.compile = profile'.compile := by
  have hvoice : profile.innerVoiceScript = profile'.innerVoiceScript :=
    innerVoiceScript_eq h.sameScalars.metacognition (by rw [h.motivation])
      (by rw [h.misconceptions_eq])
  have hsections : profile.compile.sections = profile'.compile.sections := by
    simp only [compile, sections, h.knowledgeScript_eq, h.cognition, h.motivation,
      h.communication, h.sameScalars.tensionsScript_eq, hvoice,
      h.sameScalars.boundariesScript_eq]
  have hprompt := prompt_eq_of_sections_eq hsections h.displayName?_eq h.domain_eq h.preset
  simp only [compile] at hprompt hsections ⊢
  rw [hprompt, hsections]

/--
Two profiles that say the same compile to the same persona.  The sections do not depend on
identifier, name and preset; three of them read their own part of the profile only; the
tensions and the boundaries read nothing but the dimensions with one value; of the rest,
the inner voice sees two dimensions and whether there are misconceptions.  What the prompt
adds to the sections are the name, the domain and the preset.
-/
theorem compile_reads_only (profile profile' : Profile) :
    (SaysTheSame profile profile' → profile.compile = profile'.compile) ∧
    (profile.knowledge = profile'.knowledge ∧ profile.cognition = profile'.cognition ∧
        profile.motivation = profile'.motivation ∧
        profile.communication = profile'.communication →
      profile.compile.sections = profile'.compile.sections) ∧
    (profile.cognition = profile'.cognition →
      profile.compile.sections.cognition = profile'.compile.sections.cognition) ∧
    (profile.motivation = profile'.motivation →
      profile.compile.sections.motivation = profile'.compile.sections.motivation) ∧
    (profile.communication = profile'.communication →
      profile.compile.sections.communication = profile'.compile.sections.communication) ∧
    (SameScalars profile profile' →
      profile.compile.sections.tensions = profile'.compile.sections.tensions ∧
      profile.compile.sections.boundaries = profile'.compile.sections.boundaries) ∧
    (profile.cognition.metacognition = profile'.cognition.metacognition ∧
        profile.motivation.efficacy = profile'.motivation.efficacy ∧
        (profile.knowledge.misconceptions = "" ↔ profile'.knowledge.misconceptions = "") →
      profile.compile.sections.innerVoice = profile'.compile.sections.innerVoice) ∧
    (profile.knowledge = profile'.knowledge →
      profile.compile.sections.knowledge = profile'.compile.sections.knowledge) ∧
    (profile.compile.sections = profile'.compile.sections ∧
        profile.displayName? = profile'.displayName? ∧
        profile.knowledge.domain = profile'.knowledge.domain ∧
        profile.preset? = profile'.preset? →
      profile.compile.prompt = profile'.compile.prompt) := by
  refine ⟨SaysTheSame.compile_eq, ?sections, ?cognition, ?motivation, ?communication, ?scalars,
    ?voice, ?knowledge, ?prompt⟩
  case sections =>
    rintro ⟨hknowledge, hcognition, hmotivation, hcommunication⟩
    -- Without identifier, name and preset the profiles are one.
    have hsame : SaysTheSame { profile with name? := none, preset? := none }
        { profile' with name? := none, preset? := none } :=
      ⟨rfl, rfl, by rw [hknowledge], by rw [hknowledge], hcognition, hmotivation, hcommunication⟩
    have hsections := congrArg Persona.sections hsame.compile_eq
    simp only [compile] at hsections ⊢
    exact hsections
  case cognition => exact fun h => congrArg (·.script.render) h
  case motivation => exact fun h => congrArg (·.script.render) h
  case communication => exact fun h => congrArg (·.script.render) h
  case scalars =>
    exact fun h => ⟨congrArg Script.render h.tensionsScript_eq,
      congrArg Script.render h.boundariesScript_eq⟩
  case voice =>
    rintro ⟨hmetacognition, hefficacy, hempty⟩
    exact congrArg Script.render (innerVoiceScript_eq hmetacognition hefficacy hempty)
  case knowledge => exact fun h => congrArg (·.script.render) h
  case prompt =>
    rintro ⟨hsections, hname, hdomain, hpreset⟩
    exact prompt_eq_of_sections_eq hsections hname hdomain hpreset

/-- An empty name is no name, and identifiers are not told. -/
theorem compile_reads_only_empty_name :
    let profile := Profile.blank "a"
    let profile' := { Profile.blank "b" with name? := some "" }
    profile ≠ profile' ∧ profile.compile = profile'.compile :=
  ⟨by decide, (compile_reads_only _ _).1 ⟨rfl, rfl, rfl, rfl, rfl, rfl, rfl⟩⟩

end Profile

end LearnerPersona
