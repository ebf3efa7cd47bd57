import LearnerPersona.Proofs.Prompt.Boundaries
import LearnerPersona.Proofs.Prompt.Influence
import Mathlib.Data.List.Nodup

/-!
# Tensions told and tensions held

Which tensions hold can be read off the section that tells them.  A tension holds when both
of the traits that its name is put together from are in the profile, and nothing but these
two decides: neither other tensions nor any other trait.
-/

namespace LearnerPersona

open LearnerPersona.Text

/-! ## Traits -/

/-- A value of a dimension of which a profile has one value. -/
inductive Trait where
  | priorKnowledge (value : PriorKnowledge)
  | workingMemory (value : WorkingMemory)
  | metacognition (value : Metacognition)
  | engagement (value : Engagement)
  | efficacy (value : Efficacy)
  | goal (value : Goal)
  | tolerance (value : Tolerance)
  | verbosity (value : Verbosity)
  | helpSeeking (value : HelpSeeking)
  | correction (value : Correction)
  | register (value : Register)
  deriving DecidableEq, Repr

namespace Trait

def In (profile : Profile) : Trait → Prop
  | .priorKnowledge value => profile.cognition.priorKnowledge = value
  | .workingMemory value => profile.cognition.workingMemory = value
  | .metacognition value => profile.cognition.metacognition = value
  | .engagement value => profile.motivation.engagement = value
  | .efficacy value => profile.motivation.efficacy = value
  | .goal value => profile.motivation.goal = value
  | .tolerance value => profile.motivation.tolerance = value
  | .verbosity value => profile.communication.verbosity = value
  | .helpSeeking value => profile.communication.helpSeeking = value
  | .correction value => profile.communication.correction = value
  | .register value => profile.communication.register = value

/-- What the trait is called in the name of a tension.  Degrees need to be told apart, and
one name is cut short. -/
def word : Trait → String
  | .workingMemory value => name value ++ "-working-memory"
  | .tolerance value => name value ++ "-frustration-threshold"
  | .register .eslPatterns => "esl"
  | .priorKnowledge value => name value
  | .metacognition value => name value
  | .engagement value => name value
  | .efficacy value => name value
  | .goal value => name value
  | .verbosity value => name value
  | .helpSeeking value => name value
  | .correction value => name value
  | .register value => name value

end Trait

namespace Tension

/-- The traits that are in tension, in the order in which the name tells them. -/
def traits : Tension → Trait × Trait
  | .anxiousVerbose => (.efficacy .anxious, .verbosity .verbose)
  | .anxiousTerse => (.efficacy .anxious, .verbosity .terse)
  | .disengagedApproachingMastery =>
      (.engagement .disengaged, .priorKnowledge .approachingMastery)
  | .confidentShutsDown => (.efficacy .confident, .correction .shutsDown)
  | .masterySeekingDisengaged => (.goal .masterySeeking, .engagement .disengaged)
  | .confidentUnaware => (.efficacy .confident, .metacognition .unaware)
  | .eagerLowWorkingMemory => (.engagement .eager, .workingMemory .low)
  | .demandsAnswersMasterySeeking => (.helpSeeking .demandsAnswers, .goal .masterySeeking)
  | .defeatedEager => (.efficacy .defeated, .engagement .eager)
  | .eslApproachingMastery => (.register .eslPatterns, .priorKnowledge .approachingMastery)
  | .arguesAnxious => (.correction .argues, .efficacy .anxious)
  | .resistantHighFrustrationThreshold => (.engagement .resistant, .tolerance .high)

private theorem name_eq (tension : Tension) :
    name tension = tension.traits.1.word ++ "-" ++ tension.traits.2.word := by
  cases tension <;> decide

theorem holds_iff (profile : Profile) (tension : Tension) :
    tension.holds profile = true ↔
      tension.traits.1.In profile ∧ tension.traits.2.In profile := by
  cases tension <;> simp [holds, traits, Trait.In]

/-! ## Resolutions -/

private theorem unbroken_resolution (tension : Tension) : '\n' ∉ tension.resolution.toList := by
  apply tension.spelling.not_mem_of_lacks
  cases tension <;> decide +kernel

private theorem prefixFree_resolution :
    PrefixFree fun tension : Tension => tension.resolution.toList := by
  have heq : (fun tension : Tension => tension.resolution.toList) =
      fun tension => tension.spelling.letters :=
    funext fun tension => tension.spelling.toList_eq
  rw [heq]
  exact prefixFree_of_pairwise (by decide +kernel)

theorem resolution_injective : Function.Injective resolution := by
  intro first second h
  exact prefixFree_resolution.injective (congrArg String.toList h)

end Tension

/-! ## The section -/

namespace Profile

private theorem unbroken_tensionsLead : '\n' ∉ tensionsLead.toList :=
  passageTensionsLead.spelling.not_mem_of_lacks (by decide +kernel)

variable (profile : Profile)

theorem mem_tensions {tension : Tension} :
    tension ∈ profile.tensions ↔
      tension.traits.1.In profile ∧ tension.traits.2.In profile := by
  rw [tensions, List.mem_filter, Tension.holds_iff, and_iff_right (Named.mem_values tension)]

theorem tensions_sublist : profile.tensions.Sublist (Named.values (α := Tension)) :=
  List.filter_sublist

theorem nodup_tensions : profile.tensions.Nodup :=
  profile.tensions_sublist.nodup (by decide)

variable {profile} {profile' : Profile}

theorem paragraphs_tensions (h : profile.tensions ≠ []) :
    Text.paragraphs profile.compile.sections.tensions.toList =
      (tensionsLead :: profile.tensions.map Tension.resolution).map String.toList := by
  have hscript : profile.tensionsScript =
      Script.paragraphs (tensionsLead :: profile.tensions.map Tension.resolution) := by
    cases htensions : profile.tensions with
    | nil => contradiction
    | cons => simp [tensionsScript, htensions]
  have hunbroken : ∀ passage ∈ tensionsLead :: profile.tensions.map Tension.resolution,
      '\n' ∉ passage.toList := by
    simp [unbroken_tensionsLead, Tension.unbroken_resolution]
  simp only [compile, sections, hscript]
  exact Script.paragraphs_render_paragraphs hunbroken

theorem tensions_eq_empty_iff :
    profile.compile.sections.tensions = "" ↔ profile.tensions = [] := by
  simp only [compile, sections]
  rw [render_tensionsScript_eq_empty_iff, tensionsScript_isEmpty, List.isEmpty_iff]

private theorem tensions_eq_of_section_eq
    (h : profile.compile.sections.tensions = profile'.compile.sections.tensions) :
    profile.tensions = profile'.tensions := by
  by_cases hnone : profile.tensions = []
  · have hempty : profile'.compile.sections.tensions = "" :=
      h.symm.trans (tensions_eq_empty_iff.mpr hnone)
    rw [hnone, tensions_eq_empty_iff.mp hempty]
  · have hsome : profile'.tensions ≠ [] := fun hnone' =>
      hnone (tensions_eq_empty_iff.mp (h.trans (tensions_eq_empty_iff.mpr hnone')))
    have hparagraphs := paragraphs_tensions hsome
    rw [← h, paragraphs_tensions hnone] at hparagraphs
    have hpassages := List.map_injective_iff.mpr (fun _ _ => String.toList_injective) hparagraphs
    have hresolutions := (List.cons_eq_cons.mp hpassages).2
    exact List.map_injective_iff.mpr Tension.resolution_injective hresolutions

private theorem section_eq_of_tensions_eq (h : profile.tensions = profile'.tensions) :
    profile.compile.sections.tensions = profile'.compile.sections.tensions := by
  simp only [compile, sections, tensionsScript, h]

/--
The section on tensions is empty just when none holds.  Otherwise its paragraphs are the
lead-in and the resolutions of those that hold, in the order of their declaration and none
of them twice.  A tension holds just when both traits of its name are in the profile.  So
profiles have equal sections just when the same tensions hold.
-/
theorem section_tells_tensions (profile profile' : Profile) :
    let block := profile.compile.sections.tensions
    (block = "" ↔ profile.tensions = []) ∧
    (profile.tensions ≠ [] →
      Text.paragraphs block.toList =
        (tensionsLead :: profile.tensions.map Tension.resolution).map String.toList) ∧
    profile.tensions.Sublist (Named.values (α := Tension)) ∧
    (profile.tensions.map Tension.resolution).Nodup ∧
    (∀ tension, name tension = tension.traits.1.word ++ "-" ++ tension.traits.2.word ∧
      (tension ∈ profile.tensions ↔
        tension.traits.1.In profile ∧ tension.traits.2.In profile)) ∧
    (block = profile'.compile.sections.tensions ↔ profile.tensions = profile'.tensions) := by
  intro block
  have hresolutions : (profile.tensions.map Tension.resolution).Nodup :=
    profile.nodup_tensions.map Tension.resolution_injective
  exact ⟨tensions_eq_empty_iff, paragraphs_tensions, profile.tensions_sublist, hresolutions,
    fun tension => ⟨tension.name_eq, profile.mem_tensions⟩, tensions_eq_of_section_eq,
    section_eq_of_tensions_eq⟩

end Profile

end LearnerPersona
