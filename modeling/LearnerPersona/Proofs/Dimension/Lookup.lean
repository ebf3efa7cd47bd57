import LearnerPersona.Archetype
import LearnerPersona.Failure
import LearnerPersona.Proofs.Wire.Members
import LearnerPersona.Wire.Layout
import Mathlib.Data.List.Nodup

/-!
# One name, one value

A closed set can be asked for a value in several ways: by the text alone, by a document
that quotes the text, and by looking the text up among what is shown to users.  Each way
has a table of its own.  All of them know the same texts and give the same value for each.
-/

namespace LearnerPersona

open LearnerPersona.Json LearnerPersona.Wire

/-! ## Names -/

theorem Named.ofName?_eq_some_iff {α : Type} [Named α] {text : String} {value : α} :
    Named.ofName? text = some value ↔ name value = text := by
  refine ⟨Named.name_of_ofName?, ?_⟩
  rintro rfl
  exact Named.ofName?_name value

theorem Named.ofName?_eq_none_iff {α : Type} [Named α] {text : String} :
    (Named.ofName? text : Option α) = none ↔ ∀ value : α, name value ≠ text := by
  simp only [Option.eq_none_iff_forall_ne_some, ne_eq, Named.ofName?_eq_some_iff]

theorem Dimension.read_eq_ok_iff {α : Type} [Dimension α] {text : String} {value : α} :
    Dimension.read α text = .ok value ↔ name value = text := by
  rw [← Named.ofName?_eq_some_iff, Dimension.read]
  cases (Named.ofName? text : Option α) <;> simp

theorem Dimension.read_eq_error {α : Type} [Dimension α] {text : String}
    (h : ∀ value : α, name value ≠ text) :
    Dimension.read α text = .error (.invalidValue (Dimension.key α) text) := by
  rw [Dimension.read, Named.ofName?_eq_none_iff.mpr h]

theorem Preset.read_eq_ok_iff {text : String} {preset : Preset} :
    Preset.read text = .ok preset ↔ name preset = text := by
  rw [← Named.ofName?_eq_some_iff, Preset.read]
  cases (Named.ofName? text : Option Preset) <;> simp

/-! ## Documents -/

/-- The document is one text between quotes, with whatever escapes, and denotes the text. -/
def Json.IsQuoted (text document : String) : Prop :=
  ∃ units, (Document.string units .closed).SpelledBy document ∧
    joinUnits units .closed = .ok text.toList

theorem Json.isQuoted_compact (text : String) : IsQuoted text (Json.string text).compact := by
  refine ⟨text.toList.map .char, ?_, joinUnits_map text.toList⟩
  rw [Document.SpelledBy, Json.compact, String.toList_ofList]
  exact (spells_stringChars text).padded

section Quoted

variable {α : Type} [Identified α] {text document : String}

private theorem ofJson_of_isQuoted (h : IsQuoted text document) :
    (Named.shape α).ofJson document =
      Document.caseOf (Identified.inDocuments α) text := by
  obtain ⟨units, hspelled, hunits⟩ := h
  refine (whole_of_spelledBy hspelled (Document.toCase _)).trans ?_
  rw [Document.toCase, hunits]
  simp [Functor.map, Except.map, flawed, Except.mapError, bind, Except.bind]

theorem ofJson_eq_ok_iff (h : IsQuoted text document) {value : α} :
    (Named.shape α).ofJson document = .ok value ↔ Identified.written value = text := by
  have hname : (Identified.inDocuments α).ofName? text = some value ↔
      Identified.written value = text :=
    @Named.ofName?_eq_some_iff α (Identified.inDocuments α) text value
  rw [ofJson_of_isQuoted h, ← hname, Document.caseOf]
  cases (Identified.inDocuments α).ofName? text <;> simp

end Quoted

/-! ## Identifiers -/

theorem Facet.written_eq_name :
    ∀ facet ∈ all, ∀ value : facet.Value, Identified.written value = name value := by
  simp only [all, List.forall_mem_cons]
  refine ⟨?_, ?_, ?_, ?_, ?_, ?_, ?_, ?_, ?_, ?_, ?_, ?_, by simp⟩ <;>
    (intro value; cases value <;> decide)

theorem Preset.written_eq_name (preset : Preset) : Identified.written preset = name preset := by
  cases preset <;> decide

/-! ## The catalogue -/

theorem catalog_eq_map : catalog = Facet.all.map fun facet => .of facet.Value := rfl

/-- The choice stands in the catalogue under the key. -/
def Choice.ListedUnder (key : String) (choice : Choice) : Prop :=
  ∃ descriptor ∈ catalog, descriptor.key = key ∧ choice ∈ descriptor.options

theorem Facet.key_injective {facet other : Facet} (h : facet ∈ all) (hother : other ∈ all)
    (hkey : facet.key = other.key) : facet = other := by
  have hkeys : (all.map Facet.key).Nodup := by decide
  exact List.inj_on_of_nodup_map hkeys h hother hkey

private theorem Choice.listedUnder_iff {facet : Facet} (h : facet ∈ Facet.all) {choice : Choice} :
    choice.ListedUnder facet.key ↔ ∃ value : facet.Value, choice = .of value := by
  constructor
  · rintro ⟨descriptor, hdescriptor, hkey, hchoice⟩
    rw [catalog_eq_map] at hdescriptor
    obtain ⟨other, hother, rfl⟩ := List.mem_map.mp hdescriptor
    obtain rfl := Facet.key_injective hother h hkey
    obtain ⟨value, -, rfl⟩ := List.mem_map.mp hchoice
    exact ⟨value, rfl⟩
  · rintro ⟨value, rfl⟩
    have hcatalog : .of facet.Value ∈ catalog := by
      rw [catalog_eq_map]
      exact List.mem_map.mpr ⟨facet, h, rfl⟩
    exact ⟨_, hcatalog, rfl, List.mem_map_of_mem (Named.mem_values value)⟩

/-! ## Archetypes -/

theorem Preset.read_eq_error {text : String} (h : ∀ preset : Preset, name preset ≠ text) :
    Preset.read text = .error (.unknownArchetype text) := by
  rw [Preset.read, Named.ofName?_eq_none_iff.mpr h]

theorem Preset.preset_archetype (preset : Preset) : preset.archetype.preset = preset := by
  cases preset <;> rfl

theorem Archetype.all_eq_map : all = (Named.values (α := Preset)).map Preset.archetype := rfl

theorem Archetype.find?_eq_some_iff {text : String} {archetype : Archetype} :
    Archetype.find? text = some archetype ↔
      ∃ preset : Preset, name preset = text ∧ preset.archetype = archetype := by
  rw [find?, all_eq_map, List.find?_map, Option.map_eq_some_iff]
  simp only [Function.comp_def, Preset.preset_archetype]
  exact exists_congr fun preset => and_congr_left fun _ => Named.ofName?_eq_some_iff

/-! ## All look-ups -/

/--
For every dimension, a text that is the name of a value is read as the value, whether it
comes alone or quoted in a document, and of all choices under the key of the dimension it
stands for that of the value.  Any other text is an invalid value of the dimension.  Presets
are read likewise, and the archetype found by a name is the one that stands at the place of
its preset.
-/
theorem lookups_agree (text : String) :
    (∀ facet ∈ Facet.all,
      (∀ value : facet.Value, Dimension.read facet.Value text = .ok value ↔ name value = text) ∧
      (∀ document, IsQuoted text document → ∀ value : facet.Value,
        (Named.shape facet.Value).ofJson document = .ok value ↔ name value = text) ∧
      (∀ choice : Choice, choice.ListedUnder facet.key ∧ choice.value = text ↔
        ∃ value : facet.Value, name value = text ∧ choice = .of value) ∧
      ((∀ value : facet.Value, name value ≠ text) →
        Dimension.read facet.Value text = .error (.invalidValue facet.key text))) ∧
    (∀ preset : Preset,
      (Preset.read text = .ok preset ↔ name preset = text) ∧
      (∀ document, IsQuoted text document →
        ((Named.shape Preset).ofJson document = .ok preset ↔ name preset = text)) ∧
      Archetype.all[preset.ctorIdx]? = some preset.archetype ∧
      preset.archetype.preset = preset) ∧
    ((∀ preset : Preset, name preset ≠ text) →
      Preset.read text = .error (.unknownArchetype text)) ∧
    ∀ archetype, Archetype.find? text = some archetype ↔
      ∃ preset : Preset, name preset = text ∧ preset.archetype = archetype := by
  refine ⟨fun facet hfacet => ⟨fun _ => Dimension.read_eq_ok_iff, fun _ hquoted value => ?quoted,
    fun choice => ?listed, Dimension.read_eq_error⟩, fun preset => ⟨Preset.read_eq_ok_iff,
    fun _ hquoted => ?quotedPreset, List.getElem?_eq_getElem _, preset.preset_archetype⟩,
    Preset.read_eq_error, fun _ => Archetype.find?_eq_some_iff⟩
  case quoted => rw [ofJson_eq_ok_iff hquoted, Facet.written_eq_name facet hfacet]
  case quotedPreset => rw [ofJson_eq_ok_iff hquoted, Preset.written_eq_name]
  case listed =>
    rw [Choice.listedUnder_iff hfacet]
    constructor
    · rintro ⟨⟨value, rfl⟩, htext⟩
      exact ⟨value, htext, rfl⟩
    · rintro ⟨value, htext, rfl⟩
      exact ⟨⟨value, rfl⟩, htext⟩

end LearnerPersona
