import LearnerPersona.File.Load
import LearnerPersona.Proofs.Wire.Agreement
import LearnerPersona.Proofs.Wire.Layout

/-!
# Profiles in either format

A profile that has been written as JSON is a YAML document too.  Since all its texts are
quoted and what is absent is left out, both formats load the same profile from it: a text
that looks like null stays a text, and an absent text stays absent.
-/

namespace LearnerPersona

open LearnerPersona.Json LearnerPersona.Wire

/-! ## Shapes without plain scalars -/

namespace Wire

/-- An absent value is left out. -/
def Presence.LeavesOut {α β : Type} : Presence α β → Prop
  | .required | .defaulted _ => True
  | .optional omitted => omitted = true

def Presence.texts {α β : Type} (texts : α → List String) : Presence α β → β → List String
  | .required => texts
  | .defaulted _ => texts
  | .optional _ => fun value? => value?.elim [] texts

mutual

/-- Nothing but the texts decides whether a value is shared by both formats. -/
def Shape.IsShared {α : Type} : Shape α → Prop
  | .text => True
  | .word => False
  | .choice named => ∀ value, TextShared (named.name value)
  | .list item => item.IsShared
  | .record _ fields _ _ _ => fields.IsShared

def Fields.IsShared {α φ : Type} : Fields α φ → Prop
  | .nil => True
  | .cons key shape presence rest =>
      KeyShared key ∧ shape.IsShared ∧ presence.LeavesOut ∧ rest.IsShared

end

instance {α β : Type} : (presence : Presence α β) → Decidable presence.LeavesOut
  | .required | .defaulted _ => isTrue trivial
  | .optional omitted => inferInstanceAs (Decidable (omitted = true))

mutual

def Shape.decideShared {α : Type} : (shape : Shape α) → Decidable shape.IsShared
  | .text => isTrue trivial
  | .word => isFalse id
  | .choice named =>
      decidable_of_iff (∀ value ∈ named.values, TextShared (named.name value))
        ⟨fun h value => h value (named.mem_values value), fun h value _ => h value⟩
  | .list item => item.decideShared
  | .record _ fields _ _ _ => fields.decideShared

def Fields.decideShared {α φ : Type} : (fields : Fields α φ) → Decidable fields.IsShared
  | .nil => isTrue trivial
  | .cons _ shape _ rest =>
      have := shape.decideShared
      have := rest.decideShared
      inferInstanceAs (Decidable (_ ∧ shape.IsShared ∧ _ ∧ rest.IsShared))

end

instance {α : Type} (shape : Shape α) : Decidable shape.IsShared := shape.decideShared

mutual

/-- The texts in a value, in order; names of cases are none. -/
def Shape.texts {α : Type} : Shape α → α → List String
  | .text => fun value => [value]
  | .word | .choice _ => fun _ => []
  | .list item => fun values => values.flatMap item.texts
  | .record _ fields _ parts _ => fun record => fields.texts (parts record)

def Fields.texts {α φ : Type} : Fields α φ → α → List String
  | .nil => fun _ => []
  | .cons _ shape presence rest => fun values =>
      presence.texts shape.texts values.1 ++ rest.texts values.2

end

private theorem membersShared_append {front back : List (String × Json)}
    (hfront : MembersShared front) (hback : MembersShared back) :
    MembersShared (front ++ back) := by
  induction front with
  | nil => exact hback
  | cons member front ih => exact ⟨hfront.1, hfront.2.1, ih hfront.2.2⟩

private theorem Presence.membersShared {α β : Type} {key : String} {write : α → Json}
    {texts : α → List String} (hkey : KeyShared key)
    (hwrite : ∀ value, (∀ text ∈ texts value, TextShared text) → (write value).IsShared)
    {presence : Presence α β} (hpresence : presence.LeavesOut) {value : β}
    (htexts : ∀ text ∈ presence.texts texts value, TextShared text) :
    MembersShared (presence.members key write value) := by
  cases presence with
  | required | defaulted => exact ⟨hkey, hwrite value htexts, trivial⟩
  | optional omitted =>
      cases value with
      | some inner => exact ⟨hkey, hwrite inner htexts, trivial⟩
      | none =>
          rw [LeavesOut] at hpresence
          rw [hpresence]
          trivial

mutual

theorem Shape.isShared_toJson {α : Type} : (shape : Shape α) → shape.IsShared → (value : α) →
    (∀ text ∈ shape.texts value, TextShared text) → (shape.toJson value).IsShared
  | .text, _, value, htexts => htexts value List.mem_cons_self
  | .choice _, hshape, value, _ => hshape value
  | .list item, hshape, values, htexts => by
      refine itemsShared_iff.mpr (List.forall_mem_map.mpr fun value hvalue => ?_)
      refine item.isShared_toJson hshape value fun text htext => htexts text ?_
      exact List.mem_flatMap.mpr ⟨value, hvalue, htext⟩
  | .record _ fields _ parts _, hshape, value, htexts =>
      fields.membersShared_toMembers hshape (parts value) htexts

private theorem Fields.membersShared_toMembers {α φ : Type} : (fields : Fields α φ) →
    fields.IsShared → (values : α) → (∀ text ∈ fields.texts values, TextShared text) →
    MembersShared (fields.toMembers values)
  | .nil, _, _, _ => trivial
  | .cons key shape presence rest, hfields, (value, values), htexts => by
      rw [Fields.IsShared] at hfields
      obtain ⟨hkey, hshape, hpresence, hrest⟩ := hfields
      rw [Fields.texts, List.forall_mem_append] at htexts
      rw [Fields.toMembers]
      exact membersShared_append
        (Presence.membersShared hkey (shape.isShared_toJson hshape) hpresence htexts.1)
        (rest.membersShared_toMembers hrest values htexts.2)

end

end Wire

/-! ## Profiles -/

/-- The text fields of a profile. -/
def Profile.texts (profile : Profile) : List String :=
  profile.id :: profile.name?.toList ++
    [profile.knowledge.domain, profile.knowledge.topic, profile.knowledge.understanding,
      profile.knowledge.misconceptions, profile.knowledge.gaps] ++
    profile.knowledge.context?.toList

private theorem Profile.texts_shape (profile : Profile) :
    Profile.shape.texts profile = profile.texts := by
  obtain ⟨id, name?, preset?, knowledge, cognition, motivation, communication⟩ := profile
  obtain ⟨domain, topic, understanding, misconceptions, gaps, context?⟩ := knowledge
  cases name? <;> cases preset? <;> cases context? <;>
    simp [Profile.shape, Knowledge.shape, Cognition.shape, Motivation.shape, Communication.shape,
      Named.shape, Shape.texts, Fields.texts, Presence.texts, texts]

theorem Profile.isShared_shape : Profile.shape.IsShared := by decide +kernel

theorem Profile.distinct_shape : Profile.shape.Distinct := by
  simp [Shape.Distinct, Fields.Distinct, Fields.keys, Named.shape, Profile.shape,
    Knowledge.shape, Cognition.shape, Motivation.shape, Communication.shape]

/-- The compact text of a profile is loaded as the profile, whichever format it is taken for. -/
theorem File.parse_compact {profile : Profile}
    (h : ∀ text ∈ profile.texts, ∀ char ∈ text.toList, Yaml.IsShared char) :
    File.parse .json (Profile.shape.toJson profile).compact = .ok profile ∧
      File.parse .yaml (Profile.shape.toJson profile).compact = .ok profile := by
  have htexts : ∀ text ∈ Profile.shape.texts profile, TextShared text := by
    rwa [Profile.texts_shape]
  have hshared := Profile.shape.isShared_toJson Profile.isShared_shape profile htexts
  have hkeyed := Profile.shape.isKeyed_toJson Profile.distinct_shape profile
  have hjson := Shape.RoundTrips.of_distinct Profile.distinct_shape profile
  have hyaml := Shape.ofYaml_of_ofJson hshared hkeyed hjson
  simp only [File.parse, mapError_eq_ok_iff]
  exact ⟨hjson, hyaml⟩

/-- Texts that would be something else without their quotes. -/
theorem File.parse_compact_lookalikes :
    let profile : Profile :=
      { Profile.blank "~" with
        name? := some "null"
        knowledge :=
          { domain := "---", topic := " a: b # c ", understanding := "\"x\\y\"",
            misconceptions := "1e3\n\tyes\r", gaps := "\x01", context? := some "" } }
    (∀ text ∈ profile.texts, ∀ char ∈ text.toList, Yaml.IsShared char) ∧
      File.parse .json (Profile.shape.toJson profile).compact = .ok profile ∧
      File.parse .yaml (Profile.shape.toJson profile).compact = .ok profile := by
  intro profile
  have hshared : ∀ text ∈ profile.texts, TextShared text := by decide
  exact ⟨hshared, File.parse_compact hshared⟩

end LearnerPersona
