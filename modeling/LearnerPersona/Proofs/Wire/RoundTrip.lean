import LearnerPersona.Proofs.Json.Document
import LearnerPersona.Wire.FromJson

/-!
# Shapes read back

A shape reads every value that it writes, provided that no record has two fields of
one key.  A present value is never written as null, so an optional field that is
read as absent has been absent.
-/

namespace LearnerPersona.Wire

open LearnerPersona.Json

/-! ## Distinct keys -/

mutual

/-- No record within the shape has two fields of the same key. -/
def Shape.Distinct {α : Type} : Shape α → Prop
  | .text | .word | .choice _ => True
  | .list item => item.Distinct
  | .record _ fields _ _ _ => fields.Distinct

def Fields.Distinct {α φ : Type} : Fields α φ → Prop
  | .nil => True
  | .cons key shape _ rest => key ∉ rest.keys ∧ shape.Distinct ∧ rest.Distinct

end

/-! ## Scalars -/

@[simp] theorem flawed_ok {α : Type} (value : α) : flawed (.ok value) = .ok value := rfl

@[simp] theorem mapError_ok {α : Type} (place : Fault → Fault) (value : α) :
    (Except.ok value).mapError place = .ok value := rfl

theorem toText_document (text : String) (expected : Expected) :
    (Json.string text).document.toText expected = .ok text := by
  rw [document, Document.toText, joinUnits_map]
  simp [Functor.map, Except.map]

theorem toKey_document (text : String) : (Json.string text).document.toKey = .ok text := by
  rw [document, Document.toKey, joinUnits_map]
  simp [Functor.map, Except.map]

private theorem toWord_of_found {document : Document} {value : Int}
    (h : document.found = .ok (.integer value)) :
    document.toWord =
      if 0 ≤ value ∧ value < Nat.pow 2 32 then .ok value.toNat.toUInt32
      else .error (.mismatch [] (.wrongValue (.integer value) .word)) := by
  rw [Document.toWord, h]
  rfl

private theorem toWord_document (value : UInt32) :
    (Json.number value.toNat).document.toWord = .ok value := by
  have hlt : value.toNat < 4294967296 := value.toNat_lt
  have hword : value.toNat ≤ Numeral.greatestWord := by
    have hbound : Numeral.greatestWord = 18446744073709551615 := rfl
    omega
  have hfound : (Json.number value.toNat).document.found = .ok (.integer value.toNat) := by
    rw [document, Document.found, Numeral.value_toDigits hword]
    rfl
  have hrange : (0 : Int) ≤ value.toNat ∧ (value.toNat : Int) < Nat.pow 2 32 := by
    rw [Nat.pow_eq]
    omega
  rw [toWord_of_found hfound, if_pos hrange]
  simp

private theorem toCase_document {α : Type} (named : Named α) (value : α) :
    (Json.string (named.name value)).document.toCase named = .ok value := by
  rw [document, Document.toCase, joinUnits_map]
  simp [Functor.map, Except.map, Document.caseOf,
    named.ofName?_name, bind, Except.bind]

private theorem toItems_map {α : Type} {read : Document → Except Fault α} {write : α → Document}
    (h : ∀ value, read (write value) = .ok value) (position : Nat) (values : List α) :
    Document.toItems read position (values.map write) = .ok values := by
  induction values generalizing position with
  | nil => rfl
  | cons value values ih =>
      rw [List.map_cons, Document.toItems, h, ih]
      rfl

/-! ## Members -/

theorem Shape.toJson_ne_null {α : Type} (shape : Shape α) (value : α) :
    shape.toJson value ≠ .null := by
  cases shape <;> simp [Shape.toJson]

theorem presentField_optional {α : Type} {read : Document → Except Fault α} {value : Json}
    (omitted : Bool) (h : value ≠ .null) :
    presentField read (.optional omitted) value.document = some <$> read value.document := by
  cases value <;> first | contradiction | rfl

theorem Presence.key_of_mem_members {α β : Type} {key : String} {write : α → Json}
    {presence : Presence α β} {value : β} {member : String × Json}
    (h : member ∈ presence.members key write value) : member.1 = key := by
  cases presence with
  | required => simp_all [Presence.members]
  | defaulted default => simp_all [Presence.members]
  | optional omitted =>
      cases value <;> cases omitted <;> simp_all [Presence.members]

namespace Fields

theorem mem_keys_of_mem_toMembers {α φ : Type} {member : String × Json} :
    (fields : Fields α φ) → (values : α) → member ∈ fields.toMembers values →
      member.1 ∈ fields.keys
  | .nil, _, h => by simp [toMembers] at h
  | .cons key shape presence rest, values, h => by
      rw [toMembers, List.mem_append] at h
      rw [keys, List.mem_cons]
      exact h.imp Presence.key_of_mem_members (rest.mem_keys_of_mem_toMembers values.2)

/-- Reads the members of an object that has been written. -/
def readAll {α φ : Type} (fields : Fields α φ) (members : List (String × Json)) (seen : φ) :
    Except Fault φ :=
  members.foldlM (fun seen member => fields.readMember member.1 member.2.document seen) seen

private theorem foldlM_memberDocument {α φ : Type} (fields : Fields α φ)
    (members : List (String × Json)) (seen : φ) :
    (members.map memberDocument).foldlM (fun seen (key, value) => do
      fields.readMember (← flawed key.toKey) value seen) seen = fields.readAll members seen := by
  rw [List.foldlM_map, readAll]
  congr 1
  funext seen member
  simp [memberDocument, toKey_document, bind, Except.bind]

private theorem readAll_append {α φ : Type} (fields : Fields α φ)
    (front back : List (String × Json)) (seen : φ) :
    fields.readAll (front ++ back) seen = fields.readAll front seen >>= fields.readAll back :=
  List.foldlM_append

variable {α β γ φ : Type} {key : String} {shape : Shape α} {presence : Presence α β}
  {rest : Fields γ φ}

private theorem readAll_cons {fields : Fields β φ} (member : String × Json)
    (members : List (String × Json)) (seen : φ) :
    fields.readAll (member :: members) seen =
      fields.readMember member.1 member.2.document seen >>= fields.readAll members :=
  List.foldlM_cons

private theorem readMember_of_ne {other : String} (value : Document) (seen? : Option β) (later : φ)
    (h : other ≠ key) :
    (cons key shape presence rest).readMember other value (seen?, later) =
      (seen?, ·) <$> rest.readMember other value later := by
  rw [readMember]
  simp only [if_neg h]
  cases rest.readMember other value later <;> rfl

private theorem readAll_of_ne {members : List (String × Json)} (seen? : Option β) (later : φ)
    (h : ∀ member ∈ members, member.1 ≠ key) :
    (cons key shape presence rest).readAll members (seen?, later) =
      (seen?, ·) <$> rest.readAll members later := by
  induction members generalizing later with
  | nil => rfl
  | cons member members ih =>
      have hmembers : ∀ other ∈ members, other.1 ≠ key := fun other hother =>
        h other (List.mem_cons_of_mem _ hother)
      rw [readAll_cons, readAll_cons, readMember_of_ne _ _ _ (h member List.mem_cons_self)]
      cases rest.readMember member.1 member.2.document later with
      | error fault => rfl
      | ok later => exact ih later hmembers

private theorem readAll_singleton {value : Json} {present : β} (later : φ)
    (h : presentField shape.ofDocument presence value.document = .ok present) :
    (cons key shape presence rest).readAll [(key, value)] (none, later) =
      .ok (some present, later) := by
  simp [readAll, readMember, h, bind, Except.bind, pure, Except.pure]

private theorem readAll_members (hshape : ∀ value, shape.ofDocument (shape.toJson value).document =
      .ok value) (value : β) (later : φ) :
    ∃ seen?, (cons key shape presence rest).readAll
        (presence.members key shape.toJson value) (none, later) = .ok (seen?, later) ∧
      (seen?.orElse fun _ => presence.absent?) = some value := by
  cases presence with
  | required => exact ⟨some value, readAll_singleton later (hshape value), rfl⟩
  | defaulted default => exact ⟨some value, readAll_singleton later (hshape value), rfl⟩
  | optional omitted =>
      cases value with
      | some value =>
          refine ⟨some (some value), readAll_singleton later ?_, rfl⟩
          rw [presentField_optional omitted (shape.toJson_ne_null value), hshape]
          rfl
      | none =>
          cases omitted with
          | true => exact ⟨none, rfl, rfl⟩
          | false => exact ⟨some none, readAll_singleton later rfl, rfl⟩

end Fields

/-! ## Shapes -/

mutual

theorem Shape.ofDocument_toJson {α : Type} : (shape : Shape α) → shape.Distinct →
    (value : α) → shape.ofDocument (shape.toJson value).document = .ok value
  | .text, _, value => by
      rw [Shape.toJson, Shape.ofDocument]
      exact toText_document value .text
  | .word, _, value => by
      rw [Shape.toJson, Shape.ofDocument]
      exact toWord_document value
  | .choice named, _, value => by
      rw [Shape.toJson, Shape.ofDocument]
      exact toCase_document named value
  | .list item, hdistinct, values => by
      have hitems := toItems_map (item.ofDocument_toJson hdistinct) 0 values
      simp only [Shape.toJson, document, itemDocuments_eq_map, List.map_map, Shape.ofDocument]
      rw [show document ∘ item.toJson = fun value => (item.toJson value).document from rfl,
        hitems]
      rfl
  | .record name fields build parts build_parts, hdistinct, value => by
      obtain ⟨seen, hread, hcomplete⟩ := fields.readAll_toMembers hdistinct (parts value)
      simp only [Shape.toJson, document, memberDocuments_eq_map, Shape.ofDocument,
        Fields.foldlM_memberDocument, hread]
      simp [Ending.check, bind, Except.bind, pure, Except.pure,
        hcomplete, build_parts]

theorem Fields.readAll_toMembers {α φ : Type} : (fields : Fields α φ) → fields.Distinct →
    (values : α) → ∃ seen, fields.readAll (fields.toMembers values) fields.unseen = .ok seen ∧
      fields.complete seen = .ok values
  | .nil, _, () => ⟨(), rfl, rfl⟩
  | .cons key shape presence rest, hdistinct, (value, values) => by
      rw [Fields.Distinct] at hdistinct
      obtain ⟨hkey, hshape, hrest⟩ := hdistinct
      obtain ⟨later, hlater, hcomplete⟩ := rest.readAll_toMembers hrest values
      obtain ⟨seen?, hfield, hseen⟩ :=
        Fields.readAll_members (shape.ofDocument_toJson hshape) value rest.unseen
      have hother : ∀ member ∈ rest.toMembers values, member.1 ≠ key := by
        rintro member hmember rfl
        exact hkey (rest.mem_keys_of_mem_toMembers values hmember)
      refine ⟨(seen?, later), ?_, ?_⟩
      · rw [Fields.toMembers, Fields.readAll_append, Fields.unseen, hfield]
        change (Fields.cons key shape presence rest).readAll _ (seen?, rest.unseen) = _
        rw [Fields.readAll_of_ne seen? rest.unseen hother, hlater]
        rfl
      · simp only [Fields.complete, hseen, hcomplete]
        rfl

end

/-- The compact text of every value reads back as the value. -/
def Shape.RoundTrips {α : Type} (shape : Shape α) : Prop :=
  ∀ value, shape.ofJson (shape.toJson value).compact = .ok value

theorem Shape.ofJson_of_read {α : Type} {shape : Shape α} (h : shape.Distinct) {text : String}
    {value : α} (hread : Document.read text = ((shape.toJson value).document, [])) :
    shape.ofJson text = .ok value := by
  simp only [Shape.ofJson, hread, shape.ofDocument_toJson h value]
  rfl

theorem Shape.RoundTrips.of_distinct {α : Type} {shape : Shape α} (h : shape.Distinct) :
    shape.RoundTrips :=
  fun value => Shape.ofJson_of_read h (read_compact (shape.toJson value))

theorem Shape.ofJson_indented {α : Type} {shape : Shape α} (h : shape.Distinct) (value : α) :
    shape.ofJson (shape.toJson value).indented = .ok value :=
  Shape.ofJson_of_read h (read_indented (shape.toJson value))

/-! ## Merged records -/

namespace Merged

variable {ρ : Type} {merged : Merged ρ}

theorem keep_string (depth : Nat) (text : String) :
    keep depth (Json.string text).document = .ok () := by
  rw [document, keep, joinUnits_map]
  rfl

/-- Keys tell the two records apart, and the values of the inner one can be kept. -/
structure Separate (merged : Merged ρ) : Prop where
  inner : merged.inner.Distinct
  outer : merged.outer.Distinct
  disjoint : ∀ key ∈ merged.inner.keys, key ∉ merged.outer.keys
  keep : ∀ values, ∀ member ∈ merged.inner.toMembers values,
    keep greatestDepth member.2.document = .ok ()

private theorem owns_document (key : String) :
    merged.owns (Json.string key).document = merged.outer.keys.contains key := by
  rw [owns, toKey_document]

def readMember (merged : Merged ρ) (seen : merged.OuterSeen) (member : String × Json) :
    Except Fault merged.OuterSeen :=
  if merged.outer.keys.contains member.1 then
    merged.outer.readMember member.1 member.2.document seen
  else do
    flawed (keep greatestDepth member.2.document)
    return seen

private theorem foldlM_memberDocument (members : List (String × Json)) (seen : merged.OuterSeen) :
    (members.map memberDocument).foldlM (fun seen (key, value) => do
        let text ← flawed key.toKey
        if merged.owns key then merged.outer.readMember text value seen
        else do
          flawed (keep greatestDepth value)
          return seen) seen =
      members.foldlM merged.readMember seen := by
  rw [List.foldlM_map]
  congr 1
  funext seen member
  simp [memberDocument, owns_document, toKey_document, bind,
    Except.bind, readMember]

private theorem foldlM_inner (h : merged.Separate) (values : merged.Inner)
    (seen : merged.OuterSeen) :
    (merged.inner.toMembers values).foldlM merged.readMember seen = .ok seen := by
  have hkept : ∀ members : List (String × Json),
      (∀ member ∈ members, merged.readMember seen member = .ok seen) →
      members.foldlM merged.readMember seen = .ok seen := by
    intro members hmembers
    induction members with
    | nil => rfl
    | cons member members ih =>
        rw [List.foldlM_cons, hmembers member List.mem_cons_self]
        exact ih fun other hother => hmembers other (List.mem_cons_of_mem _ hother)
  refine hkept _ fun member hmember => ?_
  have hother := h.disjoint member.1 (merged.inner.mem_keys_of_mem_toMembers values hmember)
  rw [readMember, if_neg (by simpa using hother), h.keep values member hmember]
  rfl

private theorem foldlM_outer (values : merged.Outer) (seen : merged.OuterSeen) :
    (merged.outer.toMembers values).foldlM merged.readMember seen =
      merged.outer.readAll (merged.outer.toMembers values) seen := by
  have howned : ∀ (members : List (String × Json)) (seen : merged.OuterSeen),
      (∀ member ∈ members, member.1 ∈ merged.outer.keys) →
      members.foldlM merged.readMember seen = merged.outer.readAll members seen := by
    intro members
    induction members with
    | nil => exact fun _ _ => rfl
    | cons member members ih =>
        intro seen hmembers
        have hmember := hmembers member List.mem_cons_self
        rw [List.foldlM_cons, Fields.readAll_cons, readMember, if_pos (by simpa using hmember)]
        congr 1
        funext later
        exact ih later fun other hother => hmembers other (List.mem_cons_of_mem _ hother)
  exact howned _ seen fun member hmember =>
    merged.outer.mem_keys_of_mem_toMembers values hmember

private theorem filter_owns (h : merged.Separate) (inner : merged.Inner) (outer : merged.Outer) :
    ((merged.inner.toMembers inner ++ merged.outer.toMembers outer).map memberDocument).filter
        (fun (key, _) => !merged.owns key) =
      (merged.inner.toMembers inner).map memberDocument := by
  have hinner : ((merged.inner.toMembers inner).map memberDocument).filter
      (fun (key, _) => !merged.owns key) = (merged.inner.toMembers inner).map memberDocument := by
    rw [List.filter_eq_self]
    intro found hfound
    obtain ⟨member, hmember, rfl⟩ := List.mem_map.mp hfound
    have hkey := h.disjoint _ (merged.inner.mem_keys_of_mem_toMembers inner hmember)
    simpa [memberDocument, owns_document] using hkey
  have houter : ((merged.outer.toMembers outer).map memberDocument).filter
      (fun (key, _) => !merged.owns key) = [] := by
    rw [List.filter_eq_nil_iff]
    intro found hfound
    obtain ⟨member, hmember, rfl⟩ := List.mem_map.mp hfound
    have hkey := merged.outer.mem_keys_of_mem_toMembers outer hmember
    simpa [memberDocument, owns_document] using hkey
  rw [List.map_append, List.filter_append, hinner, houter, List.append_nil]

theorem ofDocument_toJson (h : merged.Separate) (value : ρ) :
    merged.ofDocument (merged.toJson value).document = .ok value := by
  rcases hparts : merged.parts value with ⟨inner, outer⟩
  obtain ⟨seen, hread, hcomplete⟩ := merged.outer.readAll_toMembers h.outer outer
  have hinner : merged.innerShape.ofDocument
      (.object ((merged.inner.toMembers inner).map memberDocument) .closed) = .ok inner := by
    rw [← memberDocuments_eq_map]
    exact merged.innerShape.ofDocument_toJson h.inner inner
  have hfold : (merged.inner.toMembers inner ++ merged.outer.toMembers outer).foldlM
      merged.readMember merged.outer.unseen = .ok seen := by
    rw [List.foldlM_append, foldlM_inner h]
    exact (foldlM_outer outer _).trans hread
  have hbuild : merged.build (inner, outer) = value := by
    rw [← hparts, merged.build_parts]
  simp only [toJson, hparts, document, memberDocuments_eq_map, ofDocument,
    foldlM_memberDocument, hfold, filter_owns h, hinner]
  simp only [Ending.check, flawed_ok, bind, Except.bind, pure, Except.pure]
  rw [hcomplete]
  exact congrArg Except.ok hbuild

def RoundTrips (merged : Merged ρ) : Prop :=
  ∀ value, merged.ofJson (merged.toJson value).compact = .ok value

theorem RoundTrips.of_separate (h : merged.Separate) : merged.RoundTrips := by
  intro value
  simp only [ofJson, read_compact, ofDocument_toJson h value]
  rfl

end Merged

end LearnerPersona.Wire
