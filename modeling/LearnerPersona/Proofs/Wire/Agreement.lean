import LearnerPersona.Proofs.Wire.Soundness
import LearnerPersona.Proofs.Yaml.FlowNodes
import LearnerPersona.Wire.FromYaml

/-!
# Agreement of the readers

What is read from the JSON document of a value without plain scalars is read from its YAML
node too, whatever the shape, as long as no record is written as an array of its fields.
Texts stay texts there, whatever they look like: only plain scalars are looked at closely.
-/

namespace LearnerPersona

open LearnerPersona.Wire LearnerPersona.Yaml

/-! ## Parts of a value -/

namespace Json

theorem itemsShared_iff {items : List Json} :
    ItemsShared items ↔ ∀ item ∈ items, item.IsShared := by
  induction items with
  | nil => simp [ItemsShared]
  | cons item items ih => rw [ItemsShared, ih, List.forall_mem_cons]

private theorem isShared_of_mem {members : List (String × Json)} (h : MembersShared members) :
    ∀ member ∈ members, member.2.IsShared := by
  induction members with
  | nil => nofun
  | cons member members ih => exact List.forall_mem_cons.mpr ⟨h.2.1, ih h.2.2⟩

private theorem itemNodes_eq_map (items : List Json) : itemNodes items = items.map node := by
  induction items with
  | nil => rfl
  | cons item items ih => rw [itemNodes, ih, List.map_cons]

def memberNode (member : String × Json) : Node × Node :=
  ((Json.string member.1).node, member.2.node)

private theorem memberNodes_eq_map (members : List (String × Json)) :
    memberNodes members = members.map memberNode := by
  induction members with
  | nil => rfl
  | cons member members ih => rw [memberNodes, ih, List.map_cons, memberNode, node]

/-! ## Readings of the document -/

private theorem toWord_document_ne_ok {json : Json} (h : json.IsShared) {value : UInt32} :
    json.document.toWord ≠ .ok value := by
  intro hword
  obtain ⟨found, hfound, hword⟩ := bind_eq_ok_iff.mp hword
  rw [flawed_eq_ok_iff] at hfound
  cases json with
  | null | boolean | number => exact h.elim
  | string text =>
      obtain ⟨chars, -, rfl⟩ := map_eq_ok_iff.mp hfound
      cases hword
  | array | object =>
      cases hfound
      cases hword

private theorem toUnit_document_ne_ok {json : Json} (h : json.IsShared) :
    json.document.toUnit ≠ .ok () := by
  cases json with
  | null | boolean | number => exact h.elim
  | string | array | object => exact Document.mismatch_ne_ok

/-- A case is written as its name, since nothing is written as null. -/
private theorem toCase_document_eq_ok {α : Type} {named : Named α} {json : Json} (h : json.IsShared)
    {case : α} (hcase : json.document.toCase named = .ok case) :
    ∃ text, json = .string text ∧ Document.caseOf named text = .ok case := by
  cases json with
  | null | boolean | number => exact h.elim
  | array items => cases hcase
  | string text =>
      obtain ⟨found, hfound, hcase⟩ := bind_eq_ok_iff.mp hcase
      rw [joinUnits_map] at hfound
      obtain ⟨chars, hchars, rfl⟩ := map_eq_ok_iff.mp (flawed_eq_ok_iff.mp hfound)
      cases hchars
      exact ⟨text, rfl, by simpa using hcase⟩
  | object members =>
      obtain ⟨key, value, text, hmembers, -, -, hunit, -⟩ :=
        Document.toCase_object_eq_ok_iff.mp hcase
      rw [memberDocuments_eq_map, List.map_eq_singleton_iff] at hmembers
      obtain ⟨member, rfl, hmember⟩ := hmembers
      cases hmember
      exact (toUnit_document_ne_ok h.2.1 hunit).elim

end Json

/-! ## Single nodes -/

namespace Yaml

variable {α : Type}

private theorem lift_ok (value : α) :
    (liftM (.ok value : Except Fault α) : Decoding α) = pure value :=
  rfl

private theorem mapFault_pure (change : Fault → Fault) (value : α) :
    (pure value : Decoding α).mapFault change = pure value := rfl

theorem follow_node (aliases : Aliases) (json : Json) :
    aliases.follow json.node = pure json.node := by
  cases json <;> rfl

private theorem items?_node (items : List Json) :
    (Json.array items).node.items? = some (items.map Json.node, .closed) := by
  rw [← Json.itemNodes_eq_map]
  rfl

private theorem members?_node (members : List (String × Json)) :
    (Json.object members).node.members? = some (members.map Json.memberNode, .closed) := by
  rw [← Json.memberNodes_eq_map]
  rfl

private theorem isAbsent_node {json : Json} (h : json.IsShared) :
    json.node.isAbsent = .ok false := by
  cases json with
  | null | boolean | number => exact h.elim
  | string | array | object => rfl

private theorem toText_node (strict : Bool) (expected : Expected) (text : String) :
    (Json.string text).node.toText strict expected = .ok text := by
  cases strict <;> rfl

private theorem toCase_node {named : Named α} {text : String} {case : α}
    (h : Json.Document.caseOf named text = .ok case) :
    (Json.string text).node.toCase named = .ok case := by
  have hname : named.ofName? text = some case := by
    unfold Json.Document.caseOf at h
    split at h
    next hname => exact hname.trans (congrArg some (Except.ok.inj h))
    next => cases h
  simp [Json.node, Node.toCase, localName?, Node.caseOf, hname, Except.mapError]

private theorem presentField_node {β : Type} {aliases : Aliases} {read : Node → Decoding α}
    {readJson : Json.Document → Except Json.Fault α} {json : Json} (hjson : json.IsShared)
    (hread : ∀ {value}, readJson json.document = .ok value → read json.node = pure value)
    {presence : Presence α β} {value : β}
    (h : Json.presentField readJson presence json.document = .ok value) :
    presentField aliases read presence json.node = pure value := by
  cases presence with
  | required => exact hread h
  | defaulted default => exact hread h
  | optional omitted =>
      -- Only a plain scalar is null in YAML, however a text between quotes looks.
      have hnull : json ≠ .null := by
        rintro rfl
        exact hjson
      rw [presentField_optional omitted hnull] at h
      obtain ⟨inner, hinner, rfl⟩ := map_eq_ok_iff.mp h
      simp only [presentField, follow_node, pure_bind, isAbsent_node hjson, lift_ok,
        hread hinner]
      rfl

private theorem toItems_node {read : Node → Decoding α}
    {readJson : Json.Document → Except Json.Fault α} {items : List Json}
    (hread : ∀ json ∈ items, ∀ {value}, readJson json.document = .ok value →
      read json.node = pure value) {position : Nat} {values : List α}
    (h : Json.Document.toItems readJson position (items.map Json.document) = .ok values) :
    Node.toItems read position (items.map Json.node) = pure values := by
  induction items generalizing position values with
  | nil =>
      cases h
      rfl
  | cons item items ih =>
      rw [List.forall_mem_cons] at hread
      obtain ⟨value, hvalue, h⟩ := bind_eq_ok_iff.mp h
      obtain ⟨others, hothers, h⟩ := bind_eq_ok_iff.mp h
      cases h
      rw [List.map_cons, Node.toItems, hread.1 (mapError_eq_ok_iff.mp hvalue), mapFault_pure,
        pure_bind, ih hread.2 hothers]
      rfl

mutual

private theorem skip_node : (json : Json) → json.IsShared → json.node.skip = .ok ()
  | .string _, _ => rfl
  | .array items, h => by
      rw [Json.IsShared] at h
      rw [Json.node, Node.skip, skipItems_node items h]
      rfl
  | .object members, h => by
      rw [Json.IsShared] at h
      rw [Json.node, Node.skip, skipMembers_node members h]
      rfl

private theorem skipItems_node : (items : List Json) → Json.ItemsShared items →
    Node.skipItems (Json.itemNodes items) = .ok ()
  | [], _ => rfl
  | item :: items, h => by
      rw [Json.itemNodes, Node.skipItems, skip_node item h.1]
      exact skipItems_node items h.2

private theorem skipMembers_node : (members : List (String × Json)) → Json.MembersShared members →
    Node.skipMembers (Json.memberNodes members) = .ok ()
  | [], _ => rfl
  | (key, value) :: members, h => by
      rw [Json.memberNodes, Node.skipMembers, skip_node value h.2.1]
      exact skipMembers_node members h.2.2

end

end Yaml

/-! ## Shapes -/

namespace Wire

mutual

/-- No record is written as an array of its fields. -/
def Shape.IsKeyed {α : Type} : Shape α → Json → Prop
  | .text | .word | .choice _ => fun _ => True
  | .list item => fun
      | .array items => ∀ json ∈ items, item.IsKeyed json
      | _ => True
  | .record _ fields _ _ _ => fun
      | .object members => ∀ member ∈ members, fields.IsKeyed member.1 member.2
      | .array _ => False
      | _ => True

def Fields.IsKeyed {α φ : Type} : Fields α φ → String → Json → Prop
  | .nil => fun _ _ => True
  | .cons key shape _ rest => fun name json =>
      (name = key → shape.IsKeyed json) ∧ (name ≠ key → rest.IsKeyed name json)

end

private theorem foldlM_memberNode (aliases : Aliases) (strict : Bool) {α φ : Type}
    {fields : Fields α φ} {members : List (String × Json)}
    (hread : ∀ member ∈ members, ∀ seen after,
      fields.readMember member.1 member.2.document seen = .ok after →
      fields.readNode aliases strict member.1 (.member member.1) member.2.node seen = pure after)
    {seen after : φ}
    (h : (members.map Json.memberDocument).foldlM fields.readPair seen = .ok after) :
    (members.map Json.memberNode).foldlM (fun seen (key, value) => do
      let text ← (← aliases.follow key).toText false .fieldName
      fields.readNode aliases strict text (memberStep key) value seen) seen = pure after := by
  induction members generalizing seen with
  | nil =>
      cases h
      rfl
  | cons member members ih =>
      rw [List.forall_mem_cons] at hread
      rw [List.map_cons, List.foldlM_cons, bind_eq_ok_iff] at h
      obtain ⟨middle, hmember, hmembers⟩ := h
      obtain ⟨name, hkey, hmember⟩ := Fields.readPair_eq_ok_iff.mp hmember
      cases (toKey_document member.1).symm.trans hkey
      have hkey : memberStep (Json.string member.1).node = .member member.1 := rfl
      rw [List.map_cons, List.foldlM_cons]
      simp only [Json.memberNode, follow_node, pure_bind, toText_node, lift_ok, hkey,
        hread.1 seen middle hmember]
      exact ih hread.2 hmembers

mutual

theorem Shape.ofNode_of_ofDocument (aliases : Aliases) (strict : Bool) {α : Type} :
    (shape : Shape α) → {json : Json} → json.IsShared → shape.IsKeyed json → {value : α} →
      shape.ofDocument json.document = .ok value →
      shape.ofNode aliases strict json.node = pure value
  | .text, .string text, _, _, value, h => by
      cases (toText_document text .text).symm.trans h
      simp only [Shape.ofNode, follow_node, pure_bind, toText_node]
      rfl
  | .text, .array _, _, _, _, h | .text, .object _, _, _, _, h =>
      (Json.Document.mismatch_ne_ok h).elim
  | .word, _, hjson, _, _, h => (Json.toWord_document_ne_ok hjson h).elim
  | .choice named, json, hjson, _, value, h => by
      obtain ⟨text, rfl, hcase⟩ := Json.toCase_document_eq_ok hjson h
      simp only [Shape.ofNode, follow_node, pure_bind]
      change liftM ((Json.string text).node.toCase named) = _
      rw [toCase_node hcase]
      rfl
  | .list item, .array items, hjson, hkeyed, value, h => by
      obtain ⟨values, hvalues, h⟩ := bind_eq_ok_iff.mp h
      cases h
      rw [Json.itemDocuments_eq_map] at hvalues
      have hitems := toItems_node (fun json hmem => item.ofNode_of_ofDocument aliases strict
        (Json.itemsShared_iff.mp hjson json hmem) (hkeyed json hmem)) hvalues
      simp only [Shape.ofNode, follow_node, pure_bind, items?_node, hitems]
      rfl
  | .list item, .string _, _, _, _, h | .list item, .object _, _, _, _, h =>
      (Json.Document.mismatch_ne_ok h).elim
  | .record name fields build parts build_parts, .object members, hjson, hkeyed, value, h => by
      obtain ⟨seen, values, hmembers, -, hcomplete, rfl⟩ := Shape.record_object_eq_ok_iff.mp h
      rw [Json.memberDocuments_eq_map] at hmembers
      have hnodes := foldlM_memberNode aliases strict (fun member hmember seen after hread =>
        fields.readNode_of_readMember aliases strict (Json.isShared_of_mem hjson member hmember)
          (hkeyed member hmember) hread (.member member.1)) hmembers
      simp only [Shape.ofNode, follow_node, pure_bind, members?_node, hnodes, hcomplete]
      rfl
  | .record name fields build parts build_parts, .string _, _, _, _, h =>
      (Json.Document.mismatch_ne_ok h).elim

theorem Fields.readNode_of_readMember (aliases : Aliases) (strict : Bool) {α φ : Type} :
    (fields : Fields α φ) → {name : String} → {json : Json} → json.IsShared →
      fields.IsKeyed name json → {seen after : φ} →
      fields.readMember name json.document seen = .ok after → (step : Step) →
      fields.readNode aliases strict name step json.node seen = pure after
  | .nil, _, json, hjson, _, _, _, h, _ => by
      obtain ⟨⟨⟩, -, h⟩ := bind_eq_ok_iff.mp h
      cases h
      simp only [Fields.readNode, skip_node json hjson, lift_ok, pure_bind]
  | .cons field shape presence rest, name, json, hjson, hkeyed, seen, _, h, step => by
      rcases Fields.readMember_cons_eq_ok_iff.mp h with
        ⟨hname, hseen, present, hpresent, rfl⟩ | ⟨hname, later, hlater, rfl⟩
      · have hnode : presentField aliases (shape.ofNode aliases strict) presence json.node =
            pure present :=
          presentField_node hjson (shape.ofNode_of_ofDocument aliases strict hjson
            (hkeyed.1 hname)) hpresent
        simp only [Fields.readNode, if_pos hname, hseen, hnode, mapFault_pure, pure_bind]
      · have hnode := rest.readNode_of_readMember aliases strict hjson (hkeyed.2 hname) hlater step
        simp only [Fields.readNode, if_neg hname, hnode, pure_bind]

end

/-! ## Written values -/

theorem Shape.isKeyed_null {α : Type} (shape : Shape α) : shape.IsKeyed .null := by
  cases shape <;> trivial

theorem Presence.value_of_mem_members {α β : Type} {key : String} {write : α → Json}
    {presence : Presence α β} {value : β} {member : String × Json}
    (h : member ∈ presence.members key write value) :
    member.2 = .null ∨ ∃ inner, member.2 = write inner := by
  cases presence with
  | required | defaulted =>
      cases List.mem_singleton.mp h
      exact .inr ⟨value, rfl⟩
  | optional omitted =>
      cases value with
      | some inner =>
          cases List.mem_singleton.mp h
          exact .inr ⟨inner, rfl⟩
      | none =>
          cases omitted with
          | true => cases h
          | false =>
              cases List.mem_singleton.mp h
              exact .inl rfl

mutual

theorem Shape.isKeyed_toJson {α : Type} : (shape : Shape α) → shape.Distinct → (value : α) →
    shape.IsKeyed (shape.toJson value)
  | .text, _, _ | .word, _, _ | .choice _, _, _ => trivial
  | .list item, hdistinct, values =>
      List.forall_mem_map.mpr fun value _ => item.isKeyed_toJson hdistinct value
  | .record _ fields _ parts _, hdistinct, value =>
      fields.isKeyed_toMembers hdistinct (parts value)

theorem Fields.isKeyed_toMembers {α φ : Type} : (fields : Fields α φ) → fields.Distinct →
    (values : α) → ∀ member ∈ fields.toMembers values, fields.IsKeyed member.1 member.2
  | .nil, _, _ => nofun
  | .cons key shape presence rest, hdistinct, (value, values) => by
      rw [Fields.Distinct] at hdistinct
      obtain ⟨hkey, hshape, hrest⟩ := hdistinct
      rw [Fields.toMembers, List.forall_mem_append]
      constructor
      · intro member hmember
        refine ⟨fun _ => ?_, fun hname => absurd (Presence.key_of_mem_members hmember) hname⟩
        obtain hnull | ⟨inner, hinner⟩ := Presence.value_of_mem_members hmember
        · rw [hnull]
          exact shape.isKeyed_null
        · rw [hinner]
          exact shape.isKeyed_toJson hshape inner
      · intro member hmember
        refine ⟨?_, fun _ => rest.isKeyed_toMembers hrest values member hmember⟩
        rintro rfl
        exact (hkey (rest.mem_keys_of_mem_toMembers values hmember)).elim

end

/-! ## Whole texts -/

theorem Shape.ofJson_compact {α : Type} (shape : Shape α) (json : Json) :
    shape.ofJson json.compact = shape.ofDocument json.document := by
  simp only [ofJson, Json.read_compact]
  exact bind_pure _

/-- What the compact text of a value is read as in the one format, it is read as in the
other. -/
theorem Shape.ofYaml_of_ofJson {α : Type} {shape : Shape α} {json : Json} (hjson : json.IsShared)
    (hkeyed : shape.IsKeyed json) {value : α} (h : shape.ofJson json.compact = .ok value) :
    shape.ofYaml json.compact = .ok value := by
  rw [ofJson_compact] at h
  have hnode := shape.ofNode_of_ofDocument (Document.mk json.node true).aliases false hjson
    hkeyed h
  simp only [ofYaml, ofText_compact hjson, hnode]
  rfl

end Wire

end LearnerPersona
