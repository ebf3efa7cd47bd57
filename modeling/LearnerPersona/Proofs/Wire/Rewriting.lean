import LearnerPersona.Proofs.Success
import LearnerPersona.Proofs.Wire.RoundTrip
import Mathlib.Logic.Unique

/-!
# Documents told in another way

The members of an object may come in any order and texts may be escaped as one likes:
what a shape reads from a document it reads from every such retelling, too.
-/

namespace LearnerPersona

open LearnerPersona.Wire

namespace Json

/-! ## Rewriting -/

/-- The documents differ in how texts are escaped and in the order of members, here or
further inside. -/
inductive Document.Rewritten : Document → Document → Prop
  | refl (document : Document) : Rewritten document document
  | trans {first second third : Document} (hfirst : Rewritten first second)
      (hsecond : Rewritten second third) : Rewritten first third
  | text {units units' : List TextUnit} (h : joinUnits units .closed = joinUnits units' .closed) :
      Rewritten (.string units .closed) (.string units' .closed)
  | item (front back : List Document) (ending : Ending) {item item' : Document}
      (h : Rewritten item item') :
      Rewritten (.array (front ++ item :: back) ending) (.array (front ++ item' :: back) ending)
  | member (front back : List (Document × Document)) (ending : Ending)
      {key key' value value' : Document} (hkey : Rewritten key key')
      (hvalue : Rewritten value value') :
      Rewritten (.object (front ++ (key, value) :: back) ending)
        (.object (front ++ (key', value') :: back) ending)
  | order {members members' : List (Document × Document)} (ending : Ending)
      (h : members.Perm members') :
      Rewritten (.object members ending) (.object members' ending)

/-- The text is one of the many that tell the value.  What comes after the value is
not looked at. -/
def IsToldBy (value : Json) (text : String) : Prop :=
  value.document.Rewritten (Document.read text).1

theorem isToldBy_compact (value : Json) : value.IsToldBy value.compact := by
  rw [IsToldBy, read_compact]
  exact .refl _

end Json

open LearnerPersona.Json

/-! ## Success of a reader -/

theorem flawed_eq_ok_iff {α : Type} {result : Except Flaw α} {value : α} :
    flawed result = .ok value ↔ result = .ok value :=
  mapError_eq_ok_iff

namespace Json.Document

theorem skipItems_eq_ok_iff {items : List Document} :
    skipItems items = .ok () ↔ ∀ item ∈ items, item.skip = .ok () := by
  induction items with
  | nil => simp [skipItems]
  | cons item items ih => simp [skipItems, bind_eq_ok_iff, ih, Unique.exists_iff]

theorem skipMembers_eq_ok_iff {members : List (Document × Document)} :
    skipMembers members = .ok () ↔
      ∀ member ∈ members, skipKey member.1 = .ok () ∧ member.2.skip = .ok () := by
  induction members with
  | nil => simp [skipMembers]
  | cons member members ih =>
      simp [skipMembers, bind_eq_ok_iff, ih, Unique.exists_iff, and_assoc]

theorem toCase_object_eq_ok_iff {α : Type} {named : Named α}
    {members : List (Document × Document)} {ending : Ending} {case : α} :
    (Document.object members ending).toCase named = .ok case ↔
      ∃ key value text, members = [(key, value)] ∧ key.toKey = .ok text ∧
        caseOf named text = .ok case ∧ value.toUnit = .ok () ∧ ending.check = .ok () := by
  match members with
  | [] => cases ending <;> simp [toCase]
  | [(key, value)] =>
      simp only [toCase, bind_eq_ok_iff, flawed_eq_ok_iff, mapError_eq_ok_iff, pure, Except.pure,
        Unique.exists_iff, Except.ok.injEq, List.cons.injEq, Prod.mk.injEq, and_true]
      constructor
      · rintro ⟨text, hkey, case, hcase, hunit, hending, rfl⟩
        exact ⟨key, value, text, ⟨rfl, rfl⟩, hkey, hcase, hunit, hending⟩
      · rintro ⟨_, _, text, ⟨rfl, rfl⟩, hkey, hcase, hunit, hending⟩
        exact ⟨text, hkey, case, hcase, hunit, hending, rfl⟩
  | (key, value) :: _ :: others =>
      constructor
      · intro hcase
        obtain ⟨text, -, hcase⟩ := bind_eq_ok_iff.mp hcase
        obtain ⟨found, -, hcase⟩ := bind_eq_ok_iff.mp hcase
        obtain ⟨done, -, hcase⟩ := bind_eq_ok_iff.mp hcase
        obtain ⟨done, hcase, -⟩ := bind_eq_ok_iff.mp hcase
        cases hcase
      · rintro ⟨_, _, _, hmembers, -⟩
        cases hmembers

private theorem toItems_replace {α : Type} {read : Document → Except Fault α}
    {item item' : Document} (h : ∀ value, read item = .ok value → read item' = .ok value)
    (back : List Document) {values : List α} (front : List Document) (position : Nat)
    (hread : toItems read position (front ++ item :: back) = .ok values) :
    toItems read position (front ++ item' :: back) = .ok values := by
  induction front generalizing position values with
  | nil =>
      obtain ⟨value, hvalue, hback⟩ := bind_eq_ok_iff.mp hread
      have hvalue' := h value (mapError_eq_ok_iff.mp hvalue)
      rw [List.nil_append, toItems, hvalue']
      exact hback
  | cons other front ih =>
      obtain ⟨first, hfirst, hrest⟩ := bind_eq_ok_iff.mp hread
      obtain ⟨others, hothers, hdone⟩ := bind_eq_ok_iff.mp hrest
      exact bind_eq_ok_iff.mpr ⟨first, hfirst, bind_eq_ok_iff.mpr ⟨others, ih _ hothers, hdone⟩⟩

end Json.Document

/-! ## Fields -/

/-- The value can be taken neither for null nor for the beginning of it. -/
def Json.Document.IsPresent : Document → Prop
  | .null | .broken .null _ => False
  | _ => True

section Fields

variable {α β γ φ : Type}

theorem presentField_eq_map {read : Document → Except Fault α} {document : Document}
    (omitted : Bool) (h : document.IsPresent) :
    presentField read (.optional omitted) document = some <$> read document := by
  cases document with
  | null => exact h.elim
  | broken start flaw =>
      cases start with
      | null => exact h.elim
      | number | other => rfl
  | boolean | number | string | array | object | missing => rfl

private theorem presentField_of_read {read : Document → Except Fault α} (presence : Presence α β)
    {document document' : Document} (hpresent : document.IsPresent)
    (hpresent' : document'.IsPresent)
    (hread : ∀ value, read document = .ok value → read document' = .ok value) {value : β}
    (h : presentField read presence document = .ok value) :
    presentField read presence document' = .ok value := by
  cases presence with
  | required => exact hread value h
  | defaulted default => exact hread value h
  | optional omitted =>
      rw [presentField_eq_map omitted hpresent, map_eq_ok_iff] at h
      obtain ⟨inner, hinner, rfl⟩ := h
      rw [presentField_eq_map omitted hpresent', hread inner hinner]
      rfl

namespace Wire.Fields

variable {name key : String} {value : Document} {shape : Shape α} {presence : Presence α β}
  {rest : Fields γ φ}

theorem readMember_cons_eq_ok_iff {seen after : Option β × φ} :
    (cons key shape presence rest).readMember name value seen = .ok after ↔
      (name = key ∧ seen.1 = none ∧
        ∃ present, presentField shape.ofDocument presence value = .ok present ∧
          (some present, seen.2) = after) ∨
      (name ≠ key ∧ ∃ later, rest.readMember name value seen.2 = .ok later ∧
        (seen.1, later) = after) := by
  obtain ⟨seen?, later⟩ := seen
  by_cases hname : name = key
  · cases seen? <;>
      simp [readMember, hname, bind_eq_ok_iff, mapError_eq_ok_iff, pure, Except.pure]
  · simp [readMember, hname, bind_eq_ok_iff, pure, Except.pure]

theorem readMember_comm {α φ : Type} {first second : String} {value value' : Document} :
    (fields : Fields α φ) → {seen middle after : φ} →
      fields.readMember first value seen = .ok middle →
      fields.readMember second value' middle = .ok after →
      ∃ middle', fields.readMember second value' seen = .ok middle' ∧
        fields.readMember first value middle' = .ok after
  | .nil, seen, middle, after, hfirst, hsecond => ⟨(), hsecond, hfirst⟩
  | .cons key shape presence rest, seen, middle, after, hfirst, hsecond => by
      rw [readMember_cons_eq_ok_iff] at hfirst hsecond
      simp only [readMember_cons_eq_ok_iff]
      rcases hfirst with ⟨hkey, hseen, present, hpresent, rfl⟩ | ⟨hkey, later, hlater, rfl⟩
      · rcases hsecond with ⟨-, hseen', -⟩ | ⟨hkey', later, hlater, rfl⟩
        -- No field takes both members.
        · contradiction
        · exact ⟨_, .inr ⟨hkey', later, hlater, rfl⟩, .inl ⟨hkey, hseen, present, hpresent, rfl⟩⟩
      · rcases hsecond with ⟨hkey', hseen, present, hpresent, rfl⟩ | ⟨hkey', last, hlast, rfl⟩
        · exact ⟨_, .inl ⟨hkey', hseen, present, hpresent, rfl⟩, .inr ⟨hkey, later, hlater, rfl⟩⟩
        · obtain ⟨later', hlater', hlast'⟩ := rest.readMember_comm hlater hlast
          exact ⟨_, .inr ⟨hkey', later', hlater', rfl⟩, .inr ⟨hkey, last, hlast', rfl⟩⟩

def readPair {α φ : Type} (fields : Fields α φ) (seen : φ) (member : Document × Document) :
    Except Fault φ := do
  fields.readMember (← flawed member.1.toKey) member.2 seen

theorem readPair_eq_ok_iff {fields : Fields α φ} {seen after : φ} {member : Document × Document} :
    fields.readPair seen member = .ok after ↔
      ∃ text, member.1.toKey = .ok text ∧ fields.readMember text member.2 seen = .ok after := by
  simp only [readPair, bind_eq_ok_iff, flawed_eq_ok_iff]

theorem readPair_comm {fields : Fields α φ} {seen middle after : φ}
    {first second : Document × Document} (hfirst : fields.readPair seen first = .ok middle)
    (hsecond : fields.readPair middle second = .ok after) :
    ∃ middle', fields.readPair seen second = .ok middle' ∧
      fields.readPair middle' first = .ok after := by
  simp only [readPair_eq_ok_iff] at hfirst hsecond ⊢
  obtain ⟨text, hkey, hmember⟩ := hfirst
  obtain ⟨text', hkey', hmember'⟩ := hsecond
  obtain ⟨middle', hsecond', hfirst'⟩ := fields.readMember_comm hmember hmember'
  exact ⟨middle', ⟨text', hkey', hsecond'⟩, text, hkey, hfirst'⟩

theorem foldlM_perm {fields : Fields α φ} {members members' : List (Document × Document)}
    (h : members.Perm members') {seen after : φ}
    (hread : members.foldlM fields.readPair seen = .ok after) :
    members'.foldlM fields.readPair seen = .ok after := by
  refine foldlM_eq_ok_of_perm (fun hfirst hsecond => ?_) h hread
  exact readPair_comm hfirst hsecond

end Wire.Fields

end Fields

theorem Wire.Shape.record_object_eq_ok_iff {α φ ρ : Type} {name : String} {fields : Fields α φ}
    {build : α → ρ} {parts : ρ → α} {build_parts : ∀ record, build (parts record) = record}
    {members : List (Document × Document)} {ending : Ending} {record : ρ} :
    (Shape.record name fields build parts build_parts).ofDocument (.object members ending) =
        .ok record ↔
      ∃ seen values, members.foldlM fields.readPair fields.unseen = .ok seen ∧
        ending.check = .ok () ∧ fields.complete seen = .ok values ∧ build values = record := by
  simp only [Shape.ofDocument, bind_eq_ok_iff, flawed_eq_ok_iff, Unique.exists_iff,
    exists_and_left]
  refine exists_congr fun seen => and_congr Iff.rfl (and_congr_right fun _ => ?_)
  cases fields.complete seen <;> simp [pure, Except.pure, throw, throwThe, MonadExceptOf.throw]

/-! ## Documents that can stand for others -/

namespace Json.Document

/-- Whatever is learned from the first document is learned from the second. -/
structure Follows (document document' : Document) : Prop where
  field {α β : Type} (shape : Shape α) (presence : Presence α β) {value : β} :
    presentField shape.ofDocument presence document = .ok value →
      presentField shape.ofDocument presence document' = .ok value
  unit : document.toUnit = .ok () → document'.toUnit = .ok ()
  key {text : String} : document.toKey = .ok text → document'.toKey = .ok text
  skip : document.skip = .ok () → document'.skip = .ok ()
  skipKey : document.skipKey = .ok () → document'.skipKey = .ok ()

namespace Follows

theorem refl (document : Document) : Follows document document :=
  ⟨fun _ _ _ => id, id, id, id, id⟩

theorem trans {first second third : Document} (h : Follows first second)
    (h' : Follows second third) : Follows first third where
  field shape presence _ hread := h'.field shape presence (h.field shape presence hread)
  unit hread := h'.unit (h.unit hread)
  key hread := h'.key (h.key hread)
  skip hread := h'.skip (h.skip hread)
  skipKey hread := h'.skipKey (h.skipKey hread)

variable {document document' : Document}

theorem read {α : Type} {shape : Shape α} {value : α} (h : Follows document document')
    (hread : shape.ofDocument document = .ok value) : shape.ofDocument document' = .ok value :=
  h.field shape .required hread

theorem text {units units' : List TextUnit}
    (h : joinUnits units .closed = joinUnits units' .closed) :
    Follows (.string units .closed) (.string units' .closed) where
  field shape presence _ hread := by
    have hsame : shape.ofDocument (.string units .closed) =
        shape.ofDocument (.string units' .closed) := by
      cases shape <;> simp only [Shape.ofDocument, toText, toWord, toCase, mismatch, found, h]
    exact presentField_of_read presence (by trivial) (by trivial)
      (fun _ hvalue => hsame.symm.trans hvalue) hread
  unit hread := by
    rw [← hread]
    simp only [toUnit, mismatch, found, h]
  key hread := by
    rw [← hread]
    simp only [toKey, h]
  skip hread := hread
  skipKey hread := hread

theorem readMember {α φ : Type} {name : String} (h : Follows document document') :
    (fields : Fields α φ) → {seen after : φ} →
      fields.readMember name document seen = .ok after →
      fields.readMember name document' seen = .ok after
  | .nil, seen, after, hread => by
      rw [Fields.readMember, bind_eq_ok_iff] at hread ⊢
      obtain ⟨done, hskip, hdone⟩ := hread
      exact ⟨done, flawed_eq_ok_iff.mpr (h.skip (flawed_eq_ok_iff.mp hskip)), hdone⟩
  | .cons key shape presence rest, seen, after, hread => by
      rw [Fields.readMember_cons_eq_ok_iff] at hread ⊢
      rcases hread with ⟨hkey, hseen, present, hpresent, rfl⟩ | ⟨hkey, later, hlater, rfl⟩
      · exact .inl ⟨hkey, hseen, present, h.field shape presence hpresent, rfl⟩
      · exact .inr ⟨hkey, later, h.readMember rest hlater, rfl⟩

theorem ofItems {α φ : Type} {name : String} {count : Nat} {back : List Document}
    {ending : Ending} (h : Follows document document') :
    (fields : Fields α φ) → (front : List Document) → {position : Nat} → {values : α} →
      fields.ofItems name count position (front ++ document :: back) ending = .ok values →
      fields.ofItems name count position (front ++ document' :: back) ending = .ok values
  | .nil, front, position, values, hread => by
      cases front <;> cases hread
  | .cons key shape presence rest, [], position, values, hread => by
      obtain ⟨value, hvalue, hrest⟩ := bind_eq_ok_iff.mp hread
      have hvalue' := h.field shape presence (mapError_eq_ok_iff.mp hvalue)
      exact bind_eq_ok_iff.mpr ⟨value, mapError_eq_ok_iff.mpr hvalue', hrest⟩
  | .cons key shape presence rest, item :: front, position, values, hread => by
      obtain ⟨value, hvalue, hrest⟩ := bind_eq_ok_iff.mp hread
      obtain ⟨others, hothers, rfl⟩ := map_eq_ok_iff.mp hrest
      exact bind_eq_ok_iff.mpr
        ⟨value, hvalue, map_eq_ok_iff.mpr ⟨others, h.ofItems rest front hothers, rfl⟩⟩

theorem item (front back : List Document) (ending : Ending) (h : Follows document document') :
    Follows (.array (front ++ document :: back) ending)
      (.array (front ++ document' :: back) ending) where
  field shape presence _ hread := by
    refine presentField_of_read presence (by trivial) (by trivial) (fun value hvalue => ?_) hread
    cases shape with
    | text | word | choice => cases hvalue
    | list item =>
        obtain ⟨values, hvalues, hdone⟩ := bind_eq_ok_iff.mp hvalue
        have hvalues' := toItems_replace (fun _ => h.read) back front 0 hvalues
        exact bind_eq_ok_iff.mpr ⟨values, hvalues', hdone⟩
    | record name fields build parts build_parts =>
        obtain ⟨values, hvalues, rfl⟩ := map_eq_ok_iff.mp hvalue
        exact map_eq_ok_iff.mpr ⟨values, h.ofItems fields front hvalues, rfl⟩
  unit hread := by cases hread
  key hread := by cases hread
  skip hread := by
    obtain ⟨⟨⟩, hitems, hdone⟩ := bind_eq_ok_iff.mp hread
    rw [skipItems_eq_ok_iff, List.forall_mem_append, List.forall_mem_cons] at hitems
    obtain ⟨hfront, hitem, hback⟩ := hitems
    have hitems' : skipItems (front ++ document' :: back) = .ok () := by
      rw [skipItems_eq_ok_iff, List.forall_mem_append, List.forall_mem_cons]
      exact ⟨hfront, h.skip hitem, hback⟩
    exact bind_eq_ok_iff.mpr ⟨(), hitems', hdone⟩
  skipKey hread := by cases hread

theorem readPair {α φ : Type} {fields : Fields α φ} {seen after : φ}
    {member member' : Document × Document} (hkey : Follows member.1 member'.1)
    (hvalue : Follows member.2 member'.2) (hread : fields.readPair seen member = .ok after) :
    fields.readPair seen member' = .ok after := by
  rw [Fields.readPair_eq_ok_iff] at hread ⊢
  obtain ⟨text, htext, hmember⟩ := hread
  exact ⟨text, hkey.key htext, hvalue.readMember fields hmember⟩

theorem member (front back : List (Document × Document)) (ending : Ending)
    {key key' value value' : Document} (hkey : Follows key key') (hvalue : Follows value value') :
    Follows (.object (front ++ (key, value) :: back) ending)
      (.object (front ++ (key', value') :: back) ending) where
  field shape presence _ hread := by
    refine presentField_of_read presence (by trivial) (by trivial) (fun read hobject => ?_) hread
    cases shape with
    | text | word | list => cases hobject
    | choice named =>
        obtain ⟨_, _, text, hmembers, htext, hcase, hunit, hending⟩ :=
          toCase_object_eq_ok_iff.mp hobject
        -- Nothing stands beside the only member of a case.
        obtain ⟨rfl, hrest⟩ | ⟨-, hrest⟩ := List.append_eq_singleton_iff.mp hmembers
        · cases hrest
          exact toCase_object_eq_ok_iff.mpr
            ⟨key', value', text, rfl, hkey.key htext, hcase, hvalue.unit hunit, hending⟩
        · cases hrest
    | record name fields build parts build_parts =>
        rw [Shape.record_object_eq_ok_iff] at hobject ⊢
        obtain ⟨seen, values, hmembers, hdone⟩ := hobject
        refine ⟨seen, values, ?_, hdone⟩
        simp only [List.foldlM_append, List.foldlM_cons, bind_eq_ok_iff] at hmembers ⊢
        obtain ⟨before, hfront, after, hmember, hback⟩ := hmembers
        exact ⟨before, hfront, after, readPair hkey hvalue hmember, hback⟩
  unit hread := by cases hread
  key hread := by cases hread
  skip hread := by
    obtain ⟨⟨⟩, hmembers, hdone⟩ := bind_eq_ok_iff.mp hread
    rw [skipMembers_eq_ok_iff, List.forall_mem_append, List.forall_mem_cons] at hmembers
    obtain ⟨hfront, ⟨hskipKey, hskip⟩, hback⟩ := hmembers
    have hmembers' : skipMembers (front ++ (key', value') :: back) = .ok () := by
      rw [skipMembers_eq_ok_iff, List.forall_mem_append, List.forall_mem_cons]
      exact ⟨hfront, ⟨hkey.skipKey hskipKey, hvalue.skip hskip⟩, hback⟩
    exact bind_eq_ok_iff.mpr ⟨(), hmembers', hdone⟩
  skipKey hread := by cases hread

theorem order {members members' : List (Document × Document)} (ending : Ending)
    (h : members.Perm members') :
    Follows (.object members ending) (.object members' ending) where
  field shape presence _ hread := by
    refine presentField_of_read presence (by trivial) (by trivial) (fun value hobject => ?_) hread
    cases shape with
    | text | word | list => cases hobject
    | choice named =>
        obtain ⟨_, _, text, rfl, -⟩ := toCase_object_eq_ok_iff.mp hobject
        cases List.singleton_perm.mp h
        exact hobject
    | record name fields build parts build_parts =>
        rw [Shape.record_object_eq_ok_iff] at hobject ⊢
        obtain ⟨seen, values, hmembers, hdone⟩ := hobject
        exact ⟨seen, values, Fields.foldlM_perm h hmembers, hdone⟩
  unit hread := by cases hread
  key hread := by cases hread
  skip hread := by
    obtain ⟨⟨⟩, hmembers, hdone⟩ := bind_eq_ok_iff.mp hread
    rw [skipMembers_eq_ok_iff] at hmembers
    have hmembers' : skipMembers members' = .ok () :=
      skipMembers_eq_ok_iff.mpr fun member hmember => hmembers member (h.mem_iff.mpr hmember)
    exact bind_eq_ok_iff.mpr ⟨(), hmembers', hdone⟩
  skipKey hread := by cases hread

end Follows

/-- What can be read from a document can be read from every retelling of it. -/
theorem Rewritten.follows {document document' : Document} (h : document.Rewritten document') :
    Follows document document' := by
  induction h with
  | refl document => exact .refl document
  | trans _ _ ih ih' => exact ih.trans ih'
  | text h => exact .text h
  | item front back ending _ ih => exact ih.item front back ending
  | member front back ending _ _ ihkey ihvalue => exact ihkey.member front back ending ihvalue
  | order ending h => exact .order ending h

end Json.Document

/-- A shape reads what it has written, however the text tells it. -/
theorem Wire.Shape.ofJsonFront_of_isToldBy {α : Type} {shape : Shape α} (h : shape.Distinct)
    {value : α} {text : String} (htold : (shape.toJson value).IsToldBy text) :
    shape.ofJsonFront text = .ok value := by
  rw [Shape.ofJsonFront, Document.readBytes_ofText]
  exact htold.follows.read (shape.ofDocument_toJson h value)

end LearnerPersona
