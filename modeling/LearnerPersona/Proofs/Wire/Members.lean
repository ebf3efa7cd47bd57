import LearnerPersona.Proofs.Json.Reading
import LearnerPersona.Proofs.Wire.Soundness
import LearnerPersona.Wire.Layout

/-!
# Members of an object

A record is read from an object whatever the order of the members.  Members that are no
fields of the record make no difference, wherever they stand, and null says of an optional
field what its absence says.
-/

namespace LearnerPersona

open LearnerPersona.Json LearnerPersona.Wire

namespace Wire

variable {α β φ ρ : Type}

/-! ## Unknown members -/

theorem Fields.readMember_of_not_mem {name : String} {value : Document}
    (hskip : value.skip = .ok ()) : {α φ : Type} → (fields : Fields α φ) → name ∉ fields.keys →
    (seen : φ) → fields.readMember name value seen = .ok seen
  | _, _, .nil, _, _ => bind_eq_ok_iff.mpr ⟨(), flawed_eq_ok_iff.mpr hskip, rfl⟩
  | _, _, .cons key shape presence rest, hname, seen => by
      rw [keys, List.mem_cons, not_or] at hname
      have hrest := rest.readMember_of_not_mem hskip hname.2 seen.2
      exact readMember_cons_eq_ok_iff.mpr (.inr ⟨hname.1, seen.2, hrest, rfl⟩)

theorem Fields.readPair_of_not_mem {fields : Fields α φ} {key value : Document} {name : String}
    (hkey : key.toKey = .ok name) (hname : name ∉ fields.keys) (hskip : value.skip = .ok ())
    (seen : φ) : fields.readPair seen (key, value) = .ok seen :=
  readPair_eq_ok_iff.mpr ⟨name, hkey, fields.readMember_of_not_mem hskip hname seen⟩

/-! ## Null members -/

def Presence.IsOptional : Presence α β → Prop
  | .optional _ => True
  | .required | .defaulted _ => False

/-- The field of the key is optional. -/
def Fields.IsOptional {α φ : Type} : Fields α φ → String → Prop
  | .nil, _ => False
  | .cons key _ presence rest, name =>
      name = key ∧ presence.IsOptional ∨ name ≠ key ∧ rest.IsOptional name

/-- The field of the key is optional and has not been seen. -/
def Fields.Awaits {α φ : Type} : Fields α φ → String → φ → Prop
  | .nil, _, _ => False
  | .cons key _ presence rest, name, seen =>
      name = key ∧ presence.IsOptional ∧ seen.1 = none ∨ name ≠ key ∧ rest.Awaits name seen.2

namespace Fields

private theorem awaits_unseen {name : String} : {α φ : Type} → (fields : Fields α φ) →
    fields.IsOptional name → fields.Awaits name fields.unseen
  | _, _, .cons _ _ _ rest, h => by
      rcases h with ⟨hname, hoptional⟩ | ⟨hname, hrest⟩
      · exact .inl ⟨hname, hoptional, rfl⟩
      · exact .inr ⟨hname, rest.awaits_unseen hrest⟩

/-- The field is still awaited after members with other keys. -/
theorem Awaits.readMember {name other : String} {value : Document} (hother : other ≠ name) :
    {α φ : Type} → (fields : Fields α φ) → {seen after : φ} → fields.Awaits name seen →
    fields.readMember other value seen = .ok after → fields.Awaits name after
  | _, _, .cons key shape presence rest, seen, after, h, hread => by
      rcases readMember_cons_eq_ok_iff.mp hread with
        ⟨hkey, -, present, -, rfl⟩ | ⟨hkey, later, hlater, rfl⟩
      · rcases h with ⟨hname, -⟩ | ⟨hname, hrest⟩
        · exact absurd (hkey.trans hname.symm) hother
        · exact .inr ⟨hname, hrest⟩
      · rcases h with ⟨hname, hoptional, hseen⟩ | ⟨hname, hrest⟩
        · exact .inl ⟨hname, hoptional, hseen⟩
        · exact .inr ⟨hname, Awaits.readMember hother rest hrest hlater⟩

theorem Awaits.foldlM {fields : Fields α φ} {name : String}
    {members : List (Document × Document)} (habsent : ∀ member ∈ members, member.1.toKey ≠ .ok name)
    {seen after : φ} (h : fields.Awaits name seen)
    (hread : members.foldlM fields.readPair seen = .ok after) : fields.Awaits name after := by
  induction members generalizing seen with
  | nil =>
      cases hread
      exact h
  | cons member members ih =>
      rw [List.forall_mem_cons] at habsent
      rw [List.foldlM_cons, bind_eq_ok_iff] at hread
      obtain ⟨middle, hmember, hmembers⟩ := hread
      obtain ⟨other, hkey, hmember⟩ := readPair_eq_ok_iff.mp hmember
      have hother : other ≠ name := by
        rintro rfl
        exact habsent.1 hkey
      exact ih habsent.2 (h.readMember hother fields hmember) hmembers

/-- Null for a field that is awaited is taken, and is the same as nothing. -/
theorem Awaits.readNull {name : String} : {α φ : Type} → (fields : Fields α φ) → {seen : φ} →
    fields.Awaits name seen → ∃ after, fields.readMember name .null seen = .ok after ∧
      fields.complete after = fields.complete seen
  | _, _, .cons key shape presence rest, (seen?, later), h => by
      rcases h with ⟨rfl, hoptional, hseen⟩ | ⟨hname, hrest⟩
      · cases presence with
        | required | defaulted => exact hoptional.elim
        | optional omitted =>
            cases hseen
            exact ⟨(some none, later), readMember_cons_eq_ok_iff.mpr
              (.inl ⟨rfl, rfl, none, rfl, rfl⟩), rfl⟩
      · obtain ⟨after, hread, hcomplete⟩ := Awaits.readNull rest hrest
        refine ⟨(seen?, after), readMember_cons_eq_ok_iff.mpr (.inr ⟨hname, after, hread, rfl⟩), ?_⟩
        simp only [complete, hcomplete]

private theorem run_null {fields : Fields α φ} {key : Document} {name : String}
    {front back : List (Document × Document)} (hkey : key.toKey = .ok name)
    (hoptional : fields.IsOptional name)
    (habsent : ∀ member ∈ front ++ back, member.1.toKey ≠ .ok name) {values : α} :
    (∃ seen, (front ++ (key, .null) :: back).foldlM fields.readPair fields.unseen = .ok seen ∧
        fields.complete seen = .ok values) ↔
      ∃ seen, (front ++ back).foldlM fields.readPair fields.unseen = .ok seen ∧
        fields.complete seen = .ok values := by
  have hlast : (front ++ (key, .null) :: back).Perm (front ++ back ++ [(key, .null)]) :=
    List.perm_middle.trans (List.perm_append_singleton _ _).symm
  have hnull {middle : φ} (hmembers : (front ++ back).foldlM fields.readPair fields.unseen =
      .ok middle) : ∃ after, fields.readPair middle (key, .null) = .ok after ∧
        fields.complete after = fields.complete middle := by
    have hawaits := (fields.awaits_unseen hoptional).foldlM habsent hmembers
    obtain ⟨after, hread, hcomplete⟩ := hawaits.readNull fields
    exact ⟨after, readPair_eq_ok_iff.mpr ⟨name, hkey, hread⟩, hcomplete⟩
  constructor
  · rintro ⟨seen, hmembers, hvalues⟩
    have hmembers' := foldlM_perm hlast hmembers
    rw [List.foldlM_append, bind_eq_ok_iff] at hmembers'
    obtain ⟨middle, hmiddle, hlast'⟩ := hmembers'
    obtain ⟨_, hread', hseen⟩ := bind_eq_ok_iff.mp hlast'
    obtain ⟨after, hread, hcomplete⟩ := hnull hmiddle
    cases hread.symm.trans hread'
    cases hseen
    exact ⟨middle, hmiddle, hcomplete.symm.trans hvalues⟩
  · rintro ⟨middle, hmiddle, hvalues⟩
    obtain ⟨after, hread, hcomplete⟩ := hnull hmiddle
    refine ⟨after, foldlM_perm hlast.symm ?_, hcomplete.trans hvalues⟩
    rw [List.foldlM_append, bind_eq_ok_iff]
    exact ⟨middle, hmiddle, bind_eq_ok_iff.mpr ⟨after, hread, rfl⟩⟩

end Fields

/-! ## Lenient readers -/

/-- Read as a whole, the texts yield the same value, or neither yields one; and likewise when
they are read at the front. -/
def SameRead (ofJson : String → Except Fault ρ) (ofJsonFront : Text.Bytes → Except Fault ρ)
    (text text' : String) : Prop :=
  ∀ value, (ofJson text = .ok value ↔ ofJson text' = .ok value) ∧
    (ofJsonFront text = .ok value ↔ ofJsonFront text' = .ok value)

/-- What makes no difference to texts that are one object: the order of its members, a
member that stands for none of the keys and is passed over, and null for an optional key
that no other member has. -/
structure Lenient (SameRead : String → String → Prop) (keys optional : List String)
    (PassedOver : Document → Prop) : Prop where
  order {members members' : List (Document × Document)} {text text' : String}
    (horder : members.Perm members')
    (htext : (Document.object members .closed).SpelledBy text)
    (htext' : (Document.object members' .closed).SpelledBy text') : SameRead text text'
  unknown {front back : List (Document × Document)} {key value : Document} {name : String}
    {text text' : String} (hkey : key.toKey = .ok name) (hname : name ∉ keys)
    (hvalue : PassedOver value)
    (htext : (Document.object (front ++ back) .closed).SpelledBy text)
    (htext' : (Document.object (front ++ (key, value) :: back) .closed).SpelledBy text') :
    SameRead text text'
  null {front back : List (Document × Document)} {key : Document} {name : String}
    {text text' : String} (hkey : key.toKey = .ok name) (hname : name ∈ optional)
    (habsent : ∀ member ∈ front ++ back, member.1.toKey ≠ .ok name)
    (htext : (Document.object (front ++ back) .closed).SpelledBy text)
    (htext' : (Document.object (front ++ (key, .null) :: back) .closed).SpelledBy text') :
    SameRead text text'

theorem whole_of_spelledBy {document : Document} {text : String} (h : document.SpelledBy text)
    (read : Document → Except Fault ρ) :
    (do
      let (document, rest) := Document.read text
      let value ← read document
      if (skipBlanks rest).isEmpty then return value else throw (.flawed .malformed)) =
        read document := by
  obtain ⟨blanks, hread, hblanks⟩ := Document.read_of_spelledBy h
  simp only [hread, skipBlanks_of_blank hblanks, List.isEmpty_nil, if_true]
  exact bind_pure _

private theorem front_of_spelledBy {document : Document} {text : String}
    (h : document.SpelledBy text) (read : Document → Except Fault ρ) :
    read (Document.readBytes text).1 = read document := by
  obtain ⟨blanks, hread, -⟩ := Document.read_of_spelledBy h
  rw [Document.readBytes_ofText, hread]

theorem sameRead_of_spelledBy {read : Document → Except Fault ρ}
    {ofJson : String → Except Fault ρ} {ofJsonFront : Text.Bytes → Except Fault ρ}
    {document document' : Document} {text text' : String}
    (hwhole : ∀ {document text}, document.SpelledBy text → ofJson text = read document)
    (hfront : ∀ {document} {text : String}, document.SpelledBy text →
      ofJsonFront text = read document)
    (h : document.SpelledBy text) (h' : document'.SpelledBy text')
    (hsame : ∀ value, read document = .ok value ↔ read document' = .ok value) :
    SameRead ofJson ofJsonFront text text' := by
  intro value
  rw [hwhole h, hwhole h', hfront h, hfront h']
  exact ⟨hsame value, hsame value⟩

private theorem skip_of_spelledBy {front back : List (Document × Document)} {key value : Document}
    {text : String}
    (h : (Document.object (front ++ (key, value) :: back) .closed).SpelledBy text) :
    value.skip = .ok () := by
  obtain ⟨⟨⟩, hmembers, -⟩ := bind_eq_ok_iff.mp h.skip
  exact (Document.skipMembers_eq_ok_iff.mp hmembers (key, value) (by simp)).2

namespace Shape

variable {α φ ρ : Type}

def keys {α : Type} : Shape α → List String
  | .record _ fields _ _ _ => fields.keys
  | .text | .word | .choice _ | .list _ => []

def SameRead (shape : Shape α) : String → String → Prop :=
  Wire.SameRead shape.ofJson shape.ofJsonFront

/-- A record passes over all values. -/
def Lenient (shape : Shape α) (optional : List String) : Prop :=
  Wire.Lenient shape.SameRead shape.keys optional fun _ => True

theorem sameRead_of_spelledBy {shape : Shape α} {document document' : Document}
    {text text' : String} (h : document.SpelledBy text) (h' : document'.SpelledBy text')
    (hsame : ∀ value, shape.ofDocument document = .ok value ↔
      shape.ofDocument document' = .ok value) : shape.SameRead text text' :=
  Wire.sameRead_of_spelledBy (fun h => whole_of_spelledBy h _) (fun h => front_of_spelledBy h _)
    h h' hsame

variable {name : String} {fields : Fields α φ} {build : α → ρ} {parts : ρ → α}
  {build_parts : ∀ record, build (parts record) = record}

private theorem record_unknown {front back : List (Document × Document)} {key value : Document}
    {other : String} {record : ρ} (hkey : key.toKey = .ok other) (hname : other ∉ fields.keys)
    (hskip : value.skip = .ok ()) :
    (Shape.record name fields build parts build_parts).ofDocument
        (.object (front ++ back) .closed) = .ok record ↔
      (Shape.record name fields build parts build_parts).ofDocument
        (.object (front ++ (key, value) :: back) .closed) = .ok record := by
  rw [record_object_eq_ok_iff, record_object_eq_ok_iff,
    foldlM_insert (Fields.readPair_of_not_mem hkey hname hskip)]

private theorem record_null {front back : List (Document × Document)} {key : Document}
    {field : String} {record : ρ} (hkey : key.toKey = .ok field)
    (hoptional : fields.IsOptional field)
    (habsent : ∀ member ∈ front ++ back, member.1.toKey ≠ .ok field) :
    (Shape.record name fields build parts build_parts).ofDocument
        (.object (front ++ back) .closed) = .ok record ↔
      (Shape.record name fields build parts build_parts).ofDocument
        (.object (front ++ (key, .null) :: back) .closed) = .ok record := by
  rw [record_object_eq_ok_iff, record_object_eq_ok_iff]
  constructor
  · rintro ⟨seen, values, hmembers, hending, hvalues, hrecord⟩
    obtain ⟨seen', hmembers', hvalues'⟩ :=
      (Fields.run_null hkey hoptional habsent).mpr ⟨seen, hmembers, hvalues⟩
    exact ⟨seen', values, hmembers', hending, hvalues', hrecord⟩
  · rintro ⟨seen, values, hmembers, hending, hvalues, hrecord⟩
    obtain ⟨seen', hmembers', hvalues'⟩ :=
      (Fields.run_null hkey hoptional habsent).mp ⟨seen, hmembers, hvalues⟩
    exact ⟨seen', values, hmembers', hending, hvalues', hrecord⟩

theorem order {α : Type} {shape : Shape α} {members members' : List (Document × Document)}
    {value : α} (h : members.Perm members') :
    shape.ofDocument (.object members .closed) = .ok value ↔
      shape.ofDocument (.object members' .closed) = .ok value :=
  ⟨(Document.Follows.order .closed h).read, (Document.Follows.order .closed h.symm).read⟩

theorem record_lenient {optional : List String}
    (hoptional : ∀ key ∈ optional, fields.IsOptional key) :
    (Shape.record name fields build parts build_parts).Lenient optional where
  order horder htext htext' := sameRead_of_spelledBy htext htext' fun _ => order horder
  unknown hkey hname _ htext htext' :=
    sameRead_of_spelledBy htext htext' fun _ =>
      record_unknown hkey hname (skip_of_spelledBy htext')
  null hkey hname habsent htext htext' :=
    sameRead_of_spelledBy htext htext' fun _ => record_null hkey (hoptional _ hname) habsent

end Shape

namespace Merged

/-- The document denotes a value and is nested no deeper than allowed: its numbers are in
range, and its surrogates come in pairs. -/
inductive Denotes : Nat → Document → Prop
  | null (depth : Nat) : Denotes depth .null
  | boolean (depth : Nat) (value : Bool) : Denotes depth (.boolean value)
  | number (depth : Nat) {numeral : Numeral} {value : Number} (h : numeral.value = .ok value) :
      Denotes depth (.number numeral)
  | string (depth : Nat) {units : List TextUnit} {chars : List Char}
      (h : joinUnits units .closed = .ok chars) : Denotes depth (.string units .closed)
  | array {depth : Nat} {items : List Document} (h : ∀ item ∈ items, Denotes depth item) :
      Denotes (depth + 1) (.array items .closed)
  | object {depth : Nat} {members : List (Document × Document)}
      (hkeys : ∀ member ∈ members, ∃ text, member.1.toKey = .ok text)
      (hvalues : ∀ member ∈ members, Denotes depth member.2) :
      Denotes (depth + 1) (.object members .closed)

theorem Denotes.keep {depth : Nat} {document : Document} (h : Denotes depth document) :
    Merged.keep depth document = .ok () := by
  induction h with
  | null depth | boolean depth => rw [Merged.keep]
  | number depth h | string depth h =>
      rw [Merged.keep]
      exact map_eq_ok_iff.mpr ⟨_, h, rfl⟩
  | array _ ih =>
      rw [Merged.keep]
      exact bind_eq_ok_iff.mpr ⟨(), forM_eq_ok_iff.mpr ih, rfl⟩
  | object hkeys _ ih =>
      rw [Merged.keep]
      refine bind_eq_ok_iff.mpr ⟨(), forM_eq_ok_iff.mpr fun member hmember => ?_, rfl⟩
      obtain ⟨text, htext⟩ := hkeys member hmember
      exact bind_eq_ok_iff.mpr ⟨text, htext, ih member hmember⟩

variable {ρ : Type} {merged : Merged ρ}

def keys (merged : Merged ρ) : List String := merged.inner.keys ++ merged.outer.keys

def SameRead (merged : Merged ρ) : String → String → Prop :=
  Wire.SameRead merged.ofJson merged.ofJsonFront

/-- A merged record passes over what it can keep. -/
def Lenient (merged : Merged ρ) (optional : List String) : Prop :=
  Wire.Lenient merged.SameRead merged.keys optional (Denotes greatestDepth)

theorem sameRead_of_spelledBy {document document' : Document} {text text' : String}
    (h : document.SpelledBy text) (h' : document'.SpelledBy text')
    (hsame : ∀ value, merged.ofDocument document = .ok value ↔
      merged.ofDocument document' = .ok value) : merged.SameRead text text' :=
  Wire.sameRead_of_spelledBy (fun h => whole_of_spelledBy h _) (fun h => front_of_spelledBy h _)
    h h' hsame

theorem readPair_comm {seen middle after : merged.OuterSeen}
    {first second : Document × Document} (hfirst : merged.readPair seen first = .ok middle)
    (hsecond : merged.readPair middle second = .ok after) :
    ∃ middle', merged.readPair seen second = .ok middle' ∧
      merged.readPair middle' first = .ok after := by
  simp only [readPair_eq_ok_iff] at hfirst hsecond ⊢
  obtain ⟨text, hkey, hfirst⟩ := hfirst
  obtain ⟨text', hkey', hsecond⟩ := hsecond
  rcases hfirst with ⟨howns, hread⟩ | ⟨howns, hkeep, rfl⟩
  · rcases hsecond with ⟨howns', hread'⟩ | ⟨howns', hkeep', rfl⟩
    · obtain ⟨middle', hsecond, hfirst⟩ := merged.outer.readMember_comm hread hread'
      exact ⟨middle', ⟨text', hkey', .inl ⟨howns', hsecond⟩⟩, text, hkey, .inl ⟨howns, hfirst⟩⟩
    · exact ⟨seen, ⟨text', hkey', .inr ⟨howns', hkeep', rfl⟩⟩, text, hkey, .inl ⟨howns, hread⟩⟩
  · exact ⟨after, ⟨text', hkey', hsecond⟩, text, hkey, .inr ⟨howns, hkeep, rfl⟩⟩

/-- The inner record is read from what is kept, and its order makes no difference, either. -/
theorem ofDocument_perm {members members' : List (Document × Document)} {record : ρ}
    (horder : members.Perm members')
    (h : merged.ofDocument (.object members .closed) = .ok record) :
    merged.ofDocument (.object members' .closed) = .ok record := by
  rw [object_eq_ok_iff] at h ⊢
  obtain ⟨seen, outer, inner, hmembers, hending, houter, hinner, hrecord⟩ := h
  refine ⟨seen, outer, inner, ?_, hending, houter, ?_, hrecord⟩
  · refine foldlM_eq_ok_of_perm (fun hfirst hsecond => ?_) horder hmembers
    exact readPair_comm hfirst hsecond
  · exact (Shape.order (horder.filter _)).mp hinner

theorem ofDocument_unknown {front back : List (Document × Document)} {key value : Document}
    {name : String} {record : ρ} (hkey : key.toKey = .ok name) (hname : name ∉ merged.keys)
    (hkeep : keep greatestDepth value = .ok ()) :
    merged.ofDocument (.object (front ++ back) .closed) = .ok record ↔
      merged.ofDocument (.object (front ++ (key, value) :: back) .closed) = .ok record := by
  rw [keys, List.mem_append, not_or] at hname
  have howns : merged.owns key = false := by
    simp [owns, hkey, hname.2]
  have hstep (seen : merged.OuterSeen) : merged.readPair seen (key, value) = .ok seen :=
    readPair_eq_ok_iff.mpr ⟨name, hkey, .inr ⟨howns, hkeep, rfl⟩⟩
  have hkept (inner : merged.Inner) :
      merged.innerShape.ofDocument (.object (merged.kept (front ++ back)) .closed) = .ok inner ↔
        merged.innerShape.ofDocument
          (.object (merged.kept (front ++ (key, value) :: back)) .closed) = .ok inner := by
    simp only [kept, List.filter_append, List.filter_cons, howns, Bool.not_false, if_true]
    exact Shape.record_unknown hkey hname.1 (skip_of_keep greatestDepth value hkeep)
  simp only [object_eq_ok_iff, foldlM_insert hstep, hkept]

theorem lenient : merged.Lenient [] where
  order horder htext htext' :=
    sameRead_of_spelledBy htext htext' fun _ =>
      ⟨ofDocument_perm horder, ofDocument_perm horder.symm⟩
  unknown hkey hname hvalue htext htext' :=
    sameRead_of_spelledBy htext htext' fun _ => ofDocument_unknown hkey hname hvalue.keep
  null _ hname := absurd hname List.not_mem_nil

end Merged

end Wire

/-! ## The records of the library -/

/-- Objects are read leniently: by the records with optional fields as by those without, and
by the one that keeps members until it has been read. -/
theorem layout_lenient :
    Profile.shape.Lenient ["name", "archetypeId"] ∧
    Knowledge.shape.Lenient ["curriculumContext"] ∧
    Cognition.shape.Lenient [] ∧ Motivation.shape.Lenient [] ∧ Communication.shape.Lenient [] ∧
    ProfilePatch.shape.Lenient ProfilePatch.shape.keys ∧
    KnowledgePatch.shape.Lenient KnowledgePatch.shape.keys ∧
    CognitionPatch.shape.Lenient CognitionPatch.shape.keys ∧
    MotivationPatch.shape.Lenient MotivationPatch.shape.keys ∧
    CommunicationPatch.shape.Lenient CommunicationPatch.shape.keys ∧
    PersonaRequest.shape.Lenient ["profile"] ∧
    Persona.shape.Lenient [] ∧ Sections.shape.Lenient [] ∧
    ChatMessage.shape.Lenient [] ∧ Chat.shape.Lenient [] ∧
    GenerationRequest.shape.Lenient [] ∧ Utterance.shape.Lenient [] ∧
    Cast.shape.Lenient [] ∧ Simulation.shape.Lenient [] := by
  refine ⟨Shape.record_lenient ?_, Shape.record_lenient ?_, Shape.record_lenient ?_,
    Shape.record_lenient ?_, Shape.record_lenient ?_, Shape.record_lenient ?_,
    Shape.record_lenient ?_, Shape.record_lenient ?_, Shape.record_lenient ?_,
    Shape.record_lenient ?_, Shape.record_lenient ?_, Shape.record_lenient ?_,
    Shape.record_lenient ?_, Shape.record_lenient ?_, Shape.record_lenient ?_,
    Shape.record_lenient ?_, Shape.record_lenient ?_, Shape.record_lenient ?_, Merged.lenient⟩
  -- What is left is that the fields named are optional.
  all_goals
    simp [Shape.keys, Fields.keys, Fields.IsOptional, Presence.IsOptional, ProfilePatch.shape,
      KnowledgePatch.shape, CognitionPatch.shape, MotivationPatch.shape, CommunicationPatch.shape]

end LearnerPersona
