import LearnerPersona.Proofs.Wire.Rewriting
import LearnerPersona.Proofs.Success

/-!
# Only whole documents are read

A reader that yields a value has been through all of the document.  So the document has
no fault anywhere, neither in what has been read nor in what has been skipped or kept.
-/

namespace LearnerPersona

open LearnerPersona.Wire

namespace Json

namespace Document

/-! ## Scalars and lists -/

variable {α : Type}

theorem mismatch_ne_ok {document : Document} {expected : Expected} {value : α} :
    document.mismatch expected ≠ .ok value := by
  intro h
  obtain ⟨found, -, h⟩ := bind_eq_ok_iff.mp h
  cases h

private theorem ending_of_joinUnits {units : List TextUnit} {ending : Ending} {chars : List Char}
    (h : joinUnits units ending = .ok chars) : ending.check = .ok () := by
  fun_induction joinUnits units ending generalizing chars with
  | case1 => rfl
  | case2 | case6 | case7 | case8 => cases h
  | case3 char units ending ih =>
      obtain ⟨rest, hrest, -⟩ := map_eq_ok_iff.mp h
      exact ih hrest
  | case4 byte units ending ih =>
      obtain ⟨rest, hrest, -⟩ := bind_eq_ok_iff.mp h
      exact ih hrest
  | case5 high low units ending ih =>
      obtain ⟨rest, hrest, -⟩ := map_eq_ok_iff.mp h
      exact ih hrest

private theorem skip_of_toText {expected : Expected} {document : Document} {text : String}
    (h : document.toText expected = .ok text) : document.skip = .ok () := by
  cases document with
  | string units ending =>
      obtain ⟨chars, hchars, -⟩ := map_eq_ok_iff.mp (flawed_eq_ok_iff.mp h)
      exact ending_of_joinUnits hchars
  | null | boolean | number | array | object | broken | missing => exact (mismatch_ne_ok h).elim

private theorem skipKey_of_toKey {key : Document} {text : String} (h : key.toKey = .ok text) :
    skipKey key = .ok () := by
  cases key with
  | string units ending =>
      obtain ⟨chars, hchars, -⟩ := map_eq_ok_iff.mp h
      exact ending_of_joinUnits hchars
  | null | boolean | number | array | object | broken | missing => cases h

private theorem skip_of_toWord {document : Document} {value : UInt32}
    (h : document.toWord = .ok value) :
    document.skip = .ok () := by
  obtain ⟨found, hfound, h⟩ := bind_eq_ok_iff.mp h
  rw [flawed_eq_ok_iff] at hfound
  cases document with
  | number => rfl
  | string units ending =>
      obtain ⟨chars, -, rfl⟩ := map_eq_ok_iff.mp hfound
      cases h
  | null | boolean | array | object =>
      cases hfound
      cases h
  | broken | missing => cases hfound

private theorem skip_of_toUnit {document : Document} (h : document.toUnit = .ok ()) :
    document.skip = .ok () := by
  cases document with
  | null => rfl
  | boolean | number | string | array | object | broken | missing => exact (mismatch_ne_ok h).elim

private theorem skip_of_toCase {named : Named α} {document : Document} {case : α}
    (h : document.toCase named = .ok case) : document.skip = .ok () := by
  cases document with
  | string units ending =>
      obtain ⟨text, htext, -⟩ := bind_eq_ok_iff.mp h
      obtain ⟨chars, hchars, -⟩ := map_eq_ok_iff.mp (flawed_eq_ok_iff.mp htext)
      exact ending_of_joinUnits hchars
  | object members ending =>
      obtain ⟨key, value, text, rfl, hkey, -, hvalue, hending⟩ := toCase_object_eq_ok_iff.mp h
      have hmembers : skipMembers [(key, value)] = .ok () :=
        skipMembers_eq_ok_iff.mpr (by simpa using ⟨skipKey_of_toKey hkey, skip_of_toUnit hvalue⟩)
      exact bind_eq_ok_iff.mpr ⟨(), hmembers, hending⟩
  | null | boolean | number | array | broken | missing => cases h

private theorem skipItems_of_toItems {read : Document → Except Fault α}
    (hread : ∀ {item value}, read item = .ok value → item.skip = .ok ()) {position : Nat}
    {items : List Document} {values : List α} (h : toItems read position items = .ok values) :
    skipItems items = .ok () := by
  induction items generalizing position values with
  | nil => rfl
  | cons item items ih =>
      obtain ⟨value, hvalue, h⟩ := bind_eq_ok_iff.mp h
      obtain ⟨others, hothers, -⟩ := bind_eq_ok_iff.mp h
      exact bind_eq_ok_iff.mpr ⟨(), hread (mapError_eq_ok_iff.mp hvalue), ih hothers⟩

end Document

private theorem skip_of_presentField {α β : Type} {read : Document → Except Fault α}
    (hread : ∀ {document value}, read document = .ok value → document.skip = .ok ())
    (presence : Presence α β) {document : Document} {value : β}
    (h : presentField read presence document = .ok value) : document.skip = .ok () := by
  cases presence with
  | required => exact hread h
  | defaulted default => exact hread h
  | optional omitted =>
      by_cases hpresent : document.IsPresent
      · rw [presentField_eq_map omitted hpresent] at h
        obtain ⟨inner, hinner, -⟩ := map_eq_ok_iff.mp h
        exact hread hinner
      · unfold Document.IsPresent at hpresent
        split at hpresent
        next => rfl
        next => cases h
        next => exact absurd trivial hpresent

end Json

open LearnerPersona.Json

/-! ## Shapes -/

namespace Wire

mutual

theorem Shape.skip_of_ofDocument {α : Type} : (shape : Shape α) → {document : Document} →
    {value : α} → shape.ofDocument document = .ok value → document.skip = .ok ()
  | .text, _, _, h => Document.skip_of_toText h
  | .word, _, _, h => Document.skip_of_toWord h
  | .choice _, _, _, h => Document.skip_of_toCase h
  | .list item, .array items ending, _, h => by
      obtain ⟨values, hvalues, h⟩ := bind_eq_ok_iff.mp h
      obtain ⟨⟨⟩, hending, -⟩ := bind_eq_ok_iff.mp h
      have hitems := Document.skipItems_of_toItems item.skip_of_ofDocument hvalues
      exact bind_eq_ok_iff.mpr ⟨(), hitems, flawed_eq_ok_iff.mp hending⟩
  | .list _, .null, _, h | .list _, .boolean _, _, h | .list _, .number _, _, h
  | .list _, .string _ _, _, h | .list _, .object _ _, _, h | .list _, .broken _ _, _, h
  | .list _, .missing, _, h => (Document.mismatch_ne_ok h).elim
  | .record _ fields _ _ _, .object members ending, _, h => by
      obtain ⟨seen, values, hmembers, hending, -⟩ := Shape.record_object_eq_ok_iff.mp h
      refine bind_eq_ok_iff.mpr
        ⟨(), Document.skipMembers_eq_ok_iff.mpr (forall_of_foldlM ?_ hmembers), hending⟩
      intro _ _ member hmember
      obtain ⟨text, hkey, hvalue⟩ := Fields.readPair_eq_ok_iff.mp hmember
      exact ⟨Document.skipKey_of_toKey hkey, fields.skip_of_readMember hvalue⟩
  | .record _ fields _ _ _, .array items ending, _, h => by
      obtain ⟨values, hvalues, -⟩ := map_eq_ok_iff.mp h
      obtain ⟨hitems, hending⟩ := fields.skip_of_ofItems hvalues
      exact bind_eq_ok_iff.mpr ⟨(), hitems, hending⟩
  | .record _ _ _ _ _, .null, _, h | .record _ _ _ _ _, .boolean _, _, h
  | .record _ _ _ _ _, .number _, _, h | .record _ _ _ _ _, .string _ _, _, h
  | .record _ _ _ _ _, .broken _ _, _, h | .record _ _ _ _ _, .missing, _, h =>
      (Document.mismatch_ne_ok h).elim

theorem Fields.skip_of_readMember {α φ : Type} : (fields : Fields α φ) → {name : String} →
    {value : Document} → {seen after : φ} →
    fields.readMember name value seen = .ok after → value.skip = .ok ()
  | .nil, _, _, _, _, h => by
      obtain ⟨⟨⟩, hskip, -⟩ := bind_eq_ok_iff.mp h
      exact flawed_eq_ok_iff.mp hskip
  | .cons _ shape presence rest, _, _, _, _, h => by
      rcases Fields.readMember_cons_eq_ok_iff.mp h with ⟨-, -, _, hpresent, -⟩ | ⟨-, _, hlater, -⟩
      · exact skip_of_presentField shape.skip_of_ofDocument presence hpresent
      · exact rest.skip_of_readMember hlater

theorem Fields.skip_of_ofItems {α φ : Type} : (fields : Fields α φ) → {name : String} →
    {count position : Nat} → {items : List Document} → {ending : Ending} → {values : α} →
    fields.ofItems name count position items ending = .ok values →
    Document.skipItems items = .ok () ∧ ending.check = .ok ()
  | .nil, _, _, _, [], _, _, h => ⟨rfl, flawed_eq_ok_iff.mp h⟩
  | .nil, _, _, _, _ :: _, _, _, h => by cases h
  | .cons _ _ presence rest, _, _, _, [], _, _, h => by
      obtain ⟨⟨⟩, hending, -⟩ := bind_eq_ok_iff.mp h
      exact ⟨rfl, flawed_eq_ok_iff.mp hending⟩
  | .cons _ shape presence rest, _, _, _, item :: items, _, _, h => by
      obtain ⟨value, hvalue, h⟩ := bind_eq_ok_iff.mp h
      obtain ⟨others, hothers, -⟩ := map_eq_ok_iff.mp h
      obtain ⟨hitems, hending⟩ := rest.skip_of_ofItems hothers
      have hitem := skip_of_presentField shape.skip_of_ofDocument presence
        (mapError_eq_ok_iff.mp hvalue)
      exact ⟨bind_eq_ok_iff.mpr ⟨(), hitem, hitems⟩, hending⟩

end

theorem Shape.isStructured_of_record {α φ ρ : Type} {name : String} {fields : Fields α φ}
    {build : α → ρ} {parts : ρ → α} {build_parts : ∀ record, build (parts record) = record}
    {document : Document} {record : ρ}
    (h : (Shape.record name fields build parts build_parts).ofDocument document = .ok record) :
    document.IsStructured := by
  cases document with
  | array | object => trivial
  | null | boolean | number | string | broken | missing => exact (Document.mismatch_ne_ok h).elim

/-! ## Merged records -/

namespace Merged

/-- A value that can be kept can be skipped. -/
theorem skip_of_keep : (depth : Nat) → (document : Document) → keep depth document = .ok () →
    document.skip = .ok ()
  | _, .null, _ | _, .boolean _, _ | _, .number _, _ => rfl
  | _, .string units ending, h => by
      rw [keep] at h
      obtain ⟨chars, hchars, -⟩ := map_eq_ok_iff.mp h
      exact Document.ending_of_joinUnits hchars
  | depth, .array items ending, h => by
      cases depth with
      | zero => cases h
      | succ depth =>
          obtain ⟨⟨⟩, hitems, hending⟩ := bind_eq_ok_iff.mp h
          refine bind_eq_ok_iff.mpr
            ⟨(), Document.skipItems_eq_ok_iff.mpr fun item hitem => ?_, hending⟩
          exact skip_of_keep depth item (forM_eq_ok_iff.mp hitems item hitem)
  | depth, .object members ending, h => by
      cases depth with
      | zero => cases h
      | succ depth =>
          obtain ⟨⟨⟩, hmembers, hending⟩ := bind_eq_ok_iff.mp h
          refine bind_eq_ok_iff.mpr
            ⟨(), Document.skipMembers_eq_ok_iff.mpr fun member hmember => ?_, hending⟩
          obtain ⟨text, hkey, hvalue⟩ :=
            bind_eq_ok_iff.mp (forM_eq_ok_iff.mp hmembers member hmember)
          exact ⟨Document.skipKey_of_toKey hkey, skip_of_keep depth member.2 hvalue⟩
  | _, .broken _ _, h | _, .missing, h => by
      rw [keep] at h
      cases h

variable {ρ : Type} {merged : Merged ρ}

def readPair (merged : Merged ρ) (seen : merged.OuterSeen) (member : Document × Document) :
    Except Fault merged.OuterSeen := do
  let text ← flawed member.1.toKey
  if merged.owns member.1 then merged.outer.readMember text member.2 seen
  else do
    flawed (keep greatestDepth member.2)
    return seen

theorem readPair_eq_ok_iff {seen after : merged.OuterSeen} {member : Document × Document} :
    merged.readPair seen member = .ok after ↔
      ∃ text, member.1.toKey = .ok text ∧
        (merged.owns member.1 = true ∧ merged.outer.readMember text member.2 seen = .ok after ∨
          merged.owns member.1 = false ∧ keep greatestDepth member.2 = .ok () ∧ seen = after) := by
  simp only [readPair, bind_eq_ok_iff, flawed_eq_ok_iff]
  refine exists_congr fun text => and_congr_right fun _ => ?_
  cases howns : merged.owns member.1
  · simp [bind_eq_ok_iff, flawed_eq_ok_iff, Unique.exists_iff, pure, Except.pure]
  · simp

def kept (merged : Merged ρ) (members : List (Document × Document)) :
    List (Document × Document) :=
  members.filter fun member => !merged.owns member.1

theorem object_eq_ok_iff {members : List (Document × Document)} {ending : Ending} {record : ρ} :
    merged.ofDocument (.object members ending) = .ok record ↔
      ∃ seen outer inner, members.foldlM merged.readPair merged.outer.unseen = .ok seen ∧
        ending.check = .ok () ∧ merged.outer.complete seen = .ok outer ∧
        merged.innerShape.ofDocument (.object (merged.kept members) .closed) = .ok inner ∧
        merged.build (inner, outer) = record := by
  simp only [ofDocument, bind_eq_ok_iff, flawed_eq_ok_iff, mapError_eq_ok_iff, pure, Except.pure,
    Except.ok.injEq, Unique.exists_iff, exists_and_left]
  rfl

theorem skip_of_ofDocument {document : Document} {record : ρ}
    (h : merged.ofDocument document = .ok record) : document.skip = .ok () := by
  cases document with
  | object members ending =>
      obtain ⟨seen, _, _, hmembers, hending, -⟩ := object_eq_ok_iff.mp h
      refine bind_eq_ok_iff.mpr
        ⟨(), Document.skipMembers_eq_ok_iff.mpr (forall_of_foldlM ?_ hmembers), hending⟩
      intro _ _ member hmember
      obtain ⟨text, hkey, ⟨-, hvalue⟩ | ⟨-, hvalue, -⟩⟩ := readPair_eq_ok_iff.mp hmember
      · exact ⟨Document.skipKey_of_toKey hkey, merged.outer.skip_of_readMember hvalue⟩
      · exact ⟨Document.skipKey_of_toKey hkey, skip_of_keep _ _ hvalue⟩
  | null | boolean | number | string | array | broken | missing =>
      exact (Document.mismatch_ne_ok h).elim

theorem isStructured_of_ofDocument {document : Document} {record : ρ}
    (h : merged.ofDocument document = .ok record) : document.IsStructured := by
  cases document with
  | array | object => trivial
  | null | boolean | number | string | broken | missing => exact (Document.mismatch_ne_ok h).elim

end Merged

end Wire

end LearnerPersona
