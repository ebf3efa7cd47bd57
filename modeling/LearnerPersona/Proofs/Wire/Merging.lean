import LearnerPersona.Proofs.Wire.Layout
import LearnerPersona.Proofs.Wire.Members

/-!
# Merged records and their parts

A merged record is read from an object exactly if its inner and its outer record are read
from the same object, each passing over the members of the other, and all that the outer
record does not own can be kept.  So a simulation agrees with the cast and the transcript
that stand in one object.
-/

namespace LearnerPersona

open LearnerPersona.Json LearnerPersona.Wire

namespace Wire

/-! ## Members that are passed over -/

/-- The member has a key that is none of the keys, and nothing is wrong with its value. -/
def PassedOver (keys : List String) (member : Document × Document) : Prop :=
  ∃ name, member.1.toKey = .ok name ∧ name ∉ keys ∧ member.2.skip = .ok ()

variable {α φ ρ : Type}

private theorem Fields.readPair_of_passedOver {fields : Fields α φ} {member : Document × Document}
    (h : PassedOver fields.keys member) (seen : φ) : fields.readPair seen member = .ok seen := by
  obtain ⟨name, hkey, hname, hskip⟩ := h
  exact readPair_of_not_mem hkey hname hskip seen

private theorem Fields.foldlM_of_passedOver {fields : Fields α φ}
    {members : List (Document × Document)} (h : ∀ member ∈ members, PassedOver fields.keys member)
    (seen : φ) :
    members.foldlM fields.readPair seen = .ok seen := by
  induction members with
  | nil => rfl
  | cons member members ih =>
      rw [List.forall_mem_cons] at h
      rw [List.foldlM_cons, readPair_of_passedOver h.1]
      exact ih h.2

private theorem Fields.foldlM_of_only {fields : Fields α φ}
    {front back : List (Document × Document)} {member : Document × Document}
    (h : ∀ other ∈ front ++ back, PassedOver fields.keys other) (seen : φ) :
    (front ++ member :: back).foldlM fields.readPair seen = fields.readPair seen member := by
  rw [List.forall_mem_append] at h
  rw [List.foldlM_append, foldlM_of_passedOver h.1]
  change (member :: back).foldlM fields.readPair seen = _
  simp only [List.foldlM_cons, foldlM_of_passedOver h.2]
  exact bind_pure _

private theorem Fields.foldlM_filter {fields : Fields α φ} {keeps : Document × Document → Bool}
    {members : List (Document × Document)}
    (h : ∀ member ∈ members, keeps member = false → PassedOver fields.keys member) (seen : φ) :
    (members.filter keeps).foldlM fields.readPair seen =
      members.foldlM fields.readPair seen := by
  induction members generalizing seen with
  | nil => rfl
  | cons member members ih =>
      rw [List.forall_mem_cons] at h
      rw [List.filter_cons, List.foldlM_cons]
      split
      next =>
        rw [List.foldlM_cons]
        exact bind_congr fun after => ih h.2 after
      next hkeeps =>
        rw [readPair_of_passedOver (h.1 (Bool.eq_false_iff.mpr hkeeps))]
        exact ih h.2 seen

/-! ## Both parts of a merged record -/

namespace Merged

variable {merged : Merged ρ}

def outerShape (merged : Merged ρ) : Shape merged.Outer :=
  .record merged.name merged.outer id id fun _ => rfl

private theorem owns_eq_true_iff {key : Document} {name : String} (hkey : key.toKey = .ok name) :
    merged.owns key = true ↔ name ∈ merged.outer.keys := by
  simp [owns, hkey]

private theorem owns_eq_false_iff {key : Document} {name : String} (hkey : key.toKey = .ok name) :
    merged.owns key = false ↔ name ∉ merged.outer.keys := by
  rw [← owns_eq_true_iff hkey, Bool.not_eq_true]

/-- Every member that the outer record does not own can be kept. -/
def Keeps (merged : Merged ρ) (members : List (Document × Document)) : Prop :=
  ∀ member ∈ members, merged.owns member.1 = false → keep greatestDepth member.2 = .ok ()

private theorem readPair_eq_ok_iff_outer {seen after : merged.OuterSeen}
    {member : Document × Document} :
    merged.readPair seen member = .ok after ↔
      merged.outer.readPair seen member = .ok after ∧
        (merged.owns member.1 = false → keep greatestDepth member.2 = .ok ()) := by
  rw [readPair_eq_ok_iff, Fields.readPair_eq_ok_iff]
  constructor
  · rintro ⟨name, hkey, ⟨howns, hread⟩ | ⟨howns, hkeep, rfl⟩⟩
    · exact ⟨⟨name, hkey, hread⟩, fun hother => by simp [howns] at hother⟩
    · have hname := (owns_eq_false_iff hkey).mp howns
      exact ⟨⟨name, hkey, Fields.readMember_of_not_mem (skip_of_keep _ _ hkeep) _ hname seen⟩,
        fun _ => hkeep⟩
  · rintro ⟨⟨name, hkey, hread⟩, hkeep⟩
    refine ⟨name, hkey, ?_⟩
    cases howns : merged.owns member.1
    · have hname := (owns_eq_false_iff hkey).mp howns
      have hskip := skip_of_keep _ _ (hkeep howns)
      rw [Fields.readMember_of_not_mem hskip _ hname] at hread
      exact .inr ⟨rfl, hkeep howns, Except.ok.inj hread⟩
    · exact .inl ⟨rfl, hread⟩

private theorem foldlM_eq_ok_iff_outer {members : List (Document × Document)}
    {seen after : merged.OuterSeen} :
    members.foldlM merged.readPair seen = .ok after ↔
      members.foldlM merged.outer.readPair seen = .ok after ∧ merged.Keeps members := by
  induction members generalizing seen with
  | nil => simp [Keeps]
  | cons member members ih =>
      simp only [List.foldlM_cons, bind_eq_ok_iff, readPair_eq_ok_iff_outer, ih, Keeps,
        List.forall_mem_cons]
      constructor
      · rintro ⟨middle, ⟨hmember, hkeep⟩, hmembers, hkeeps⟩
        exact ⟨⟨middle, hmember, hmembers⟩, hkeep, hkeeps⟩
      · rintro ⟨⟨middle, hmember, hmembers⟩, hkeep, hkeeps⟩
        exact ⟨middle, ⟨hmember, hkeep⟩, hmembers, hkeeps⟩

private theorem inner_object_kept (hdisjoint : ∀ key ∈ merged.inner.keys, key ∉ merged.outer.keys)
    {members : List (Document × Document)} {ending : Ending} (hending : ending.check = .ok ())
    {seen after : merged.OuterSeen}
    (hread : members.foldlM merged.outer.readPair seen = .ok after) {inner : merged.Inner} :
    merged.innerShape.ofDocument (.object (merged.kept members) .closed) = .ok inner ↔
      merged.innerShape.ofDocument (.object members ending) = .ok inner := by
  have hreads : ∀ member ∈ members, ∃ before after,
      merged.outer.readPair before member = .ok after :=
    forall_of_foldlM (fun h => ⟨_, _, h⟩) hread
  -- The inner record skips what the outer one owns, so nothing is lost with it.
  have howned : ∀ member ∈ members, (!merged.owns member.1) = false →
      PassedOver merged.inner.keys member := by
    intro member hmember howns
    obtain ⟨before, after, hread⟩ := hreads member hmember
    obtain ⟨name, hkey, hvalue⟩ := Fields.readPair_eq_ok_iff.mp hread
    rw [Bool.not_eq_false', owns_eq_true_iff hkey] at howns
    exact ⟨name, hkey, fun hinner => hdisjoint name hinner howns,
      merged.outer.skip_of_readMember hvalue⟩
  rw [innerShape, Shape.record_object_eq_ok_iff, Shape.record_object_eq_ok_iff, kept,
    Fields.foldlM_filter howned, hending]
  rfl

private theorem object_eq_ok_iff_parts
    (hdisjoint : ∀ key ∈ merged.inner.keys, key ∉ merged.outer.keys)
    {members : List (Document × Document)} {ending : Ending} {record : ρ} :
    merged.ofDocument (.object members ending) = .ok record ↔
      ∃ inner outer, merged.innerShape.ofDocument (.object members ending) = .ok inner ∧
        merged.outerShape.ofDocument (.object members ending) = .ok outer ∧
        merged.Keeps members ∧ merged.build (inner, outer) = record := by
  have houter {outer : merged.Outer} :
      merged.outerShape.ofDocument (.object members ending) = .ok outer ↔
        ∃ seen, members.foldlM merged.outer.readPair merged.outer.unseen = .ok seen ∧
          ending.check = .ok () ∧ merged.outer.complete seen = .ok outer := by
    simp [outerShape, Shape.record_object_eq_ok_iff]
  rw [object_eq_ok_iff]
  constructor
  · rintro ⟨seen, outer, inner, hmembers, hending, hcomplete, hinner, hrecord⟩
    obtain ⟨hread, hkeeps⟩ := foldlM_eq_ok_iff_outer.mp hmembers
    exact ⟨inner, outer, (inner_object_kept hdisjoint hending hread).mp hinner,
      houter.mpr ⟨seen, hread, hending, hcomplete⟩, hkeeps, hrecord⟩
  · rintro ⟨inner, outer, hinner, hparts, hkeeps, hrecord⟩
    obtain ⟨seen, hread, hending, hcomplete⟩ := houter.mp hparts
    exact ⟨seen, outer, inner, foldlM_eq_ok_iff_outer.mpr ⟨hread, hkeeps⟩, hending, hcomplete,
      (inner_object_kept hdisjoint hending hread).mpr hinner, hrecord⟩

end Merged

/-! ## Whole texts -/

/-- Every member has one of the keys, and no two of them have the same. -/
def KeyedBy (keys : List String) (members : List (Document × Document)) : Prop :=
  (∀ member ∈ members, ∃ key ∈ keys, member.1.toKey = .ok key) ∧
    (members.map fun member => member.1.toKey).Nodup

private theorem KeyedBy.ne_of_mem {keys : List String} {front back : List (Document × Document)}
    {member : Document × Document} (h : KeyedBy keys (front ++ member :: back)) :
    ∀ other ∈ front ++ back, other.1.toKey ≠ member.1.toKey := by
  have hnodup := h.2
  rw [(List.perm_middle.map _).nodup_iff, List.map_cons, List.nodup_cons] at hnodup
  intro other hother hsame
  exact hnodup.1 (List.mem_map.mpr ⟨other, hother, hsame⟩)

theorem whole_eq_ok_iff {read : Document → Except Fault ρ} {text : String} {value : ρ} :
    (do
      let (document, rest) := Document.read text
      let value ← read document
      if (skipBlanks rest).isEmpty then return value else throw (Fault.flawed .malformed)) =
        .ok value ↔
      read (Document.read text).1 = .ok value ∧ skipBlanks (Document.read text).2 = [] := by
  rw [bind_eq_ok_iff]
  constructor
  · rintro ⟨middle, hread, hrest⟩
    split at hrest
    next hempty =>
      cases hrest
      exact ⟨hread, List.isEmpty_iff.mp hempty⟩
    next => cases hrest
  · rintro ⟨hread, hrest⟩
    exact ⟨value, hread, by rw [hrest]; rfl⟩

end Wire

/-! ## Simulations -/

namespace Simulation

/-- The transcript is the value of the member for it, and empty if there is no such member. -/
def ReadsHistory (members : List (Document × Document)) (history : List Utterance) : Prop :=
  (∀ member ∈ members, member.1.toKey = .ok "history" →
    (Shape.list Utterance.shape).ofDocument member.2 = .ok history) ∧
  ((∀ member ∈ members, member.1.toKey ≠ .ok "history") → history = [])

theorem ofDocument_cast_iff {members : List (Document × Document)} {ending : Ending}
    {cast : Cast} :
    Cast.shape.ofDocument (.object members ending) = .ok cast ↔
      ∃ inner, Simulation.shape.innerShape.ofDocument (.object members ending) = .ok inner ∧
        Cast.ofFields inner = cast := by
  constructor
  · intro h
    obtain ⟨seen, values, hmembers, hending, hcomplete, hcast⟩ := Shape.record_object_eq_ok_iff.mp h
    exact ⟨values, Shape.record_object_eq_ok_iff.mpr
      ⟨seen, values, hmembers, hending, hcomplete, rfl⟩, hcast⟩
  · rintro ⟨inner, h, hcast⟩
    obtain ⟨seen, values, hmembers, hending, hcomplete, rfl⟩ := Shape.record_object_eq_ok_iff.mp h
    exact Shape.record_object_eq_ok_iff.mpr ⟨seen, values, hmembers, hending, hcomplete, hcast⟩

theorem cast_of_ofDocument {document : Document} {simulation : Simulation}
    (h : Simulation.shape.ofDocument document = .ok simulation) :
    Cast.shape.ofDocument document = .ok simulation.cast := by
  cases document with
  | object members ending =>
      obtain ⟨inner, _, hinner, -, -, rfl⟩ :=
        (Merged.object_eq_ok_iff_parts separate_shape.disjoint).mp h
      exact ofDocument_cast_iff.mpr ⟨inner, hinner, rfl⟩
  | null | boolean | number | string | array | broken | missing =>
      exact (Document.mismatch_ne_ok h).elim

private theorem keep_of_readMember {name : String} {value : Document}
    (hname : name ∈ Cast.fields.keys) {before after : Option String × Option String × Unit}
    (h : Cast.fields.readMember name value before = .ok after) :
    Merged.keep Merged.greatestDepth value = .ok () := by
  have htext : ∃ text, value.toText .text = .ok text := by
    rcases Fields.readMember_cons_eq_ok_iff.mp h with ⟨-, -, text, htext, -⟩ | ⟨hfirst, _, h, -⟩
    · exact ⟨text, htext⟩
    · rcases Fields.readMember_cons_eq_ok_iff.mp h with ⟨-, -, text, htext, -⟩ | ⟨hsecond, -⟩
      · exact ⟨text, htext⟩
      · simp [Cast.fields, Fields.keys, hfirst, hsecond] at hname
  obtain ⟨text, htext⟩ := htext
  cases value with
  | string units ending =>
      obtain ⟨chars, hchars, -⟩ := map_eq_ok_iff.mp (flawed_eq_ok_iff.mp htext)
      rw [Merged.keep]
      exact map_eq_ok_iff.mpr ⟨chars, hchars, rfl⟩
  | null | boolean | number | array | object | broken | missing =>
      exact (Document.mismatch_ne_ok htext).elim

private theorem keeps_of_keyedBy {members : List (Document × Document)} {ending : Ending}
    {cast : Cast} (hkeys : KeyedBy ["learnerPrompt", "tutorPrompt", "history"] members)
    (hcast : Cast.shape.ofDocument (.object members ending) = .ok cast) :
    Simulation.shape.Keeps members := by
  obtain ⟨seen, values, hmembers, -⟩ := Shape.record_object_eq_ok_iff.mp hcast
  have hreads : ∀ member ∈ members, ∃ before after,
      Cast.fields.readPair before member = .ok after :=
    forall_of_foldlM (fun h => ⟨_, _, h⟩) hmembers
  intro member hmember howns
  obtain ⟨before, after, hread⟩ := hreads member hmember
  obtain ⟨name, hkey, hvalue⟩ := Fields.readPair_eq_ok_iff.mp hread
  obtain ⟨name', hname', hkey'⟩ := hkeys.1 member hmember
  cases hkey.symm.trans hkey'
  have hother : name ≠ "history" := by
    have hnot := (Merged.owns_eq_false_iff hkey).mp howns
    simpa [Simulation.shape, Fields.keys] using hnot
  refine keep_of_readMember ?_ hvalue
  simpa [Cast.fields, Fields.keys, hother] using hname'

private theorem outer_of_readsHistory {members : List (Document × Document)} {ending : Ending}
    {history : List Utterance} {keys : List String}
    (hskip : (Document.object members ending).skip = .ok ()) (hkeys : KeyedBy keys members)
    (hhistory : ReadsHistory members history) :
    Simulation.shape.outerShape.ofDocument (.object members ending) = .ok (history, ()) := by
  obtain ⟨⟨⟩, hmembers, hending⟩ := bind_eq_ok_iff.mp hskip
  rw [Document.skipMembers_eq_ok_iff] at hmembers
  have hpassed : ∀ member ∈ members, member.1.toKey ≠ .ok "history" →
      PassedOver Simulation.shape.outer.keys member := by
    intro member hmember hkey
    obtain ⟨name, -, hname⟩ := hkeys.1 member hmember
    refine ⟨name, hname, ?_, (hmembers member hmember).2⟩
    rintro hhistory
    obtain rfl : name = "history" := by simpa [Simulation.shape, Fields.keys] using hhistory
    exact hkey hname
  refine Shape.record_object_eq_ok_iff.mpr ?_
  by_cases hpresent : ∃ member ∈ members, member.1.toKey = .ok "history"
  · obtain ⟨member, hmember, hkey⟩ := hpresent
    have hread := hhistory.1 member hmember hkey
    obtain ⟨front, back, rfl⟩ := List.append_of_mem hmember
    have hothers : ∀ other ∈ front ++ back,
        PassedOver Simulation.shape.outer.keys other := by
      intro other hother
      refine hpassed other ?_ (hkey ▸ hkeys.ne_of_mem other hother)
      exact (List.perm_middle.mem_iff).mpr (List.mem_cons_of_mem _ hother)
    have hmember : Simulation.shape.outer.readPair Simulation.shape.outer.unseen member =
        .ok (some history, ()) :=
      Fields.readPair_eq_ok_iff.mpr ⟨"history", hkey,
        Fields.readMember_cons_eq_ok_iff.mpr (.inl ⟨rfl, rfl, history, hread, rfl⟩)⟩
    exact ⟨_, _, (Fields.foldlM_of_only hothers _).trans hmember, hending, rfl, rfl⟩
  · have habsent : ∀ member ∈ members, member.1.toKey ≠ .ok "history" :=
      fun member hmember hkey => hpresent ⟨member, hmember, hkey⟩
    cases hhistory.2 habsent
    exact ⟨_, _, Fields.foldlM_of_passedOver (fun member hmember =>
      hpassed member hmember (habsent member hmember)) _, hending, rfl, rfl⟩

theorem ofDocument_of_cast {members : List (Document × Document)} {ending : Ending}
    {simulation : Simulation}
    (hkeys : KeyedBy ["learnerPrompt", "tutorPrompt", "history"] members)
    (hhistory : ReadsHistory members simulation.history)
    (hcast : Cast.shape.ofDocument (.object members ending) = .ok simulation.cast) :
    Simulation.shape.ofDocument (.object members ending) = .ok simulation := by
  obtain ⟨inner, hinner, hparts⟩ := ofDocument_cast_iff.mp hcast
  have hskip := Cast.shape.skip_of_ofDocument hcast
  refine (Merged.object_eq_ok_iff_parts separate_shape.disjoint).mpr
    ⟨inner, (simulation.history, ()), hinner, outer_of_readsHistory hskip hkeys hhistory,
      keeps_of_keyedBy hkeys hcast, ?_⟩
  show Simulation.mk (Cast.ofFields inner) simulation.history = simulation
  rw [hparts]

/--
A text that is read as a simulation is read as its cast, whatever else is in it.  If the text
is one object of at most both prompts and the transcript, in any order, and is read as the
cast, then it is read as the simulation of the cast and the transcript.
-/
theorem read_with_cast (text : String) (simulation : Simulation) :
    (Simulation.shape.ofJson text = .ok simulation →
      Cast.shape.ofJson text = .ok simulation.cast) ∧
    (Simulation.shape.ofJsonFront text = .ok simulation →
      Cast.shape.ofJsonFront text = .ok simulation.cast) ∧
    ∀ members ending rest, Document.read text = (.object members ending, rest) →
      KeyedBy ["learnerPrompt", "tutorPrompt", "history"] members →
      ReadsHistory members simulation.history →
      (Cast.shape.ofJson text = .ok simulation.cast →
        Simulation.shape.ofJson text = .ok simulation) ∧
      (Cast.shape.ofJsonFront text = .ok simulation.cast →
        Simulation.shape.ofJsonFront text = .ok simulation) := by
  refine ⟨fun h => ?_, fun h => cast_of_ofDocument h, ?_⟩
  · obtain ⟨hread, hrest⟩ := whole_eq_ok_iff.mp h
    exact whole_eq_ok_iff.mpr ⟨cast_of_ofDocument hread, hrest⟩
  · intro members ending rest htext hkeys hhistory
    have hread (hcast : Cast.shape.ofDocument (Document.read text).1 = .ok simulation.cast) :
        Simulation.shape.ofDocument (Document.read text).1 = .ok simulation := by
      rw [htext] at hcast ⊢
      exact ofDocument_of_cast hkeys hhistory hcast
    refine ⟨fun h => ?_, fun h => ?_⟩
    · obtain ⟨hcast, hrest⟩ := whole_eq_ok_iff.mp h
      exact whole_eq_ok_iff.mpr ⟨hread hcast, hrest⟩
    · rw [Shape.ofJsonFront, Document.readBytes_ofText] at h
      rw [Merged.ofJsonFront, Document.readBytes_ofText]
      exact hread h

/-- The prompts stand on both sides of the transcript. -/
theorem read_with_cast_shuffled :
    let simulation : Simulation :=
      ⟨⟨"You are Ana.", "You are a tutor."⟩, [⟨.tutor, "Hello."⟩]⟩
    let members : List (String × Json) :=
      [("tutorPrompt", .string "You are a tutor."),
        ("history", .array [Utterance.shape.toJson ⟨.tutor, "Hello."⟩]),
        ("learnerPrompt", .string "You are Ana.")]
    Cast.shape.ofJson (Json.object members).compact = .ok simulation.cast ∧
      Simulation.shape.ofJson (Json.object members).compact = .ok simulation := by
  intro simulation members
  have hcast : Cast.shape.ofJson (Json.object members).compact = .ok simulation.cast := by
    decide +kernel
  have hread : Document.read (Json.object members).compact =
      (.object (Json.memberDocuments members) .closed, []) := read_compact (.object members)
  have hkeys : KeyedBy ["learnerPrompt", "tutorPrompt", "history"]
      (Json.memberDocuments members) := ⟨by decide +kernel, by decide +kernel⟩
  have hhistory : ReadsHistory (Json.memberDocuments members) simulation.history :=
    ⟨by decide +kernel, by decide +kernel⟩
  refine ⟨hcast, ?_⟩
  exact ((read_with_cast _ simulation).2.2 _ _ _ hread hkeys hhistory).1 hcast

end Simulation

end LearnerPersona
