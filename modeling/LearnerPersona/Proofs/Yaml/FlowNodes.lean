import LearnerPersona.Proofs.Yaml.FlowTokens
import LearnerPersona.Yaml.Node.Grammar

/-!
# Nodes of compact JSON

The tokens of a value without plain scalars are those of one document, which mirrors the
value: texts are double-quoted scalars, and nothing has an anchor or a tag.
-/

namespace LearnerPersona

open LearnerPersona.Yaml

/-! ## The node of a value -/

namespace Json

mutual

/-- What a reader finds in the compact text of a value without plain scalars. -/
def node : Json → Node
  | .null | .boolean _ | .number _ => .broken
  | .string text => .scalar {} .doubleQuoted text
  | .array items => .sequence {} (itemNodes items) .closed
  | .object members => .mapping {} (memberNodes members) .closed

def itemNodes : List Json → List Node
  | [] => []
  | item :: items => item.node :: itemNodes items

def memberNodes : List (String × Json) → List (Node × Node)
  | [] => []
  | (key, value) :: members =>
      (.scalar {} .doubleQuoted key, value.node) :: memberNodes members

end

end Json

namespace Yaml

/-! ## Single nodes -/

/-- A token that a value begins with. -/
inductive BeginsValue : Token → Prop
  | text (text : String) : BeginsValue (.scalar .doubleQuoted text)
  | sequence : BeginsValue .flowSequenceStart
  | mapping : BeginsValue .flowMappingStart

private theorem exists_beginsValue {value : Json} (h : value.IsShared) :
    ∃ token tokens, value.tokens = token :: tokens ∧ BeginsValue token := by
  cases value with
  | null | boolean | number => exact h.elim
  | string text => exact ⟨_, _, rfl, .text text⟩
  | array items => exact ⟨_, _, rfl, .sequence⟩
  | object members => exact ⟨_, _, rfl, .mapping⟩

private theorem exists_beginsValue_items {item : Json} (h : item.IsShared) (items : List Json) :
    ∃ token tokens, Json.itemTokens (item :: items) = token :: tokens ∧ BeginsValue token := by
  obtain ⟨token, tokens, htokens, hbegins⟩ := exists_beginsValue h
  cases items with
  | nil => exact ⟨token, tokens, htokens, hbegins⟩
  | cons next items =>
      refine ⟨token, tokens ++ .flowEntry :: Json.itemTokens (next :: items), ?_, hbegins⟩
      rw [Json.itemTokens, htokens, List.cons_append]

private theorem exists_key_members (member : String × Json) (members : List (String × Json)) :
    ∃ tokens, Json.memberTokens (member :: members) = .key :: tokens := by
  cases members <;> exact ⟨_, rfl⟩

variable {fuel : Nat} {block indentless : Bool} {token : Token} {tokens : List Token}
  {handles : List (String × Tag)} {anchors : List (String × Nat)}

private theorem readNode_text (text : String) :
    readNode (fuel + 1) block indentless
        ⟨.scalar .doubleQuoted text :: tokens, handles, anchors⟩ =
      (.scalar {} .doubleQuoted text, ⟨tokens, handles, anchors⟩) := rfl

private theorem readNode_sequence {items : List Node} {ending : Ending} {feed : Feed}
    (h : readFlowSequence fuel true ⟨tokens, handles, anchors⟩ = (items, ending, feed)) :
    readNode (fuel + 1) block indentless ⟨.flowSequenceStart :: tokens, handles, anchors⟩ =
      (.sequence {} items ending, feed) := by
  simp [readNode, Marks.read, Feed.attach, Feed.skip, h]

private theorem readNode_mapping {members : List (Node × Node)} {ending : Ending} {feed : Feed}
    (h : readFlowMapping fuel true ⟨tokens, handles, anchors⟩ = (members, ending, feed)) :
    readNode (fuel + 1) block indentless ⟨.flowMappingStart :: tokens, handles, anchors⟩ =
      (.mapping {} members ending, feed) := by
  simp [readNode, Marks.read, Feed.attach, Feed.skip, h]

private theorem readOptional_of_begins {isAbsent : Token → Bool} (h : isAbsent token = false) :
    readOptional (fuel + 1) isAbsent block indentless ⟨token :: tokens, handles, anchors⟩ =
      readNode fuel block indentless ⟨token :: tokens, handles, anchors⟩ := by
  simp [readOptional, h]

/-! ## Sequences and mappings -/

private theorem readFlowSequence_end (first : Bool) :
    readFlowSequence (fuel + 1) first ⟨.flowSequenceEnd :: tokens, handles, anchors⟩ =
      ([], .closed, ⟨tokens, handles, anchors⟩) := rfl

private theorem readFlowSequence_item {value : Json} (h : value.IsShared) {item : Node}
    {items : List Node} {ending : Ending} {middle feed : Feed}
    (hitem : readNode fuel false false ⟨value.tokens ++ tokens, handles, anchors⟩ =
      (item, middle))
    (hitems : readFlowSequence fuel false middle = (items, ending, feed)) :
    readFlowSequence (fuel + 1) true ⟨value.tokens ++ tokens, handles, anchors⟩ =
      (item :: items, ending, feed) := by
  obtain ⟨token, others, htokens, hbegins⟩ := exists_beginsValue h
  rw [htokens, List.cons_append] at hitem ⊢
  cases hbegins <;> simp [readFlowSequence, hitem, hitems]

private theorem readFlowSequence_entry (hbegins : BeginsValue token) :
    readFlowSequence (fuel + 1) false ⟨.flowEntry :: token :: tokens, handles, anchors⟩ =
      readFlowSequence (fuel + 1) true ⟨token :: tokens, handles, anchors⟩ := by
  cases hbegins <;> simp [readFlowSequence, Feed.skip]

private theorem readFlowMapping_end (first : Bool) :
    readFlowMapping (fuel + 1) first ⟨.flowMappingEnd :: tokens, handles, anchors⟩ =
      ([], .closed, ⟨tokens, handles, anchors⟩) := rfl

private theorem readFlowMapping_pair {tokens' : List Token} {key value : Node}
    {members : List (Node × Node)} {ending : Ending} {middle feed : Feed}
    (hkey : readOptional fuel (endsFlowKey .flowMappingEnd) false false
      ⟨tokens, handles, anchors⟩ = (key, ⟨.value :: tokens', handles, anchors⟩))
    (hvalue : readOptional fuel (endsFlowValue .flowMappingEnd) false false
      ⟨tokens', handles, anchors⟩ = (value, middle))
    (hmembers : readFlowMapping fuel false middle = (members, ending, feed)) :
    readFlowMapping (fuel + 1) true ⟨.key :: tokens, handles, anchors⟩ =
      ((key, value) :: members, ending, feed) := by
  simp [readFlowMapping, Feed.skip, hkey, hvalue, hmembers]

private theorem readFlowMapping_member {json : Json} (h : json.IsShared) (key : String)
    {value : Node} {members : List (Node × Node)} {ending : Ending} {middle feed : Feed}
    (hvalue : readNode (fuel + 1) false false ⟨json.tokens ++ tokens, handles, anchors⟩ =
      (value, middle))
    (hmembers : readFlowMapping (fuel + 2) false middle = (members, ending, feed)) :
    readFlowMapping (fuel + 3) true
        ⟨.key :: .scalar .doubleQuoted key :: .value :: (json.tokens ++ tokens), handles,
          anchors⟩ =
      ((.scalar {} .doubleQuoted key, value) :: members, ending, feed) := by
  obtain ⟨token, others, htokens, hbegins⟩ := exists_beginsValue h
  rw [htokens, List.cons_append] at hvalue ⊢
  have hpresent : endsFlowValue .flowMappingEnd token = false := by cases hbegins <;> rfl
  refine readFlowMapping_pair ?_ ((readOptional_of_begins hpresent).trans hvalue) hmembers
  exact (readOptional_of_begins rfl).trans (readNode_text key)

private theorem readFlowMapping_entry :
    readFlowMapping (fuel + 1) false ⟨.flowEntry :: .key :: tokens, handles, anchors⟩ =
      readFlowMapping (fuel + 1) true ⟨.key :: tokens, handles, anchors⟩ := by
  simp [readFlowMapping, Feed.skip]

/-! ## Values -/

mutual

theorem readNode_tokens (block indentless : Bool) (rest : List Token) :
    (value : Json) → value.IsShared → (fuel : Nat) → value.tokens.length + 1 ≤ fuel →
      readNode fuel block indentless ⟨value.tokens ++ rest, handles, anchors⟩ =
        (value.node, ⟨rest, handles, anchors⟩)
  | .string text, _, fuel + 1, _ => readNode_text text
  | .array items, h, fuel + 1, hfuel => by
      rw [Json.IsShared] at h
      simp only [Json.tokens, List.length_append, List.length_cons, List.length_nil] at hfuel
      have hitems := readFlowSequence_tokens rest items h fuel (by omega)
      simp only [Json.tokens, List.cons_append, List.append_assoc, List.nil_append]
      exact readNode_sequence hitems
  | .object members, h, fuel + 1, hfuel => by
      rw [Json.IsShared] at h
      simp only [Json.tokens, List.length_append, List.length_cons, List.length_nil] at hfuel
      have hmembers := readFlowMapping_tokens rest members h fuel (by omega)
      simp only [Json.tokens, List.cons_append, List.append_assoc, List.nil_append]
      exact readNode_mapping hmembers

theorem readFlowSequence_tokens (rest : List Token) :
    (items : List Json) → Json.ItemsShared items → (fuel : Nat) →
      (Json.itemTokens items).length + 2 ≤ fuel →
      readFlowSequence fuel true
          ⟨Json.itemTokens items ++ .flowSequenceEnd :: rest, handles, anchors⟩ =
        (Json.itemNodes items, .closed, ⟨rest, handles, anchors⟩)
  | [], _, fuel + 1, _ => rfl
  | [item], h, fuel + 2, hfuel => by
      simp only [Json.itemTokens] at hfuel ⊢
      have hitem := readNode_tokens false false (.flowSequenceEnd :: rest) item h.1 (fuel + 1)
        (by omega)
      exact readFlowSequence_item h.1 hitem (readFlowSequence_end false)
  | item :: next :: items, h, fuel + 2, hfuel => by
      simp only [Json.itemTokens, List.length_append, List.length_cons] at hfuel
      have hitem := readNode_tokens false false
        (.flowEntry :: (Json.itemTokens (next :: items) ++ .flowSequenceEnd :: rest)) item h.1
        (fuel + 1) (by omega)
      have hitems := readFlowSequence_tokens rest (next :: items) h.2 (fuel + 1) (by omega)
      obtain ⟨token, tokens, htokens, hbegins⟩ := exists_beginsValue_items h.2.1 items
      simp only [Json.itemTokens, List.append_assoc, List.cons_append]
      refine readFlowSequence_item h.1 hitem ?_
      -- A comma is skipped only in front of a token that can begin an item.
      rw [htokens, List.cons_append] at hitems ⊢
      exact (readFlowSequence_entry hbegins).trans hitems

theorem readFlowMapping_tokens (rest : List Token) :
    (members : List (String × Json)) → Json.MembersShared members → (fuel : Nat) →
      (Json.memberTokens members).length + 2 ≤ fuel →
      readFlowMapping fuel true
          ⟨Json.memberTokens members ++ .flowMappingEnd :: rest, handles, anchors⟩ =
        (Json.memberNodes members, .closed, ⟨rest, handles, anchors⟩)
  | [], _, fuel + 1, _ => rfl
  | [(key, value)], h, fuel + 3, hfuel => by
      simp only [Json.memberTokens, List.length_cons] at hfuel
      have hvalue := readNode_tokens false false (.flowMappingEnd :: rest) value h.2.1 (fuel + 1)
        (by omega)
      simp only [Json.memberTokens, List.cons_append]
      exact readFlowMapping_member h.2.1 key hvalue (readFlowMapping_end false)
  | (key, value) :: next :: members, h, fuel + 3, hfuel => by
      simp only [Json.memberTokens, List.length_append, List.length_cons] at hfuel
      have hvalue := readNode_tokens false false
        (.flowEntry :: (Json.memberTokens (next :: members) ++ .flowMappingEnd :: rest)) value
        h.2.1 (fuel + 1) (by omega)
      have hmembers := readFlowMapping_tokens rest (next :: members) h.2.2 (fuel + 2) (by omega)
      obtain ⟨tokens, htokens⟩ := exists_key_members next members
      simp only [Json.memberTokens, List.append_assoc, List.cons_append]
      refine readFlowMapping_member h.2.1 key hvalue ?_
      rw [htokens, List.cons_append] at hmembers ⊢
      exact readFlowMapping_entry.trans hmembers

end

/-! ## Documents -/

private theorem start_of_beginsValue (hbegins : BeginsValue token) (tokens : List Token) :
    Document.start (token :: tokens) =
      some (false, { tokens := token :: tokens, handles := defaultHandles }) := by
  cases hbegins <;> rfl

/-- The text of the value is one document and nothing else. -/
theorem ofText_compact {value : Json} (h : value.IsShared) :
    Document.ofText value.compact = ⟨value.node, true⟩ := by
  obtain ⟨token, tokens, htokens, hbegins⟩ := exists_beginsValue h
  have hnode : readNode _ true false ⟨value.tokens ++ [.streamEnd], defaultHandles, []⟩ = _ :=
    readNode_tokens true false [.streamEnd] value h
      (2 * (value.tokens ++ [Token.streamEnd]).length + 3) (by simp; omega)
  rw [Document.ofText, tokens_compact h, Document.ofTokens]
  rw [htokens, List.cons_append] at hnode ⊢
  have hcontent : token :: (tokens ++ [Token.streamEnd]) ≠ [Token.streamEnd] := by simp
  rw [if_neg hcontent, start_of_beginsValue hbegins]
  simp only [Bool.false_eq_true, if_false]
  rw [readOptional_of_begins rfl, hnode]
  rfl

end Yaml

end LearnerPersona
