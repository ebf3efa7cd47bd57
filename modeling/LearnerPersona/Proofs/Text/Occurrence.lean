import Mathlib.Data.List.Infix

/-!
# Where a word occurs in a text

An occurrence is a position from which the text goes on with the word.  The
occurrences in a text that is put together are those in its parts, provided that
no occurrence lies across a joint.  A passage without the first and the last
letter of the word, but with a letter foreign to it, keeps its two sides apart.
-/

namespace LearnerPersona.Text

/-- The positions at which a word that is not empty occurs in a text, in order. -/
def positions (word text : List Char) : List Nat :=
  (List.range text.length).filter fun position => word.isPrefixOf (text.drop position)

variable {word left right passage : List Char}

theorem mem_positions {text : List Char} {position : Nat} :
    position ∈ positions word text ↔
      position < text.length ∧ word <+: text.drop position := by
  simp [positions]

theorem positions_eq_nil_of_not_infix {text : List Char} (h : ¬ word <:+: text) :
    positions word text = [] := by
  rw [List.eq_nil_iff_forall_not_mem]
  intro position hposition
  have hword := (mem_positions.mp hposition).2
  exact h (hword.isInfix.trans (List.drop_suffix _ _).isInfix)

theorem positions_append
    (hjoint : ∀ part, part ≠ [] → part <:+ left → word <+: part ++ right → word <+: part) :
    positions word (left ++ right) =
      positions word left ++ (positions word right).map (left.length + ·) := by
  simp only [positions, List.length_append, List.range_add, List.filter_append,
    List.filter_map]
  congr 1
  · apply List.filter_congr
    intro position hposition
    have hlt : position < left.length := List.mem_range.mp hposition
    rw [List.drop_append_of_le_length hlt.le, Bool.eq_iff_iff,
      List.isPrefixOf_iff_prefix, List.isPrefixOf_iff_prefix]
    constructor
    · exact hjoint _ (by simpa using hlt) (List.drop_suffix _ _)
    · intro h
      exact h.trans (List.prefix_append _ _)
  · congr 1
    apply List.filter_congr
    intro position _
    simp [Function.comp, List.drop_append, List.drop_eq_nil_of_le]

/-! ## Passages between two parts -/

/-- An occurrence of the word neither begins nor ends in the passage, nor spans it. -/
structure Parts (word passage : List Char) : Prop where
  begins : ∃ letter ∈ word.head?, letter ∉ passage
  ends : ∀ letter ∈ word.getLast?, letter ∉ passage
  foreign : ∃ letter ∈ passage, letter ∉ word

namespace Parts

private theorem not_prefix_of_suffix {part : List Char} (h : Parts word passage)
    (hne : part ≠ []) (hpart : part <:+ passage) : ¬ word <+: part ++ right := by
  obtain ⟨letter, hletter, hnot⟩ := h.begins
  obtain ⟨first, rest, rfl⟩ := List.exists_cons_of_ne_nil hne
  obtain ⟨tail, rfl⟩ := List.head?_eq_some_iff.mp hletter
  intro hword
  obtain ⟨rfl, -⟩ := List.cons_prefix_cons.mp hword
  exact hnot (hpart.subset List.mem_cons_self)

private theorem prefix_of_prefix_append {part : List Char} (h : Parts word passage)
    (hword : word <+: part ++ (passage ++ right)) : word <+: part := by
  obtain ⟨after, hafter⟩ := hword
  rcases List.append_eq_append_iff.mp hafter with ⟨_, rfl, _⟩ | ⟨excess, rfl, hexcess⟩
  · exact List.prefix_append _ _
  rcases List.eq_nil_or_concat excess with rfl | ⟨body, letter, rfl⟩
  · simp
  · exfalso
    rcases List.append_eq_append_iff.mp hexcess with ⟨_, hspan, _⟩ | ⟨_, hends, _⟩
    · obtain ⟨foreign, hmem, hnot⟩ := h.foreign
      exact hnot (List.mem_append_right _ (hspan ▸ List.mem_append_left _ hmem))
    · refine h.ends letter (by simp) ?_
      rw [hends]
      simp

theorem positions_eq_nil (h : Parts word passage) : positions word passage = [] := by
  rw [List.eq_nil_iff_forall_not_mem]
  intro position hposition
  obtain ⟨hlt, hword⟩ := mem_positions.mp hposition
  refine h.not_prefix_of_suffix ?_ (List.drop_suffix position passage)
    (hword.trans (List.prefix_append _ []))
  simpa using hlt

theorem positions_append_left (h : Parts word passage) :
    positions word (passage ++ right) =
      (positions word right).map (passage.length + ·) := by
  rw [positions_append, h.positions_eq_nil, List.nil_append]
  intro part hne hpart hword
  exact absurd hword (h.not_prefix_of_suffix hne hpart)

theorem positions_append_right (h : Parts word passage) :
    positions word (left ++ (passage ++ right)) =
      positions word left ++
        (positions word (passage ++ right)).map (left.length + ·) :=
  positions_append fun _ _ _ hword => h.prefix_of_prefix_append hword

end Parts

/-! ## The last occurrence -/

theorem length_mem_positions_append (left : List Char) {text : List Char}
    (h : 0 ∈ positions word text) : left.length ∈ positions word (left ++ text) := by
  obtain ⟨hlt, hword⟩ := mem_positions.mp h
  rw [mem_positions, List.drop_left, List.length_append]
  exact ⟨by omega, by simpa using hword⟩

/-- Texts that end alike have the same last occurrence, and end alike from there. -/
theorem append_inj_of_positions_eq {before before' after after' : List Char}
    (hafter : positions word after = [0]) (hafter' : positions word after' = [0])
    (h : before ++ after = before' ++ after') : before = before' ∧ after = after' := by
  rcases List.append_eq_append_iff.mp h with ⟨gap, rfl, rfl⟩ | ⟨gap, rfl, rfl⟩
  · have hgap := length_mem_positions_append gap (hafter' ▸ List.mem_singleton_self 0)
    simp_all
  · have hgap := length_mem_positions_append gap (hafter ▸ List.mem_singleton_self 0)
    simp_all

end LearnerPersona.Text
