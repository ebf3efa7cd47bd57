import LearnerPersona.Text.Segments

/-!
# Cutting and joining

Cutting a text loses nothing: the segments, joined again, are the text.  And whatever stands
on one side of a separator is cut without a look at the other side.
-/

namespace LearnerPersona.Text

variable {separator : Char}

theorem segments_ne_nil (text : List Char) : segments separator text ≠ [] := by
  cases text with
  | nil => simp [segments]
  | cons char chars =>
      rw [segments]
      split
      · simp
      · cases segments separator chars <;> simp [extendFirst]

/-! ## Joining -/

private theorem intercalate_extendFirst (char : Char) {segments : List (List Char)}
    (h : segments ≠ []) :
    [separator].intercalate (extendFirst char segments) =
      char :: [separator].intercalate segments := by
  obtain ⟨segment, others, rfl⟩ := List.exists_cons_of_ne_nil h
  cases others <;> simp [extendFirst, List.intercalate]

theorem intercalate_segments (text : List Char) :
    [separator].intercalate (segments separator text) = text := by
  induction text with
  | nil => rfl
  | cons char chars ih =>
      rw [segments]
      split
      · next h =>
          subst h
          rw [List.intercalate_cons_of_ne_nil (segments_ne_nil chars), ih]
          rfl
      · rw [intercalate_extendFirst char (segments_ne_nil chars), ih]

/-- Behind the first segment every segment is joined with the separator in front of it. -/
theorem intercalate_cons (segment : List Char) (others : List (List Char)) :
    [separator].intercalate (segment :: others) = segment ++ others.flatMap (separator :: ·) := by
  induction others generalizing segment with
  | nil => simp
  | cons other others ih =>
      rw [List.intercalate_cons_cons, ih other]
      simp

/-- Before the last segment every segment is joined with the separator behind it. -/
theorem intercalate_append (front : List (List Char)) {back : List (List Char)} (h : back ≠ []) :
    [separator].intercalate (front ++ back) =
      front.flatMap (· ++ [separator]) ++ [separator].intercalate back := by
  induction front with
  | nil => rfl
  | cons segment front ih =>
      have hrest : front ++ back ≠ [] := List.append_ne_nil_of_right_ne_nil _ h
      rw [List.cons_append, List.intercalate_cons_of_ne_nil hrest, ih]
      simp

/-! ## Cutting -/

theorem not_mem_of_mem_segments {text segment : List Char}
    (h : segment ∈ segments separator text) : separator ∉ segment := by
  induction text generalizing segment with
  | nil =>
      rw [segments, List.mem_singleton] at h
      simp [h]
  | cons char chars ih =>
      rw [segments] at h
      split at h
      · rcases List.mem_cons.mp h with rfl | h
        · simp
        · exact ih h
      · next hne =>
          obtain ⟨first, others, hcut⟩ :
              ∃ first others, segments separator chars = first :: others :=
            List.exists_cons_of_ne_nil (segments_ne_nil chars)
          rw [hcut, extendFirst] at h
          rw [hcut] at ih
          rcases List.mem_cons.mp h with rfl | h
          · simpa [Ne.symm hne] using ih List.mem_cons_self
          · exact ih (List.mem_cons_of_mem _ h)

theorem segments_of_not_mem {text : List Char} (h : separator ∉ text) :
    segments separator text = [text] := by
  induction text with
  | nil => rfl
  | cons char chars ih =>
      rw [List.mem_cons, not_or] at h
      rw [segments, if_neg (Ne.symm h.1), ih h.2]
      rfl

private theorem extendFirst_append (char : Char) {front back : List (List Char)} (h : front ≠ []) :
    extendFirst char (front ++ back) = extendFirst char front ++ back := by
  obtain ⟨segment, others, rfl⟩ := List.exists_cons_of_ne_nil h
  rfl

theorem segments_append (before after : List Char) :
    segments separator (before ++ separator :: after) =
      segments separator before ++ segments separator after := by
  induction before with
  | nil => simp [segments]
  | cons char chars ih =>
      rw [List.cons_append, segments, segments, ih]
      split
      · rfl
      · exact extendFirst_append char (segments_ne_nil chars)

/-- A text is cut at its last separator in one way only. -/
theorem append_cons_inj_of_not_mem {front front' back back' : List Char}
    (h : front ++ separator :: back = front' ++ separator :: back') (hback : separator ∉ back)
    (hback' : separator ∉ back') : front = front' ∧ back = back' := by
  have hcut : segments separator front ++ [back] = segments separator front' ++ [back'] := by
    rw [← segments_of_not_mem hback, ← segments_append, h, segments_append,
      segments_of_not_mem hback']
  obtain ⟨-, hlast⟩ := List.append_inj' hcut rfl
  obtain rfl : back = back' := (List.cons.inj hlast).1
  exact ⟨List.append_cancel_right h, rfl⟩

theorem segments_intercalate {parts : List (List Char)} (hne : parts ≠ [])
    (h : ∀ part ∈ parts, separator ∉ part) :
    segments separator ([separator].intercalate parts) = parts := by
  induction parts with
  | nil => contradiction
  | cons part parts ih =>
      rw [List.forall_mem_cons] at h
      cases parts with
      | nil => rw [List.intercalate_singleton, segments_of_not_mem h.1]
      | cons next parts =>
          rw [List.intercalate_cons_cons, List.append_assoc, List.singleton_append,
            segments_append, segments_of_not_mem h.1, ih (by simp) h.2, List.singleton_append]

end LearnerPersona.Text
