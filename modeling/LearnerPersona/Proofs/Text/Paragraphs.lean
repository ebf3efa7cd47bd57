import LearnerPersona.Text.Segments
import Mathlib.Data.List.Basic

/-!
# The paragraphs of a text

A blank line is two line breaks in a row.  Paragraphs without line breaks are read back
from the text that they make with a blank line between each two.
-/

namespace LearnerPersona.Text

/-- The parts of a text between its blank lines, which are found from the left. -/
def paragraphs : List Char → List (List Char)
  | [] => [[]]
  | '\n' :: '\n' :: rest => [] :: paragraphs rest
  | char :: rest => extendFirst char (paragraphs rest)

theorem paragraphs_cons {char : Char} (rest : List Char) (h : char ≠ '\n') :
    paragraphs (char :: rest) = extendFirst char (paragraphs rest) := by
  rw [paragraphs]
  rintro rest rfl
  exact absurd rfl h

theorem paragraphs_of_not_mem {text : List Char} (h : '\n' ∉ text) :
    paragraphs text = [text] := by
  induction text with
  | nil => rfl
  | cons char chars ih =>
      rw [List.mem_cons, not_or] at h
      rw [paragraphs_cons chars (Ne.symm h.1), ih h.2]
      rfl

theorem paragraphs_append {before : List Char} (after : List Char) (h : '\n' ∉ before) :
    paragraphs (before ++ '\n' :: '\n' :: after) = before :: paragraphs after := by
  induction before with
  | nil => rfl
  | cons char chars ih =>
      rw [List.mem_cons, not_or] at h
      rw [List.cons_append, paragraphs_cons _ (Ne.symm h.1), ih h.2]
      rfl

-- Of three breaks in a row the first two are the blank line.
example : paragraphs "a\n\n\nb".toList = ["a".toList, "\nb".toList] := by decide

theorem paragraphs_flatMap {first : List Char} {others : List (List Char)} (hfirst : '\n' ∉ first)
    (hothers : ∀ other ∈ others, '\n' ∉ other) :
    paragraphs (first ++ others.flatMap fun other => '\n' :: '\n' :: other) = first :: others := by
  induction others generalizing first with
  | nil => rw [List.flatMap_nil, List.append_nil, paragraphs_of_not_mem hfirst]
  | cons next others ih =>
      obtain ⟨hnext, hrest⟩ := List.forall_mem_cons.mp hothers
      rw [List.flatMap_cons, List.cons_append, List.cons_append, paragraphs_append _ hfirst,
        ih hnext hrest]

end LearnerPersona.Text
