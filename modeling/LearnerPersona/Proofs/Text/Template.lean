import LearnerPersona.Proofs.Text.Spelling
import LearnerPersona.Text.Template

/-!
# Templates filled in

A mark is found where its first letter is.  So a template that has this letter only there
has the value in place of the mark and is otherwise as it was.
-/

namespace LearnerPersona.Text

variable {opening : Char} {inner value front : List Char}

theorem replaceMark_append (rest : List Char) (h : opening ∉ front) :
    replaceMark (opening :: inner) value (front ++ rest) =
      front ++ replaceMark (opening :: inner) value rest := by
  induction front with
  | nil => rfl
  | cons char front ih =>
      rw [List.mem_cons, not_or] at h
      rw [List.cons_append, replaceMark, ih h.2]
      simp [h.1]

theorem replaceMark_of_not_mem (h : opening ∉ front) :
    replaceMark (opening :: inner) value front = front := by
  have hfront := @replaceMark_append opening inner value front [] h
  simpa [replaceMark] using hfront

theorem replaceMark_mark (rest : List Char) :
    replaceMark (opening :: inner) value (opening :: inner ++ rest) =
      value ++ replaceMark (opening :: inner) value rest := by
  have hmark : (opening :: inner).isPrefixOf (opening :: (inner ++ rest)) := by
    simp [List.isPrefixOf_iff_prefix]
  rw [List.cons_append, replaceMark, if_pos hmark]
  simp

/-- The value stands where the mark did, and nothing else has changed. -/
theorem replace_eq {mark value front back : String} {opening : Char}
    (hmark : mark.toList.head? = some opening) (hfront : opening ∉ front.toList)
    (hback : opening ∉ back.toList) :
    replace mark value (front ++ mark ++ back) = front ++ value ++ back := by
  obtain ⟨inner, hinner⟩ := List.head?_eq_some_iff.mp hmark
  rw [← String.toList_inj, replace, String.toList_ofList]
  simp only [String.toList_append, List.append_assoc]
  rw [hinner, replaceMark_append _ hfront, replaceMark_mark, replaceMark_of_not_mem hback]

example : replace "\x7bwho\x7d" "I" "am \x7bwho\x7d or \x7bnot\x7d" = "am I or \x7bnot\x7d" := by
  simp [replace, replaceMark]

end LearnerPersona.Text
