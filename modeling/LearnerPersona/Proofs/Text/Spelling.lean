import LearnerPersona.Dimension.Prose
import Mathlib.Data.List.Pairwise

/-!
# Texts letter by letter

Fixed texts are written as literals joined by `++`.  A spelling lists their
letters in a form that evaluates, so that a question about the letters of a long
text is answered by running a check on the list.  From the spellings of a table
of texts we also learn that the table can be read back: no text in it begins
another one.
-/

namespace LearnerPersona.Text

/-! ## Spellings -/

/-- The letters of a text, piece by piece. -/
structure Spelling (text : String) where
  pieces : List (List Char)
  eq_ofList : text = String.ofList pieces.flatten

namespace Spelling

def letters {text : String} (spelling : Spelling text) : List Char :=
  spelling.pieces.flatten

/-- A literal unfolds to its letters. -/
def literal {text : String} {letters : List Char} (h : text = String.ofList letters) :
    Spelling text where
  pieces := [letters]
  eq_ofList := by rw [List.flatten_singleton, h]

def append {front back : String} (first : Spelling front) (second : Spelling back) :
    Spelling (front ++ back) where
  pieces := first.pieces ++ second.pieces
  eq_ofList := by
    rw [List.flatten_append, String.ofList_append, ← first.eq_ofList, ← second.eq_ofList]

def of_eq {text other : String} (spelling : Spelling other) (h : text = other) :
    Spelling text where
  pieces := spelling.pieces
  eq_ofList := h.trans spelling.eq_ofList

theorem toList_eq {text : String} (spelling : Spelling text) :
    text.toList = spelling.letters :=
  (congrArg String.toList spelling.eq_ofList).trans String.toList_ofList

/-- The pieces are searched one by one, as joining them would take long. -/
def lacks {text : String} (spelling : Spelling text) (letter : Char) : Bool :=
  spelling.pieces.all (·.all (· != letter))

theorem not_mem_of_lacks {text : String} {letter : Char} (spelling : Spelling text)
    (h : spelling.lacks letter = true) : letter ∉ text.toList := by
  rw [spelling.toList_eq, letters, List.mem_flatten]
  rintro ⟨piece, hpiece, hletter⟩
  have hpieces := List.all_eq_true.mp h piece hpiece
  simpa using List.all_eq_true.mp hpieces letter hletter

end Spelling

/-! ## Tables that can be read back -/

/-- What is written can be split off the front of any longer text. -/
def PrefixFree {α : Type} (write : α → List Char) : Prop :=
  ∀ ⦃first second : α⦄ ⦃rest rest' : List Char⦄,
    write first ++ rest = write second ++ rest' → first = second ∧ rest = rest'

theorem PrefixFree.injective {α : Type} {write : α → List Char} (h : PrefixFree write) :
    Function.Injective write := by
  intro first second heq
  have hends : write first ++ [] = write second ++ [] := by rw [heq]
  exact (h hends).1

def diverge : List Char → List Char → Bool
  | left :: lefts, right :: rights => left != right || diverge lefts rights
  | _, _ => false

theorem append_ne_of_diverge {left right rest rest' : List Char}
    (h : diverge left right = true) : left ++ rest ≠ right ++ rest' := by
  induction left generalizing right with
  | nil => simp [diverge] at h
  | cons letter lefts ih =>
      cases right with
      | nil => simp [diverge] at h
      | cons letter' rights =>
          intro heq
          obtain ⟨rfl, htail⟩ := List.cons_eq_cons.mp heq
          exact ih (by simpa [diverge] using h) htail

theorem diverge_symm {left right : List Char} (h : diverge left right = true) :
    diverge right left = true := by
  induction left generalizing right with
  | nil => simp [diverge] at h
  | cons letter lefts ih =>
      cases right with
      | nil => simp [diverge] at h
      | cons letter' rights =>
          simp only [diverge, Bool.or_eq_true, bne_iff_ne] at h ⊢
          exact h.imp Ne.symm ih

/-- It is enough that every two texts of the table diverge. -/
theorem prefixFree_of_pairwise {α : Type} [Named α] {write : α → List Char}
    (h : (Named.values (α := α)).Pairwise fun first second =>
      diverge (write first) (write second) = true) :
    PrefixFree write := by
  intro first second rest rest' heq
  by_cases hne : first = second
  · subst hne
    exact ⟨rfl, List.append_cancel_left heq⟩
  · have hsymm : Std.Symm fun first second : α =>
        diverge (write first) (write second) = true := ⟨fun _ _ => diverge_symm⟩
    have hdiverge := h.forall (Named.mem_values first) (Named.mem_values second) hne
    exact absurd heq (append_ne_of_diverge hdiverge)

end LearnerPersona.Text
