import LearnerPersona.File.Load
import LearnerPersona.Proofs.Text.Segments
import Mathlib.Data.List.Basic
import Mathlib.Data.List.TakeWhile

/-!
# The format that a path tells

Only the last name of a path counts, and of that name only what stands behind its last
point.  So the directories that lead to a file say nothing about its format, whatever points
their names have.
-/

namespace LearnerPersona.File

/-! ## The end of a path -/

/-- What means nothing at the end of a path: slashes, each with at most a point behind it. -/
inductive Trailing : List Char → Prop
  | nil : Trailing []
  | slash {rest : List Char} (h : Trailing rest) : Trailing ('/' :: rest)
  | point {rest : List Char} (h : Trailing rest) : Trailing ('/' :: '.' :: rest)

/-- The path ends with the name, but for what means nothing there.  The name begins where the
path does or right behind a slash. -/
def EndsWith (path : String) (name : List Char) : Prop :=
  ∃ front back, path.toList = front ++ name ++ back ∧ (front = [] ∨ ['/'] <:+ front) ∧
    Trailing back

/-- A single component that stands for no directory. -/
def IsOrdinary (name : List Char) : Prop :=
  '/' ∉ name ∧ name ≠ [] ∧ name ≠ ['.'] ∧ name ≠ ['.', '.']

instance (name : List Char) : Decidable (IsOrdinary name) :=
  inferInstanceAs (Decidable (_ ∧ _ ∧ _ ∧ _))

def IsBlank (name : List Char) : Prop := name = [] ∨ name = ['.']

instance (name : List Char) : Decidable (IsBlank name) := inferInstanceAs (Decidable (_ ∨ _))

private theorem IsBlank.slash_not_mem {name : List Char} (h : IsBlank name) : '/' ∉ name := by
  obtain rfl | rfl := h <;> simp

private theorem trailing_iff {back : List Char} :
    Trailing back ↔ ∃ blanks : List (List Char), (∀ blank ∈ blanks, IsBlank blank) ∧
      back = blanks.flatMap ('/' :: ·) := by
  constructor
  · intro h
    induction h with
    | nil => exact ⟨[], by simp, rfl⟩
    | slash _ ih =>
        obtain ⟨blanks, hblanks, rfl⟩ := ih
        exact ⟨[] :: blanks, List.forall_mem_cons.mpr ⟨.inl rfl, hblanks⟩, rfl⟩
    | point _ ih =>
        obtain ⟨blanks, hblanks, rfl⟩ := ih
        exact ⟨['.'] :: blanks, List.forall_mem_cons.mpr ⟨.inr rfl, hblanks⟩, rfl⟩
  · rintro ⟨blanks, hblanks, rfl⟩
    induction blanks with
    | nil => exact .nil
    | cons blank blanks ih =>
        rw [List.forall_mem_cons] at hblanks
        obtain ⟨rfl | rfl, hrest⟩ := hblanks
        · exact .slash (ih hrest)
        · exact .point (ih hrest)

theorem endsWith_iff {path : String} {name : List Char} (hslash : '/' ∉ name) :
    EndsWith path name ↔ ∃ front blanks, Text.segments '/' path.toList = front ++ name :: blanks ∧
      ∀ blank ∈ blanks, IsBlank blank := by
  constructor
  · rintro ⟨front, back, hpath, hfront, hback⟩
    obtain ⟨blanks, hblanks, rfl⟩ := trailing_iff.mp hback
    have hcut : Text.segments '/' (name ++ blanks.flatMap ('/' :: ·)) = name :: blanks := by
      have hslashes : ∀ part ∈ name :: blanks, '/' ∉ part :=
        List.forall_mem_cons.mpr ⟨hslash, fun blank hblank => (hblanks blank hblank).slash_not_mem⟩
      rw [← Text.intercalate_cons, Text.segments_intercalate (by simp) hslashes]
    obtain rfl | ⟨parent, rfl⟩ := hfront
    · exact ⟨[], blanks, by rw [hpath, List.nil_append, hcut, List.nil_append], hblanks⟩
    · refine ⟨Text.segments '/' parent, blanks, ?_, hblanks⟩
      rw [hpath, List.append_assoc, List.append_assoc, List.singleton_append, Text.segments_append,
        hcut]
  · rintro ⟨front, blanks, hsegments, hblanks⟩
    have hjoin : ['/'].intercalate (Text.segments '/' path.toList) = path.toList :=
      Text.intercalate_segments _
    refine ⟨front.flatMap (· ++ ['/']), blanks.flatMap ('/' :: ·), ?_, ?_,
      trailing_iff.mpr ⟨blanks, hblanks, rfl⟩⟩
    · rw [← hjoin, hsegments, Text.intercalate_append front (by simp), Text.intercalate_cons,
        List.append_assoc]
    · obtain rfl | ⟨parents, parent, rfl⟩ := List.eq_nil_or_concat front
      · exact .inl rfl
      · exact .inr ⟨parents.flatMap (· ++ ['/']) ++ parent, by simp⟩

/-! ## The last name -/

theorem getLast?_names_eq_some_iff {path : String} {name : List Char} :
    (names path).getLast? = some name ↔ ¬IsBlank name ∧
      ∃ front blanks, Text.segments '/' path.toList = front ++ name :: blanks ∧
        ∀ blank ∈ blanks, IsBlank blank := by
  -- Seen from its end, the path has blank components up to its last name.
  have hend : (names path).getLast? =
      (Text.segments '/' path.toList).reverse.find? fun part => !decide (IsBlank part) := by
    rw [names, List.getLast?_filter]
    congr 1
    funext part
    rw [Bool.eq_iff_iff]
    simp only [ne_eq, Bool.and_eq_true, decide_eq_true_eq, Bool.not_eq_true',
      decide_eq_false_iff_not]
    exact not_or.symm
  rw [hend, List.find?_eq_some_iff_append]
  simp only [Bool.not_eq_true', decide_eq_false_iff_not, Bool.not_not, decide_eq_true_eq]
  refine and_congr_right fun _ => ⟨?_, ?_⟩
  · rintro ⟨back, front, hsegments, hback⟩
    exact ⟨front.reverse, back.reverse, by simpa using congrArg List.reverse hsegments,
      fun blank hblank => hback blank (List.mem_reverse.mp hblank)⟩
  · rintro ⟨front, blanks, hsegments, hblanks⟩
    exact ⟨blanks.reverse, front.reverse, by simp [hsegments],
      fun blank hblank => hblanks blank (List.mem_reverse.mp hblank)⟩

theorem baseName?_eq_some_iff {path : String} {name : List Char} :
    baseName? path = some name ↔ EndsWith path name ∧ IsOrdinary name := by
  rw [baseName?, Option.filter_eq_some_iff, getLast?_names_eq_some_iff, decide_eq_true_eq]
  constructor
  · rintro ⟨⟨hblank, hcut⟩, hparent⟩
    have hslash : '/' ∉ name := by
      obtain ⟨front, blanks, hsegments, -⟩ := hcut
      have hmem : name ∈ Text.segments '/' path.toList := by simp [hsegments]
      exact Text.not_mem_of_mem_segments hmem
    obtain ⟨hempty, hpoint⟩ := not_or.mp hblank
    exact ⟨(endsWith_iff hslash).mpr hcut, hslash, hempty, hpoint, hparent⟩
  · rintro ⟨hends, hslash, hempty, hpoint, hparent⟩
    exact ⟨⟨not_or.mpr ⟨hempty, hpoint⟩, (endsWith_iff hslash).mp hends⟩, hparent⟩

private theorem endsWith_self (name : String) : EndsWith name name.toList :=
  ⟨[], [], by simp, .inl rfl, .nil⟩

private theorem endsWith_append (directory name : String) :
    EndsWith (directory ++ "/" ++ name) name.toList :=
  ⟨directory.toList ++ ['/'], [], by simp, .inr (List.suffix_append _ _), .nil⟩

private theorem baseName?_append (directory : String) {name : String} (h : IsOrdinary name.toList) :
    baseName? (directory ++ "/" ++ name) = baseName? name := by
  rw [baseName?_eq_some_iff.mpr ⟨endsWith_append directory name, h⟩,
    baseName?_eq_some_iff.mpr ⟨endsWith_self name, h⟩]

/-! ## The extension of a name -/

private theorem ne_point_of_mem_reverse {chars : List Char} (h : '.' ∉ chars) :
    ∀ char ∈ chars.reverse, decide (char ≠ '.') = true := by
  intro char hchar
  exact decide_eq_true (ne_of_mem_of_not_mem (List.mem_reverse.mp hchar) h)

theorem extension?_append {stem extension : List Char} (h : '.' ∉ extension) :
    extension? (stem ++ '.' :: extension) = if stem = [] then none else some extension := by
  have hlast : (stem ++ '.' :: extension).reverse.takeWhile (· ≠ '.') = extension.reverse := by
    rw [List.reverse_append, List.reverse_cons, List.append_assoc,
      List.takeWhile_append_of_pos (ne_point_of_mem_reverse h)]
    simp
  have hlength : extension.length + 1 < (stem ++ '.' :: extension).length ↔ stem ≠ [] := by
    rw [List.length_append, List.length_cons, ← List.length_pos_iff]
    omega
  rw [extension?, hlast, List.length_reverse, List.reverse_reverse]
  simp only [hlength, ite_not]

theorem extension?_of_not_mem {name : List Char} (h : '.' ∉ name) : extension? name = none := by
  rw [extension?, List.takeWhile_eq_self_iff.mpr (ne_point_of_mem_reverse h)]
  simp

private theorem exists_stem {name : List Char} (h : '.' ∈ name) :
    ∃ stem extension, name = stem ++ '.' :: extension ∧ '.' ∉ extension := by
  obtain ⟨back, front, hreverse, hback⟩ := List.eq_append_cons_of_mem (List.mem_reverse.mpr h)
  exact ⟨front.reverse, back.reverse, by simpa using congrArg List.reverse hreverse,
    by simpa using hback⟩

theorem extension?_eq_some_iff {name extension : List Char} :
    extension? name = some extension ↔
      ∃ stem, name = stem ++ '.' :: extension ∧ stem ≠ [] ∧ '.' ∉ extension := by
  constructor
  · intro hextension
    by_cases hpoint : '.' ∈ name
    · obtain ⟨stem, last, rfl, hlast⟩ := exists_stem hpoint
      rw [extension?_append hlast] at hextension
      split at hextension
      · cases hextension
      · next hstem =>
          cases hextension
          exact ⟨stem, rfl, hstem, hlast⟩
    · rw [extension?_of_not_mem hpoint] at hextension
      cases hextension
  · rintro ⟨stem, rfl, hstem, hlast⟩
    rw [extension?_append hlast, if_neg hstem]

/-! ## The format -/

/-- The texts differ in nothing but the case of letters of ASCII. -/
def SameLetters (left right : List Char) : Prop :=
  left.map Char.toLower = right.map Char.toLower

theorem Format.ofPath_eq_yaml_iff {path : String} :
    Format.ofPath path = .yaml ↔
      ∃ extension, (baseName? path).bind extension? = some extension ∧
        (SameLetters extension "yaml".toList ∨ SameLetters extension "yml".toList) := by
  have hletters (extension : List Char) :
      SameLetters extension "yaml".toList ∨ SameLetters extension "yml".toList ↔
        extension.map Char.toLower ∈ [['y', 'a', 'm', 'l'], ['y', 'm', 'l']] := by
    rw [List.mem_pair]
    rfl
  rw [Format.ofPath]
  cases (baseName? path).bind extension? with
  | none => simp
  | some extension =>
      simp only [Option.some.injEq, exists_eq_left', hletters, List.contains_iff_mem]
      split
      · next hlisted => exact iff_of_true rfl hlisted
      · next hlisted => exact iff_of_false (by simp) hlisted

/--
A file is read as YAML just when its path ends with an ordinary name, of which the last point
is not the first character and has `yaml` or `yml` behind it, in whatever case.  So the
directory in which a file is found changes neither its format nor what is loaded from it.
-/
theorem Format.ofPath_tells_extension :
    (∀ path, Format.ofPath path = .yaml ↔
      ∃ name stem extension, EndsWith path name ∧ IsOrdinary name ∧
        name = stem ++ '.' :: extension ∧ stem ≠ [] ∧ '.' ∉ extension ∧
        (SameLetters extension "yaml".toList ∨ SameLetters extension "yml".toList)) ∧
    ∀ directory name, IsOrdinary name.toList →
      Format.ofPath (directory ++ "/" ++ name) = Format.ofPath name ∧
      ∀ read, load read (directory ++ "/" ++ name) =
        load (fun _ => read (directory ++ "/" ++ name)) name := by
  constructor
  · intro path
    rw [Format.ofPath_eq_yaml_iff]
    constructor
    · rintro ⟨extension, hlast, hletters⟩
      obtain ⟨name, hname, hextension⟩ := Option.bind_eq_some_iff.mp hlast
      obtain ⟨hends, hordinary⟩ := baseName?_eq_some_iff.mp hname
      obtain ⟨stem, hsplit, hstem, hpoint⟩ := extension?_eq_some_iff.mp hextension
      exact ⟨name, stem, extension, hends, hordinary, hsplit, hstem, hpoint, hletters⟩
    · rintro ⟨name, stem, extension, hends, hordinary, hsplit, hstem, hpoint, hletters⟩
      have hname := baseName?_eq_some_iff.mpr ⟨hends, hordinary⟩
      have hextension := extension?_eq_some_iff.mpr ⟨stem, hsplit, hstem, hpoint⟩
      exact ⟨extension, Option.bind_eq_some_iff.mpr ⟨name, hname, hextension⟩, hletters⟩
  · intro directory name hordinary
    have hformat : Format.ofPath (directory ++ "/" ++ name) = Format.ofPath name := by
      rw [Format.ofPath, Format.ofPath, baseName?_append directory hordinary]
    exact ⟨hformat, fun read => by rw [load, load, hformat]⟩

/-- Extensions in front of the last name are of no account. -/
theorem Format.ofPath_tells_extension_dotted :
    IsOrdinary "p.json.YmL".toList ∧
      Format.ofPath ("a.json/..//.yaml" ++ "/" ++ "p.json.YmL") = .yaml ∧
      IsOrdinary "yaml".toList ∧ Format.ofPath ("a.yaml" ++ "/" ++ "yaml") = .json := by
  have hyaml : IsOrdinary "p.json.YmL".toList := by decide
  have hjson : IsOrdinary "yaml".toList := by decide
  refine ⟨hyaml, ?_, hjson, ?_⟩
  · rw [(Format.ofPath_tells_extension.2 _ _ hyaml).1]
    decide
  · rw [(Format.ofPath_tells_extension.2 _ _ hjson).1]
    decide

end LearnerPersona.File
