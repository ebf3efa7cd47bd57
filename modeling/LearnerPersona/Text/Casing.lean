/-!
# The case of identifiers

An identifier runs its words together, each with a capital in front.  Documents
write it in lower case, with the words apart or together.
-/

namespace LearnerPersona.Text

inductive Casing where
  | lower | kebab
  deriving DecidableEq, Repr

/-- A hyphen in front of every word but the first. -/
def hyphenate : List Char → List Char
  | [] => []
  | first :: rest =>
      first :: rest.flatMap fun char => if char.isUpper then ['-', char] else [char]

def Casing.apply (casing : Casing) (identifier : String) : String :=
  let words :=
    match casing with
    | .lower => identifier.toList
    | .kebab => hyphenate identifier.toList
  String.ofList (words.map Char.toLower)

example : Casing.kebab.apply "StepByStep" = "step-by-step" := by decide

end LearnerPersona.Text
