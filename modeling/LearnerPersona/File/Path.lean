import LearnerPersona.Text.Segments

/-!
# File paths

A path is a list of names with slashes between.  Empty names and single points
mean nothing, except that a path may begin at the root.
-/

namespace LearnerPersona.File

def names (path : String) : List (List Char) :=
  (Text.segments '/' path.toList).filter fun name => name ≠ [] && name ≠ ['.']

def baseName? (path : String) : Option (List Char) :=
  (names path).getLast?.filter (· ≠ ['.', '.'])

/-- What follows the last point of a name; a point at the beginning does not count. -/
def extension? (name : List Char) : Option (List Char) :=
  let reversed := name.reverse.takeWhile (· ≠ '.')
  if reversed.length + 1 < name.length then some reversed.reverse else none

inductive Format where
  | json | yaml
  deriving DecidableEq, Repr

/-- A file is read as YAML if its extension says so, in whatever case, and as JSON
otherwise. -/
def Format.ofPath (path : String) : Format :=
  match (baseName? path).bind extension? with
  | some chars =>
      if [['y', 'a', 'm', 'l'], ['y', 'm', 'l']].contains (chars.map Char.toLower) then .yaml
      else .json
  | none => .json

end LearnerPersona.File
