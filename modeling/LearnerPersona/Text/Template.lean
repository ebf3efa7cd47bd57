/-!
# Templates

A template holds a mark wherever a value is still to be filled in.
-/

namespace LearnerPersona.Text

/-- Writes the value for every mark that is found from the left.  A mark has at least
one letter. -/
def replaceMark (mark value : List Char) : List Char → List Char
  | [] => []
  | char :: rest =>
      if mark.isPrefixOf (char :: rest) then
        value ++ replaceMark mark value (rest.drop (mark.length - 1))
      else char :: replaceMark mark value rest
termination_by text => text.length

def replace (mark value text : String) : String :=
  String.ofList (replaceMark mark.toList value.toList text.toList)

end LearnerPersona.Text
