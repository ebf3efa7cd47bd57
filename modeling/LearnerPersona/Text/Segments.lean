/-!
# Segments of a text

A text is cut at every occurrence of a character.  There is always one segment
more than there are cuts, so a text of segments is never empty.
-/

namespace LearnerPersona.Text

def extendFirst (char : Char) : List (List Char) → List (List Char)
  | [] => [[char]]
  | segment :: segments => (char :: segment) :: segments

/-- The parts of a text between the occurrences of a character. -/
def segments (separator : Char) : List Char → List (List Char)
  | [] => [[]]
  | char :: chars =>
      if char = separator then [] :: segments separator chars
      else extendFirst char (segments separator chars)

end LearnerPersona.Text
