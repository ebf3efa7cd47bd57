import LearnerPersona.Yaml.Source

/-!
# Gaps inside scalars

A scalar in plain or quoted style can run over several lines.  Blanks within a
line are kept.  A single break becomes a space, further breaks stay, and the
blanks around a break vanish.
-/

namespace LearnerPersona.Yaml

/-- Blanks and breaks that have been met since the last other character. -/
structure Gap where
  blanks : List Char := []
  folded : Bool := false
  /-- The first break, unless it is escaped. -/
  first : List Char := []
  later : List Char := []
  deriving DecidableEq, Repr

namespace Gap

def isEmpty (gap : Gap) : Bool := gap.blanks.isEmpty && !gap.folded

def addBlank (gap : Gap) (blank : Char) : Gap :=
  if gap.folded then gap else { gap with blanks := gap.blanks ++ [blank] }

def addBreak (gap : Gap) (char : Char) : Gap :=
  if gap.folded then { gap with later := gap.later ++ [char] }
  else { folded := true, first := [char] }

def escapedBreak : Gap := { folded := true }

def text (gap : Gap) : List Char :=
  if !gap.folded then gap.blanks
  else if gap.first = ['\n'] then
    if gap.later.isEmpty then [' '] else gap.later
  else gap.first ++ gap.later

end Gap

end LearnerPersona.Yaml
