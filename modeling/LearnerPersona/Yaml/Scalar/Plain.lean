import LearnerPersona.Yaml.Scalar.Quoted

/-!
# Plain scalars

A scalar without quotes ends where a colon, a comment or, in a flow collection, an
indicator ends it, and at a line that is indented too little to belong to it.
-/

namespace LearnerPersona.Yaml

structure PlainText where
  text : List Char
  broken : Bool
  deriving DecidableEq, Repr

def isFlowIndicator (char : Char) : Bool :=
  char = ',' || char = '[' || char = ']' || char = '\x7b' || char = '\x7d'

def endsPlain (flow : Bool) (char : Char) (rest : List Char) : Bool :=
  (char = ':' && atGap rest) || (flow && isFlowIndicator char)

/-- In a flow collection a colon before an indicator could be read in two ways. -/
def ambiguousColon (flow : Bool) (char : Char) (rest : List Char) : Bool :=
  flow && char = ':' && at? (fun next => isFlowIndicator next || next = '?') rest

def leavesPlain (flow : Bool) (indent : Nat) (char : Char) (chars : List Char) (place : Place) :
    Bool :=
  (!flow && place.column < indent) || (place.column = 0 && atDocumentMark chars) || char = '#'

/-- A plain scalar from its first character on.  In a block collection its lines
are indented by at least `indent`. -/
def plain (flow : Bool) (indent : Nat) (gap : Gap) (chars : List Char) (place : Place) :
    Option (PlainText × Cursor) :=
  match chars with
  | [] => some (⟨[], gap.folded⟩, ⟨[], place⟩)
  | char :: rest =>
      if isBlank char then
        if gap.folded && place.column < indent && char = '\t' then none
        else plain flow indent (gap.addBlank char) rest place.next
      else if isBreak char then plain flow indent (gap.addBreak char) rest place.newLine
      else if !gap.isEmpty && leavesPlain flow indent char chars place then
        some (⟨[], gap.folded⟩, ⟨chars, place⟩)
      else if ambiguousColon flow char rest then none
      else if endsPlain flow char rest then some (⟨[], gap.folded⟩, ⟨chars, place⟩)
      else do
        let (more, cursor) ← plain flow indent {} rest (place.after char)
        return ({ more with text := gap.text ++ char :: more.text }, cursor)

end LearnerPersona.Yaml
