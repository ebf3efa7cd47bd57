import LearnerPersona.Yaml.Tag

/-!
# Tokens of YAML

A text is read as a sequence of tokens.  Block collections have tokens for their
ends although nothing is written there: the text ends them by its indentation.
-/

namespace LearnerPersona.Yaml

inductive Style where
  | plain | singleQuoted | doubleQuoted | literal | folded
  deriving DecidableEq, Repr

/-- A tag as written: a handle that stands for a prefix, and the rest.  A tag that is
written out in full has an empty handle. -/
structure TagToken where
  handle : String
  suffix : Tag
  deriving DecidableEq, Repr

inductive Token where
  | versionDirective (major minor : Nat)
  | tagDirective (handle : String) (start : Tag)
  | documentStart
  | documentEnd
  | streamEnd
  | blockSequenceStart
  | blockMappingStart
  | blockEnd
  | flowSequenceStart
  | flowSequenceEnd
  | flowMappingStart
  | flowMappingEnd
  | blockEntry
  | flowEntry
  | key
  | value
  | alias (name : String)
  | anchor (name : String)
  | tag (tag : TagToken)
  | scalar (style : Style) (text : String)
  deriving DecidableEq, Repr

end LearnerPersona.Yaml
