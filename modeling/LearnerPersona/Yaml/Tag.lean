/-!
# Tags of YAML

A tag says what kind of value a node is.  It is a sequence of bytes: by escapes a
text can write any byte into a tag, so a tag need not be UTF-8.  A null byte ends it.
Tags of the YAML standard share a beginning; a tag that begins with an exclamation
mark is local to its document.
-/

namespace LearnerPersona.Yaml

structure Tag where
  bytes : List UInt8
  deriving DecidableEq, Repr

namespace Tag

/-- The tag written by bytes, up to the first null byte. -/
def ofBytes (bytes : List UInt8) : Tag := ⟨bytes.takeWhile (· ≠ 0)⟩

def ofText (text : String) : Tag := .ofBytes text.toUTF8.toList

instance : Append Tag where
  append start rest := ⟨start.bytes ++ rest.bytes⟩

def isEmpty (tag : Tag) : Bool := tag.bytes.isEmpty

/-! ## Standard tags -/

def standard : Tag := .ofText "tag:yaml.org,2002:"

def boolean : Tag := standard ++ .ofText "bool"

def integer : Tag := standard ++ .ofText "int"

def floating : Tag := standard ++ .ofText "float"

def null : Tag := standard ++ .ofText "null"

/-! ## Local tags -/

/-- The exclamation mark, by itself the tag that asks for no kind at all. -/
def mark : Tag := .ofText "!"

def isLocal (tag : Tag) : Bool := mark.bytes.isPrefixOf tag.bytes

/-- The name of a local tag, if it is a text.  The mark alone is a name too. -/
def localName? (tag : Tag) : Option String :=
  if tag = mark then some "!"
  else if tag.isLocal then String.fromUTF8? (tag.bytes.drop mark.bytes.length).toByteArray
  else none

end Tag

end LearnerPersona.Yaml
