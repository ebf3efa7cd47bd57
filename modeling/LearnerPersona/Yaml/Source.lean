/-!
# Source text of YAML

Which characters a text may hold, what ends a word and a line, and where in a
text one is.  Columns matter: the nesting of block collections is written by
indentation alone.
-/

namespace LearnerPersona.Yaml

/-! ## Characters -/

def isPrintable (char : Char) : Bool :=
  let code := char.toNat
  code = 0x09 || code = 0x0A || code = 0x0D || (0x20 ≤ code && code ≤ 0x7E) || code = 0x85 ||
    (0xA0 ≤ code && code ≤ 0xFFFD) || 0x10000 ≤ code

def isBreak (char : Char) : Bool :=
  char = '\n' || char = '\u2028' || char = '\u2029'

def isBlank (char : Char) : Bool := char = ' ' || char = '\t'

def isWord (char : Char) : Bool :=
  char.isAlphanum || char = '_' || char = '-'

def byteOrderMark : Char := '\uFEFF'

/-- Carriage returns and the next-line control are written as line feeds; a
carriage return together with the line feed after it is one break. -/
def unifyBreaks : List Char → List Char
  | [] => []
  | '\r' :: '\n' :: chars => '\n' :: unifyBreaks chars
  | char :: chars =>
      (if char = '\r' || char = '\u0085' then '\n' else char) :: unifyBreaks chars

def atGap : List Char → Bool
  | [] => true
  | char :: _ => isBlank char || isBreak char

def atLineEnd : List Char → Bool
  | [] => true
  | char :: _ => isBreak char

def at? (accept : Char → Bool) : List Char → Bool
  | [] => false
  | char :: _ => accept char

/-- At the start of a line: the mark between two documents. -/
def atDocumentMark : List Char → Bool
  | '-' :: '-' :: '-' :: chars => atGap chars
  | '.' :: '.' :: '.' :: chars => atGap chars
  | _ => false

/-! ## Places -/

structure Place where
  line : Nat := 0
  column : Nat := 0
  /-- The bytes of the line before the place, in UTF-8. -/
  bytes : Nat := 0
  deriving DecidableEq, Repr

namespace Place

def skip (place : Place) (count : Nat) : Place :=
  { place with column := place.column + count, bytes := place.bytes + count }

def next (place : Place) : Place := place.skip 1

def newLine (place : Place) : Place := ⟨place.line + 1, 0, 0⟩

def after (place : Place) (char : Char) : Place :=
  { place with column := place.column + 1, bytes := place.bytes + char.utf8Size }

end Place

structure Cursor where
  rest : List Char
  place : Place
  deriving DecidableEq, Repr

namespace Cursor

def skip (cursor : Cursor) (count : Nat) : Cursor :=
  ⟨cursor.rest.drop count, (cursor.rest.take count).foldl Place.after cursor.place⟩

/-- The characters at the front that belong to a class, and the rest.  The class
has no breaks. -/
def span (cursor : Cursor) (accept : Char → Bool) : List Char × Cursor :=
  let chars := cursor.rest.takeWhile accept
  (chars, cursor.skip chars.length)

def skipWhile (cursor : Cursor) (accept : Char → Bool) : Cursor := (cursor.span accept).2

def skipBreak (cursor : Cursor) : Cursor :=
  match cursor.rest with
  | char :: rest => if isBreak char then ⟨rest, cursor.place.newLine⟩ else cursor
  | [] => cursor

/-- Skips blanks, a comment and the break after it.  Nothing else may be left on
the line. -/
def finishLine? (cursor : Cursor) : Option Cursor :=
  let cursor := cursor.skipWhile isBlank
  let cursor := if at? (· = '#') cursor.rest then cursor.skipWhile (!isBreak ·) else cursor
  if atLineEnd cursor.rest then some cursor.skipBreak else none

end Cursor

/-- What a part of a token is read to, and where it ends; none if it is malformed. -/
abbrev Reading (α : Type) := Option (α × Cursor)

end LearnerPersona.Yaml
