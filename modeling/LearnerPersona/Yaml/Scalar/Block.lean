import LearnerPersona.Yaml.Scalar.Quoted

/-!
# Block scalars

A block scalar is announced by a header and holds the lines below it that are
indented far enough.  The literal style keeps its line breaks; the folded style
turns a single break between two lines into a space, unless one of them is
indented further.  The header says what becomes of the breaks at the end.
-/

namespace LearnerPersona.Yaml

/-! ## Headers -/

inductive Chomping where
  | strip
  | clip
  | keep
  deriving DecidableEq, Repr

structure BlockHeader where
  chomping : Chomping := .clip
  increment? : Option Nat := none
  deriving DecidableEq, Repr

namespace BlockHeader

def chomping? : Char → Option Chomping
  | '+' => some .keep
  | '-' => some .strip
  | _ => none

def sign (cursor : Cursor) : Option Chomping × Cursor :=
  match cursor.rest.head?.bind chomping? with
  | some chomping => (some chomping, cursor.skip 1)
  | none => (none, cursor)

def digit (cursor : Cursor) : Option (Option Nat × Cursor) :=
  match cursor.rest with
  | '0' :: _ => none
  | char :: _ =>
      if char.isDigit then some (some (char.toNat - '0'.toNat), cursor.skip 1)
      else some (none, cursor)
  | [] => some (none, cursor)

/-- The header behind the indicator: a chomping sign and an indentation digit, in
either order, then nothing more on the line. -/
def read (cursor : Cursor) : Option (BlockHeader × Cursor) := do
  let (before?, cursor) := sign cursor
  let (increment?, cursor) ← digit cursor
  let (after?, cursor) :=
    if before?.isNone && increment?.isSome then sign cursor else (none, cursor)
  let cursor ← cursor.finishLine?
  return (⟨(before?.orElse fun _ => after?).getD .clip, increment?⟩, cursor)

end BlockHeader

/-! ## Indentation -/

/-- Breaks and blank lines at the front of a block scalar without a given
indentation, and the widest column that one of them, or the first line, reaches. -/
def blankLines (widest : Nat) (chars : List Char) (place : Place) : Reading (List Char × Nat) :=
  match chars with
  | ' ' :: rest => blankLines widest rest place.next
  | '\t' :: _ => none
  | char :: rest =>
      let widest := max widest place.column
      if isBreak char then
        (blankLines widest rest place.newLine).map fun ((breaks, widest), cursor) =>
          ((char :: breaks, widest), cursor)
      else some (([], widest), ⟨chars, place⟩)
  | [] => some (([], max widest place.column), ⟨[], place⟩)

/-! ## Lines -/

inductive BlockState where
  | line (indented : Bool)
  /-- The break before the margin, the breaks in it, and how the line above began. -/
  | margin (first later : List Char) (indented : Bool)
  deriving DecidableEq, Repr

/-- The breaks between two lines.  A line that begins with a blank is not folded. -/
def joinLines (folded : Bool) (first later : List Char) (above below : Bool) : List Char :=
  if folded && first = ['\n'] && !above && !below then
    if later.isEmpty then [' '] else later
  else first ++ later

def Chomping.ending (chomping : Chomping) (first later : List Char) : List Char :=
  match chomping with
  | .strip => []
  | .clip => first
  | .keep => first ++ later

def blockLines (folded : Bool) (chomping : Chomping) (indent : Nat) (state : BlockState)
    (chars : List Char) (place : Place) : Reading (List Char) :=
  match state, chars with
  | .line _, [] => some (chomping.ending [] [], ⟨[], place⟩)
  | .margin first later _, [] => some (chomping.ending first later, ⟨[], place⟩)
  | .line indented, char :: rest =>
      if isBreak char then
        blockLines folded chomping indent (.margin [char] [] indented) rest place.newLine
      else (blockLines folded chomping indent (.line indented) rest (place.after char)).push [char]
  | .margin first later above, char :: rest =>
      if place.column < indent && char = ' ' then
        blockLines folded chomping indent (.margin first later above) rest place.next
      else if place.column < indent && char = '\t' then none
      else if isBreak char then
        blockLines folded chomping indent (.margin first (later ++ [char]) above) rest
          place.newLine
      else if place.column = indent then
        (blockLines folded chomping indent (.line (isBlank char)) rest (place.after char)).push
          (joinLines folded first later above (isBlank char) ++ [char])
      else some (chomping.ending first later, ⟨chars, place⟩)

def blockScalar (folded : Bool) (parent : Nat) (cursor : Cursor) :
    Option (List Char × Cursor) := do
  let (header, cursor) ← BlockHeader.read cursor
  match header.increment? with
  | some increment =>
      blockLines folded header.chomping (parent - 1 + increment) (.margin [] [] false)
        cursor.rest cursor.place
  | none =>
      let ((breaks, widest), cursor) ← blankLines 0 cursor.rest cursor.place
      blockLines folded header.chomping (max widest (max parent 1)) (.margin [] breaks false)
        cursor.rest cursor.place

end LearnerPersona.Yaml
