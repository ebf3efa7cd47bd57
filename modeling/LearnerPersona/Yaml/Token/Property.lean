import LearnerPersona.Text.Hexadecimal
import LearnerPersona.Yaml.Source
import LearnerPersona.Yaml.Token

/-!
# Anchors, tags and directives

The tokens that say something about a node or a document and hold no content.  A
tag may write any character by the bytes of its UTF-8 form, each after a percent
sign.
-/

namespace LearnerPersona.Yaml

/-! ## Anchors and aliases -/

def endsName (char : Char) : Bool :=
  char = '?' || char = ':' || char = ',' || char = ']' || char = '\x7d' || char = '%' ||
    char = '@' || char = '\u0060'

def anchorName (cursor : Cursor) : Option (String × Cursor) :=
  let (name, cursor) := cursor.span isWord
  if name.isEmpty then none
  else if atGap cursor.rest || at? endsName cursor.rest then some (String.ofList name, cursor)
  else none

/-! ## Tags -/

def isTagChar (char : Char) : Bool :=
  isWord char || [';', '/', '?', ':', '@', '&', '=', '+', '$', '.', '%', '!', '~', '*', '\x27',
    '(', ')'].contains char

/-- Where no flow collection can be meant, its indicators may stand in a tag too. -/
def isFullTagChar (char : Char) : Bool :=
  isTagChar char || char = ',' || char = '[' || char = ']'

def followers? (byte : UInt8) : Option Nat :=
  if byte < 0x80 then some 0
  else if byte < 0xC0 then none
  else if byte < 0xE0 then some 1
  else if byte < 0xF0 then some 2
  else if byte < 0xF8 then some 3
  else none

/-- How many bytes a character needs after the given one, if it needed `pending` in
front of it. -/
def pendingAfter? (pending : Nat) (byte : UInt8) : Option Nat :=
  if pending = 0 then followers? byte
  else if 0x80 ≤ byte && byte < 0xC0 then some (pending - 1)
  else none

/-- The bytes that a tag denotes.  The escapes of one character stand together;
`pending` counts those that are still to come. -/
def unescapeTag (pending : Nat) : List Char → Option (List UInt8)
  | [] => if pending = 0 then some [] else none
  | '%' :: high :: low :: chars => do
      let byte := (← Text.hexNumber? [high, low]).toUInt8
      let pending ← pendingAfter? pending byte
      (unescapeTag pending chars).map (byte :: ·)
  | char :: chars =>
      if pending = 0 && char ≠ '%' then (unescapeTag 0 chars).map (char.toUInt8 :: ·) else none

def tagBytes (accept : Char → Bool) (cursor : Cursor) : Option (List UInt8 × Cursor) := do
  let (chars, cursor) := cursor.span accept
  let bytes ← unescapeTag 0 chars
  return (bytes, cursor)

/-- A handle: an exclamation mark, or a word between two of them.  Without the
second mark the word is the beginning of a tag. -/
def tagHandle (cursor : Cursor) : Option (List Char × Cursor) :=
  match cursor.rest with
  | '!' :: _ =>
      let (word, cursor) := (cursor.skip 1).span isWord
      if at? (· = '!') cursor.rest then some ('!' :: word ++ ['!'], cursor.skip 1)
      else some ('!' :: word, cursor)
  | _ => none

def isClosedHandle (handle : List Char) : Bool :=
  1 < handle.length && handle.getLast? = some '!'

def fullTag (cursor : Cursor) : Option (TagToken × Cursor) := do
  let (bytes, cursor) ← tagBytes isFullTagChar cursor
  if bytes.isEmpty || !at? (· = '>') cursor.rest then none
  return (⟨"", .ofBytes bytes⟩, cursor.skip 1)

def shortTag (cursor : Cursor) : Option (TagToken × Cursor) := do
  let (handle, cursor) ← tagHandle cursor
  let (bytes, cursor) ← tagBytes isTagChar cursor
  if isClosedHandle handle then
    if bytes.isEmpty then none
    return (⟨String.ofList handle, .ofBytes bytes⟩, cursor)
  else
    let suffix := Tag.ofText (String.ofList (handle.drop 1)) ++ .ofBytes bytes
    return (if suffix.isEmpty then ⟨"", .mark⟩ else ⟨"!", suffix⟩, cursor)

def tagToken (flow : Bool) (cursor : Cursor) : Option (TagToken × Cursor) := do
  let (tag, cursor) ←
    match cursor.rest with
    | '!' :: '<' :: _ => fullTag (cursor.skip 2)
    | _ => shortTag cursor
  if atGap cursor.rest || (flow && at? (· = ',') cursor.rest) then return (tag, cursor) else none

/-! ## Directives -/

def versionNumber (cursor : Cursor) : Option (Nat × Cursor) :=
  let (digits, cursor) := cursor.span Char.isDigit
  if digits.isEmpty || 9 < digits.length then none
  else some (digits.foldl (fun number digit => number * 10 + (digit.toNat - '0'.toNat)) 0, cursor)

def versionDirective (cursor : Cursor) : Option (Token × Cursor) := do
  let (major, cursor) ← versionNumber (cursor.skipWhile isBlank)
  if !at? (· = '.') cursor.rest then none
  let (minor, cursor) ← versionNumber (cursor.skip 1)
  return (.versionDirective major minor, cursor)

def tagDirective (cursor : Cursor) : Option (Token × Cursor) := do
  let (handle, cursor) ← tagHandle (cursor.skipWhile isBlank)
  if handle ≠ ['!'] && !isClosedHandle handle then none
  if !at? isBlank cursor.rest then none
  let (bytes, cursor) ← tagBytes isFullTagChar (cursor.skipWhile isBlank)
  if bytes.isEmpty || !atGap cursor.rest then none
  return (.tagDirective (String.ofList handle) (.ofBytes bytes), cursor)

def directive (cursor : Cursor) : Option (Token × Cursor) := do
  let (name, cursor) := cursor.span isWord
  if !atGap cursor.rest then none
  let (token, cursor) ←
    if name = ['Y', 'A', 'M', 'L'] then versionDirective cursor
    else if name = ['T', 'A', 'G'] then tagDirective cursor
    else none
  let cursor ← cursor.finishLine?
  return (token, cursor)

end LearnerPersona.Yaml
