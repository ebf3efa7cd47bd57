import LearnerPersona.Yaml.Scalar.Block
import LearnerPersona.Yaml.Scalar.Plain
import LearnerPersona.Yaml.Token.Property

/-!
# The tokens of a text

Tokens are read from left to right.  Two things look ahead.  Whether a node is the
key of a block mapping shows only at the colon behind it, so a node that could be
one is remembered, and the tokens for the key are put before it once the colon
comes.  And the indentation of a line decides how many block collections end.

When the text turns out to be malformed, the tokens before the first node that
could still have become a key stand: nothing that comes later changes them.
-/

namespace LearnerPersona.Yaml

/-! ## State -/

structure Candidate where
  /-- The number of tokens before it. -/
  number : Nat
  place : Place
  /-- It stands where a block mapping needs a key. -/
  required : Bool
  deriving DecidableEq, Repr

/-- A key has to end on its line and within so many bytes. -/
def Candidate.reach : Nat := 1024

def Candidate.isPast (candidate : Candidate) (place : Place) : Bool :=
  candidate.place.line < place.line || candidate.place.bytes + Candidate.reach < place.bytes

structure Scanner where
  cursor : Cursor
  /-- The last token comes first. -/
  tokens : List Token := []
  count : Nat := 0
  /-- The columns of the open block collections, the innermost first. -/
  indents : List Nat := []
  candidate? : Option Candidate := none
  /-- The candidates outside each open flow collection, the innermost first. -/
  outer : List (Option Candidate) := []
  keyAllowed : Bool := true
  deriving DecidableEq, Repr

namespace Scanner

def inFlow (scanner : Scanner) : Bool := !scanner.outer.isEmpty

def place (scanner : Scanner) : Place := scanner.cursor.place

def push (scanner : Scanner) (token : Token) : Scanner :=
  { scanner with tokens := token :: scanner.tokens, count := scanner.count + 1 }

def insert (scanner : Scanner) (number : Nat) (token : Token) : Scanner :=
  let later := scanner.count - number
  { scanner with
    tokens := scanner.tokens.take later ++ token :: scanner.tokens.drop later
    count := scanner.count + 1 }

def settled (scanner : Scanner) : Nat :=
  (scanner.candidate? :: scanner.outer).foldl
    (fun count candidate? => candidate?.elim count fun candidate => min count candidate.number)
    scanner.count

/-! ## Candidates -/

/-- Gives the candidate up; one that is required must not be. -/
def dropped : Option Candidate → Option (Option Candidate)
  | some candidate => if candidate.required then none else some none
  | none => some none

def dropCandidate (scanner : Scanner) : Option Scanner := do
  let candidate? ← dropped scanner.candidate?
  return { scanner with candidate? }

def expire (scanner : Scanner) : Option Scanner := do
  let check (candidate? : Option Candidate) : Option (Option Candidate) :=
    match candidate? with
    | some candidate =>
        if candidate.isPast scanner.place then dropped (some candidate) else some (some candidate)
    | none => some none
  let candidate? ← check scanner.candidate?
  let outer ← scanner.outer.mapM check
  return { scanner with candidate?, outer }

def saveCandidate (scanner : Scanner) : Option Scanner :=
  if scanner.keyAllowed then do
    let scanner ← scanner.dropCandidate
    let required := !scanner.inFlow && scanner.indents.head? = some scanner.place.column
    return { scanner with
      candidate? := some ⟨scanner.count, scanner.place, required⟩ }
  else some scanner

/-! ## Indentation -/

def nestedColumn (scanner : Scanner) : Nat :=
  match scanner.indents with
  | [] => 0
  | indent :: _ => indent + 1

/-- Opens a block collection before the token with the given number, unless one is
open at this column already. -/
def indentTo (scanner : Scanner) (column number : Nat) (token : Token) : Scanner :=
  if !scanner.inFlow && scanner.nestedColumn ≤ column then
    { scanner with indents := column :: scanner.indents }.insert number token
  else scanner

/-- Ends the block collections that the column is left of; all of them if there is
no column. -/
def dedentTo (scanner : Scanner) (column? : Option Nat) : Scanner :=
  if scanner.inFlow then scanner
  else
    let isOpen (indent : Nat) : Bool := column?.any (indent ≤ ·)
    let ended := scanner.indents.takeWhile (!isOpen ·)
    let scanner := { scanner with indents := scanner.indents.drop ended.length }
    ended.foldl (fun scanner _ => scanner.push .blockEnd) scanner

/-! ## Blanks -/

/-- Skips blanks, breaks and comments.  In a block collection a key may begin on a
new line; a tab is no indentation, so it is skipped only where none may. -/
def skipGap (flow : Bool) (comment keyAllowed : Bool) (chars : List Char) (place : Place) :
    Cursor × Bool :=
  match chars with
  | [] => (⟨[], place⟩, keyAllowed)
  | char :: rest =>
      if isBreak char then skipGap flow false (keyAllowed || !flow) rest place.newLine
      else if comment then skipGap flow true keyAllowed rest (place.after char)
      else if char = '#' then skipGap flow true keyAllowed rest place.next
      else if char = ' ' || (char = '\t' && (flow || !keyAllowed)) ||
          (char = byteOrderMark && place.column = 0) then
        skipGap flow false keyAllowed rest (place.after char)
      else (⟨chars, place⟩, keyAllowed)

def toNextToken (scanner : Scanner) : Scanner :=
  let (cursor, keyAllowed) :=
    skipGap scanner.inFlow false scanner.keyAllowed scanner.cursor.rest scanner.place
  { scanner with cursor, keyAllowed }

/-! ## Single tokens -/

def take (scanner : Scanner) (count : Nat) (token : Token) (keyAllowed : Bool) : Scanner :=
  { scanner with cursor := scanner.cursor.skip count, keyAllowed }.push token

def accept {α : Type} (scanner : Scanner) (reading : Reading α) (token : α → Token)
    (keyAllowed : Bool) : Option Scanner :=
  reading.map fun (content, cursor) =>
    { scanner with cursor, keyAllowed }.push (token content)

def readEnd (scanner : Scanner) : Option Scanner := do
  let place := scanner.place
  let place := if place.column = 0 then place else place.newLine
  let scanner ← (scanner.dedentTo none).dropCandidate
  return { scanner with cursor := ⟨[], place⟩, keyAllowed := false }.push .streamEnd

def readDirective (scanner : Scanner) : Option Scanner := do
  let scanner ← (scanner.dedentTo none).dropCandidate
  scanner.accept (directive (scanner.cursor.skip 1)) id false

def readDocumentMark (scanner : Scanner) (token : Token) : Option Scanner := do
  let scanner ← (scanner.dedentTo none).dropCandidate
  return scanner.take 3 token false

def readFlowStart (scanner : Scanner) (token : Token) : Option Scanner := do
  let scanner ← scanner.saveCandidate
  let scanner := { scanner with candidate? := none, outer := scanner.candidate? :: scanner.outer }
  return scanner.take 1 token true

def readFlowEnd (scanner : Scanner) (token : Token) : Option Scanner := do
  let scanner ← scanner.dropCandidate
  let scanner :=
    match scanner.outer with
    | candidate? :: outer => { scanner with candidate?, outer }
    | [] => scanner
  return scanner.take 1 token false

def readFlowEntry (scanner : Scanner) : Option Scanner := do
  let scanner ← scanner.dropCandidate
  return scanner.take 1 .flowEntry true

def openBlock (scanner : Scanner) (token : Token) : Option Scanner :=
  if scanner.inFlow then some scanner
  else if scanner.keyAllowed then
    some (scanner.indentTo scanner.place.column scanner.count token)
  else none

def readBlockEntry (scanner : Scanner) : Option Scanner := do
  let scanner ← scanner.openBlock .blockSequenceStart
  let scanner ← scanner.dropCandidate
  return scanner.take 1 .blockEntry true

def readKey (scanner : Scanner) : Option Scanner := do
  let scanner ← scanner.openBlock .blockMappingStart
  let scanner ← scanner.dropCandidate
  return scanner.take 1 .key !scanner.inFlow

def readValue (scanner : Scanner) : Option Scanner :=
  match scanner.candidate? with
  | some candidate =>
      let number := candidate.number
      let scanner := { scanner with candidate? := none }.insert number .key
      let scanner := scanner.indentTo candidate.place.column number .blockMappingStart
      some (scanner.take 1 .value false)
  | none => do
      let scanner ← scanner.openBlock .blockMappingStart
      return scanner.take 1 .value !scanner.inFlow

def readAnchor (scanner : Scanner) (token : String → Token) : Option Scanner := do
  let scanner ← scanner.saveCandidate
  scanner.accept (anchorName (scanner.cursor.skip 1)) token false

def readTag (scanner : Scanner) : Option Scanner := do
  let scanner ← scanner.saveCandidate
  scanner.accept (tagToken scanner.inFlow scanner.cursor) .tag false

def readBlockScalar (scanner : Scanner) (style : Style) : Option Scanner := do
  let scanner ← scanner.dropCandidate
  scanner.accept
    (blockScalar (style = .folded) scanner.nestedColumn (scanner.cursor.skip 1))
    (.scalar style <| String.ofList ·) true

def readQuoted (scanner : Scanner) (style : Style) : Option Scanner := do
  let scanner ← scanner.saveCandidate
  let cursor := scanner.cursor.skip 1
  let reading :=
    if style = .singleQuoted then singleQuoted {} cursor.rest cursor.place
    else doubleQuoted {} cursor.rest cursor.place
  scanner.accept reading (.scalar style <| String.ofList ·) false

/-- A break behind a plain scalar is skipped with it, and a key may begin there. -/
def readPlain (scanner : Scanner) : Option Scanner := do
  let scanner ← scanner.saveCandidate
  let (text, cursor) ←
    plain scanner.inFlow scanner.nestedColumn {} scanner.cursor.rest scanner.place
  return { scanner with cursor, keyAllowed := text.broken }.push
    (.scalar .plain (String.ofList text.text))

/-! ## The next token -/

def isIndicator (char : Char) : Bool :=
  ['-', '?', ':', ',', '[', ']', '\x7b', '\x7d', '#', '&', '*', '!', '|', '>', '\x27', '"', '%',
    '@', '\u0060'].contains char

/-- A plain scalar begins here.  Some indicators may begin one if no blank follows. -/
def startsPlain (flow : Bool) (char : Char) (rest : List Char) : Bool :=
  !(isBlank char || isBreak char || isIndicator char) || (char = '-' && !at? isBlank rest) ||
    (!flow && (char = '?' || char = ':') && !atGap rest)

def readToken (scanner : Scanner) : Option Scanner :=
  let flow := scanner.inFlow
  match scanner.cursor.rest with
  | [] => scanner.readEnd
  | char :: rest =>
      if scanner.place.column = 0 && char = '%' then scanner.readDirective
      else if scanner.place.column = 0 && atDocumentMark (char :: rest) then
        scanner.readDocumentMark (if char = '-' then .documentStart else .documentEnd)
      else if char = '[' then scanner.readFlowStart .flowSequenceStart
      else if char = '\x7b' then scanner.readFlowStart .flowMappingStart
      else if char = ']' then scanner.readFlowEnd .flowSequenceEnd
      else if char = '\x7d' then scanner.readFlowEnd .flowMappingEnd
      else if char = ',' then scanner.readFlowEntry
      else if char = '-' && atGap rest then scanner.readBlockEntry
      else if char = '?' && (flow || atGap rest) then scanner.readKey
      else if char = ':' && (flow || atGap rest) then scanner.readValue
      else if char = '*' then scanner.readAnchor .alias
      else if char = '&' then scanner.readAnchor .anchor
      else if char = '!' then scanner.readTag
      else if char = '|' && !flow then scanner.readBlockScalar .literal
      else if char = '>' && !flow then scanner.readBlockScalar .folded
      else if char = '\x27' then scanner.readQuoted .singleQuoted
      else if char = '"' then scanner.readQuoted .doubleQuoted
      else if startsPlain flow char rest then scanner.readPlain
      else none

def step (scanner : Scanner) : Option Scanner := do
  let scanner ← scanner.toNextToken.expire
  let scanner ← (scanner.dedentTo (some scanner.place.column)).readToken
  scanner.expire

def isDone (scanner : Scanner) : Bool := scanner.tokens.head? = some .streamEnd

def first (scanner : Scanner) (number : Nat) : List Token :=
  (scanner.tokens.drop (scanner.count - number)).reverse

/-- The tokens up to the end of the text, or up to where it is malformed.  Every
step but the last reads a character, so a fuel above their number is enough. -/
def run : Nat → Scanner → List Token
  | 0, scanner => scanner.first scanner.count
  | fuel + 1, scanner =>
      if scanner.isDone then scanner.first scanner.count
      else
        match scanner.step with
        | some scanner => scanner.run fuel
        | none => scanner.first scanner.settled

end Scanner

/-- The tokens of a text.  The last one is the end of the stream, unless the text is
malformed. -/
def tokens (text : String) : List Token :=
  let chars := text.toList
  if chars.all isPrintable then
    let chars := unifyBreaks chars
    Scanner.run (chars.length + 2) { cursor := ⟨chars, {}⟩ }
  else []

end LearnerPersona.Yaml
