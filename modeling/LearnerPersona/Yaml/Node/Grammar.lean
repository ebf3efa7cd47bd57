import LearnerPersona.Yaml.Node
import LearnerPersona.Yaml.Token.Stream

/-!
# The document in a sequence of tokens

Block collections, flow collections and the mappings of a single pair that may
stand in a flow sequence.  Every collection is read up to its end or up to where
the tokens fit no further; from there on everything is broken.
-/

namespace LearnerPersona.Yaml

/-! ## State -/

structure Feed where
  tokens : List Token
  handles : List (String × Tag) := []
  /-- The numbers of the anchors.  A name that is used again gets a new number. -/
  anchors : List (String × Nat) := []
  deriving DecidableEq, Repr

namespace Feed

def stop (feed : Feed) : Feed := { feed with tokens := [] }

def skip (feed : Feed) : Feed := { feed with tokens := feed.tokens.drop 1 }

def nextIs (feed : Feed) (accept : Token → Bool) : Bool := feed.tokens.head?.any accept

/-- The number of an anchor is the number of names in use before it. -/
def declare (feed : Feed) (name : String) : Nat × Feed :=
  let number := feed.anchors.length
  (number,
    { feed with anchors := (name, number) :: feed.anchors.filter fun entry => entry.1 ≠ name })

end Feed

/-! ## Properties -/

structure Marks where
  anchor? : Option String := none
  tag? : Option TagToken := none
  deriving DecidableEq, Repr

namespace Marks

/-- At most one anchor and one tag, in either order. -/
def read (feed : Feed) : Marks × Feed :=
  match feed.tokens with
  | .anchor name :: .tag tag :: tokens => (⟨some name, some tag⟩, { feed with tokens })
  | .tag tag :: .anchor name :: tokens => (⟨some name, some tag⟩, { feed with tokens })
  | .anchor name :: tokens => (⟨some name, none⟩, { feed with tokens })
  | .tag tag :: tokens => (⟨none, some tag⟩, { feed with tokens })
  | _ => ({}, feed)

def isEmpty (marks : Marks) : Bool := marks.anchor?.isNone && marks.tag?.isNone

end Marks

def TagToken.expand? (tag : TagToken) (handles : List (String × Tag)) : Option Tag :=
  if tag.handle.isEmpty then some tag.suffix
  else (handles.lookup tag.handle).map (· ++ tag.suffix)

def Feed.attach (feed : Feed) (marks : Marks) (tag? : Option Tag) : Properties × Feed :=
  match marks.anchor? with
  | some name =>
      let (anchor, feed) := feed.declare name
      (⟨some anchor, tag?⟩, feed)
  | none => (⟨none, tag?⟩, feed)

/-! ## Nodes -/

def endsBlockEntry : Token → Bool
  | .blockEntry | .blockEnd => true
  | _ => false

def endsIndentlessEntry : Token → Bool
  | .blockEntry | .key | .value | .blockEnd => true
  | _ => false

def endsBlockPart : Token → Bool
  | .key | .value | .blockEnd => true
  | _ => false

def endsFlowKey (close : Token) : Token → Bool
  | .value | .flowEntry => true
  | token => token = close

def endsFlowValue (close : Token) : Token → Bool
  | .flowEntry => true
  | token => token = close

mutual

/-- Reads one node.  A block node may be a block collection; where `indentless` is
set, a sequence may begin without any indentation of its own.  `fuel` bounds the
depth of the calls; each second one consumes a token. -/
def readNode : Nat → Bool → Bool → Feed → Node × Feed
  | 0, _, _, feed => (.broken, feed.stop)
  | fuel + 1, block, indentless, feed =>
      match feed.tokens with
      | .alias name :: _ =>
          match feed.anchors.lookup name with
          | some anchor => (.alias anchor, feed.skip)
          | none => (.broken, feed.stop)
      | _ =>
          let (marks, feed) := Marks.read feed
          match marks.tag?.mapM (·.expand? feed.handles) with
          | none => (.broken, feed.stop)
          | some tag? =>
              let (properties, declared) := feed.attach marks tag?
              match feed.tokens with
              | .scalar style text :: _ => (.scalar properties style text, declared.skip)
              | .flowSequenceStart :: _ =>
                  let (items, ending, feed) := readFlowSequence fuel true declared.skip
                  (.sequence properties items ending, feed)
              | .flowMappingStart :: _ =>
                  let (members, ending, feed) := readFlowMapping fuel true declared.skip
                  (.mapping properties members ending, feed)
              | token :: _ =>
                  if indentless && token = .blockEntry then
                    let (items, ending, feed) := readIndentless fuel declared
                    (.sequence properties items ending, feed)
                  else if block && token = .blockSequenceStart then
                    let (items, ending, feed) := readBlockSequence fuel declared.skip
                    (.sequence properties items ending, feed)
                  else if block && token = .blockMappingStart then
                    let (members, ending, feed) := readBlockMapping fuel declared.skip
                    (.mapping properties members ending, feed)
                  else if marks.isEmpty then (.broken, feed.stop)
                  else (.scalar properties .plain "", declared)
              | [] => (.broken, feed.stop)

def readOptional : Nat → (Token → Bool) → Bool → Bool → Feed → Node × Feed
  | 0, _, _, _, feed => (.broken, feed.stop)
  | fuel + 1, isAbsent, block, indentless, feed =>
      match feed.tokens with
      | [] => (.broken, feed)
      | token :: _ =>
          if isAbsent token then (.empty, feed) else readNode fuel block indentless feed

def readBlockSequence : Nat → Feed → List Node × Ending × Feed
  | 0, feed => ([], .broken, feed.stop)
  | fuel + 1, feed =>
      match feed.tokens with
      | .blockEntry :: _ =>
          let (item, feed) := readOptional fuel endsBlockEntry true false feed.skip
          let (items, ending, feed) := readBlockSequence fuel feed
          (item :: items, ending, feed)
      | .blockEnd :: _ => ([], .closed, feed.skip)
      | _ => ([], .broken, feed.stop)

/-- A sequence at the column of the mapping it is a value of; it has no end token. -/
def readIndentless : Nat → Feed → List Node × Ending × Feed
  | 0, feed => ([], .broken, feed.stop)
  | fuel + 1, feed =>
      match feed.tokens with
      | .blockEntry :: _ =>
          let (item, feed) := readOptional fuel endsIndentlessEntry true false feed.skip
          let (items, ending, feed) := readIndentless fuel feed
          (item :: items, ending, feed)
      | [] => ([], .broken, feed)
      | _ => ([], .closed, feed)

def readBlockMapping : Nat → Feed → List (Node × Node) × Ending × Feed
  | 0, feed => ([], .broken, feed.stop)
  | fuel + 1, feed =>
      match feed.tokens with
      | .key :: _ =>
          let (key, feed) := readOptional fuel endsBlockPart true true feed.skip
          let (value, feed) :=
            match feed.tokens with
            | .value :: _ => readOptional fuel endsBlockPart true true feed.skip
            | [] => (.broken, feed)
            | _ => (.empty, feed)
          let (members, ending, feed) := readBlockMapping fuel feed
          ((key, value) :: members, ending, feed)
      | .blockEnd :: _ => ([], .closed, feed.skip)
      | _ => ([], .broken, feed.stop)

def readFlowSequence : Nat → Bool → Feed → List Node × Ending × Feed
  | 0, _, feed => ([], .broken, feed.stop)
  | fuel + 1, first, feed =>
      match feed.tokens with
      | .flowSequenceEnd :: _ => ([], .closed, feed.skip)
      | token :: _ =>
          if !first && token ≠ .flowEntry then ([], .broken, feed.stop)
          else
            let feed := if first then feed else feed.skip
            match feed.tokens with
            | .flowSequenceEnd :: _ => ([], .closed, feed.skip)
            | .key :: _ =>
                let (pair, ending, feed) := readFlowPair fuel feed.skip
                let (items, outer, feed) := readFlowSequence fuel false feed
                (.mapping {} pair ending :: items, outer, feed)
            | _ =>
                let (item, feed) := readNode fuel false false feed
                let (items, ending, feed) := readFlowSequence fuel false feed
                (item :: items, ending, feed)
      | [] => ([], .broken, feed)

/-- A mapping of one pair inside a flow sequence.  Where its key is empty, the token
that shows it is skipped too. -/
def readFlowPair : Nat → Feed → List (Node × Node) × Ending × Feed
  | 0, feed => ([], .broken, feed.stop)
  | fuel + 1, feed =>
      let isAbsent := endsFlowKey .flowSequenceEnd
      let (key, feed) :=
        if feed.nextIs isAbsent then (.empty, feed.skip)
        else readOptional fuel isAbsent false false feed
      let (value, feed) :=
        match feed.tokens with
        | .value :: _ =>
            readOptional fuel (endsFlowValue .flowSequenceEnd) false false feed.skip
        | [] => (.broken, feed)
        | _ => (.empty, feed)
      ([(key, value)], if feed.tokens.isEmpty then .broken else .closed, feed)

def readFlowMapping : Nat → Bool → Feed → List (Node × Node) × Ending × Feed
  | 0, _, feed => ([], .broken, feed.stop)
  | fuel + 1, first, feed =>
      match feed.tokens with
      | .flowMappingEnd :: _ => ([], .closed, feed.skip)
      | token :: _ =>
          if !first && token ≠ .flowEntry then ([], .broken, feed.stop)
          else
            let feed := if first then feed else feed.skip
            match feed.tokens with
            | .flowMappingEnd :: _ => ([], .closed, feed.skip)
            | .key :: _ =>
                let (key, feed) :=
                  readOptional fuel (endsFlowKey .flowMappingEnd) false false feed.skip
                let (value, feed) :=
                  match feed.tokens with
                  | .value :: _ =>
                      readOptional fuel (endsFlowValue .flowMappingEnd) false false feed.skip
                  | [] => (.broken, feed)
                  | _ => (.empty, feed)
                let (members, ending, feed) := readFlowMapping fuel false feed
                ((key, value) :: members, ending, feed)
            | _ =>
                let (key, feed) := readNode fuel false false feed
                let value := if feed.tokens.isEmpty then .broken else .empty
                let (members, ending, feed) := readFlowMapping fuel false feed
                ((key, value) :: members, ending, feed)
      | [] => ([], .broken, feed)

end

/-! ## Documents -/

def defaultHandles : List (String × Tag) :=
  [("!", .mark), ("!!", .standard)]

/-- The directives in front of a document: the declared handles, and what follows.
A document has at most one version, and it must be a known one. -/
def readDirectives (versioned : Bool) (handles : List (String × Tag)) :
    List Token → Option (List (String × Tag) × List Token)
  | .versionDirective major minor :: tokens =>
      if versioned || major ≠ 1 || (minor ≠ 1 && minor ≠ 2) then none
      else readDirectives true handles tokens
  | .tagDirective handle start :: tokens =>
      if (handles.lookup handle).isSome then none
      else readDirectives versioned ((handle, start) :: handles) tokens
  | tokens => some (handles, tokens)

def endsDocument : Token → Bool
  | .versionDirective _ _ | .tagDirective _ _ | .documentStart | .documentEnd | .streamEnd => true
  | _ => false

def isFinished (tokens : List Token) : Bool :=
  tokens.dropWhile (· = .documentEnd) = [.streamEnd]

namespace Document

/-- The tokens that a text has announced a document with, and the handles it may use;
none if no document begins. -/
def start (tokens : List Token) : Option (Bool × Feed) :=
  match tokens with
  | [] => none
  | token :: _ =>
      if token = .documentStart || token matches .versionDirective _ _ ||
          token matches .tagDirective _ _ then
        match readDirectives false [] tokens with
        | some (handles, .documentStart :: tokens) =>
            some (true, { tokens, handles := handles ++ defaultHandles })
        | _ => none
      else some (false, { tokens, handles := defaultHandles })

def ofTokens (tokens : List Token) : Document :=
  if tokens = [.streamEnd] then ⟨.void, true⟩
  else
    match start tokens with
    | none => ⟨.broken, false⟩
    | some (isExplicit, feed) =>
        let fuel := 2 * tokens.length + 4
        let isAbsent := if isExplicit then endsDocument else fun _ => false
        let (root, feed) := readOptional fuel isAbsent true false feed
        ⟨root, isFinished feed.tokens⟩

def ofText (text : String) : Document := ofTokens (tokens text)

end Document

end LearnerPersona.Yaml
