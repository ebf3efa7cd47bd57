import LearnerPersona.Yaml.Token

/-!
# Nodes of YAML

A document is a node.  A text that is malformed has a node too: it holds what
precedes the fault and is broken there, so that a reader who goes from left to
right meets faults in their order.  An alias refers to its target by a number; the
target may be a collection that the alias is a part of, so it is looked up when it
is needed and not put in place.
-/

namespace LearnerPersona.Yaml

inductive Ending where
  | closed
  | broken
  deriving DecidableEq, Repr

structure Properties where
  anchor? : Option Nat := none
  tag? : Option Tag := none
  deriving DecidableEq, Repr

inductive Node where
  /-- The text has no content at all. -/
  | void
  | scalar (properties : Properties) (style : Style) (text : String)
  | sequence (properties : Properties) (items : List Node) (ending : Ending)
  | mapping (properties : Properties) (members : List (Node × Node)) (ending : Ending)
  | alias (target : Nat)
  /-- The text goes wrong where the node should be. -/
  | broken
  deriving Repr

namespace Node

def empty : Node := .scalar {} .plain ""

def anchor? : Node → Option Nat
  | .scalar properties _ _ => properties.anchor?
  | .sequence properties _ _ => properties.anchor?
  | .mapping properties _ _ => properties.anchor?
  | _ => none

/-! ## Anchors -/

def anchored (node : Node) : List (Nat × Node) :=
  node.anchor?.elim [] fun anchor => [(anchor, node)]

mutual

def anchors : Node → List (Nat × Node)
  | .sequence properties items ending =>
      (Node.sequence properties items ending).anchored ++ itemAnchors items
  | .mapping properties members ending =>
      (Node.mapping properties members ending).anchored ++ memberAnchors members
  | node => node.anchored

def itemAnchors : List Node → List (Nat × Node)
  | [] => []
  | item :: items => item.anchors ++ itemAnchors items

def memberAnchors : List (Node × Node) → List (Nat × Node)
  | [] => []
  | (key, value) :: members => key.anchors ++ value.anchors ++ memberAnchors members

end

/-! ## Size -/

def Ending.size : Ending → Nat
  | .closed => 1
  | .broken => 0

mutual

/-- The number of marks that a node consists of: one for a scalar or an alias, two
around a collection that is closed. -/
def size : Node → Nat
  | .broken => 0
  | .sequence _ items ending => 1 + itemsSize items + Ending.size ending
  | .mapping _ members ending => 1 + membersSize members + Ending.size ending
  | _ => 1

def itemsSize : List Node → Nat
  | [] => 0
  | item :: items => item.size + itemsSize items

def membersSize : List (Node × Node) → Nat
  | [] => 0
  | (key, value) :: members => key.size + value.size + membersSize members

end

end Node

structure Document where
  root : Node
  isWhole : Bool
  deriving Repr

/-! ## Aliases -/

structure Aliases where
  targets : List (Nat × Node)
  /-- How many aliases may be followed.  It bounds what aliases of aliases can blow up. -/
  limit : Nat
  deriving Repr

namespace Aliases

/-- The node that an alias refers to: of several with one number, the last. -/
def target (aliases : Aliases) (anchor : Nat) : Node :=
  (aliases.targets.lookup anchor).getD .broken

def resolve (aliases : Aliases) : Node → Node
  | .alias anchor => aliases.target anchor
  | node => node

end Aliases

/-- The aliases of a document: for each mark of it, a hundred may be followed. -/
def Document.aliases (document : Document) : Aliases where
  targets := document.root.anchors.reverse
  limit := 100 * document.root.size

end LearnerPersona.Yaml
