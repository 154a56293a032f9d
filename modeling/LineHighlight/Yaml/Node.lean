import LineHighlight.Yaml.Token

/-!
A YAML document as a tree.

A node may have a tag and an anchor, and a reference stands for an anchored node. Anchors are
numbered: one gets the number of names that are known when it is met. So the number of a name
that is given again may be given to another name later, and a number stands for the last node
that has it.
-/

namespace LineHighlight.Yaml

/-- What may be written in front of a node. -/
structure Properties where
  tag : Option Tag.Name := none
  anchor : Option Nat := none
deriving DecidableEq, Repr, Inhabited

/-- A node. -/
inductive Node where
  | scalar (properties : Properties) (text : String) (style : Style)
  | sequence (properties : Properties) (items : List Node)
  | mapping (properties : Properties) (entries : List (Node × Node))
  | reference (anchor : Nat)
deriving Repr, Inhabited

namespace Node

/-- The scalar that stands where nothing is written. -/
def empty : Node :=
  .scalar {} "" .plain

/-- What is written in front of a node. -/
def properties : Node → Properties
  | .scalar p _ _ => p
  | .sequence p _ => p
  | .mapping p _ => p
  | .reference _ => {}

mutual

/-- The nodes of a tree in the order of their starts. -/
def nodes : Node → List Node
  | .scalar p text style => [.scalar p text style]
  | .reference anchor => [.reference anchor]
  | .sequence p items => .sequence p items :: nodesOfItems items
  | .mapping p entries => .mapping p entries :: nodesOfEntries entries

/-- The nodes of a sequence's items. -/
def nodesOfItems : List Node → List Node
  | [] => []
  | n :: rest => nodes n ++ nodesOfItems rest

/-- The nodes of a mapping's keys and values. -/
def nodesOfEntries : List (Node × Node) → List Node
  | [] => []
  | (k, v) :: rest => nodes k ++ nodes v ++ nodesOfEntries rest

end

/-- The node that a number stands for in a tree. -/
def target? (root : Node) (anchor : Nat) : Option Node :=
  (root.nodes.filter fun n => n.properties.anchor == some anchor).getLast?

/-- A node itself, or the one in the tree that a reference stands for. -/
def follow (root : Node) : Node → Node
  | .reference anchor => (root.target? anchor).getD empty
  | n => n

end Node

/-- The tree of a document. -/
structure Document where
  /-- Absent if the text holds blanks and comments only. -/
  root : Option Node
deriving Repr, Inhabited

end LineHighlight.Yaml
