import CodeHighlight.Yaml.Tag

/-!
# Nodes of a data text

The nodes that a text writes, before its scalars are read as values. Each node of a document has a
number, and collections hold their nodes by number: a node with a name may stand in several places,
even inside itself.
-/

namespace CodeHighlight.Yaml

/-- What a node holds: characters, or other nodes by their numbers. -/
inductive Content where
  | scalar (text : List Char)
  | sequence (items : List Nat)
  | mapping (pairs : List (Nat × Nat))
deriving Repr

/-- A node. -/
structure Node where
  tag : Tag
  content : Content
deriving Repr

/-- Nodes by their numbers. -/
abbrev Nodes := Array Node

namespace Nodes

/-- The tag of a node. -/
def tag? (nodes : Nodes) (number : Nat) : Option Tag := nodes[number]?.map Node.tag

/-- What a node holds. -/
def content? (nodes : Nodes) (number : Nat) : Option Content := nodes[number]?.map Node.content

/-- The entries of a mapping; another node has none. -/
def pairs (nodes : Nodes) (number : Nat) : List (Nat × Nat) :=
  match nodes.content? number with
  | some (.mapping pairs) => pairs
  | _ => []

/-- Lets a node hold something else. -/
def fill (nodes : Nodes) (number : Nat) (content : Content) : Nodes :=
  nodes.modify number fun node => { node with content }

/-- Gives a node another tag. -/
def retag (nodes : Nodes) (number : Nat) (tag : Tag) : Nodes :=
  nodes.modify number fun node => { node with tag }

end Nodes

/-- A document: its nodes, and the number of the one that all others lie in. -/
structure Document where
  nodes : Nodes
  root : Nat
deriving Repr

end CodeHighlight.Yaml
