import ProjectLint.Text.Letter
import ProjectLint.Yaml.Kind

/-!
# Nodes

A document is made up of nodes: scalars, sequences of nodes, and mappings of nodes to nodes. Every
node has a kind. An alias stands for the very node that it names, so nodes are told apart by their
place among all nodes of the document and not by what they hold, and a node may be a part of itself.

## Main definitions

* `Yaml.Node`: a node, and `Yaml.NodeId`, its place.
* `Yaml.Document`: the nodes of a document, and the outermost one.
* `Yaml.Nodes.entries`, `Yaml.Nodes.setEntries`: reading and changing a mapping.
-/

namespace ProjectLint.Yaml

open Text (Letter)

/-- The place of a node among the nodes of its document. -/
abbrev NodeId := Nat

/-- A node of a document, with the places of its parts. -/
inductive Node
  | scalar (kind : Kind) (text : List Letter)
  | sequence (kind : Kind) (items : List NodeId)
  | mapping (kind : Kind) (entries : List (NodeId × NodeId))
  deriving DecidableEq, Repr

namespace Node

/-- The kind of a node. -/
def kind : Node → Kind
  | scalar k _ => k
  | sequence k _ => k
  | mapping k _ => k

/-- A node with another kind. -/
def withKind (k : Kind) : Node → Node
  | scalar _ text => scalar k text
  | sequence _ items => sequence k items
  | mapping _ entries => mapping k entries

/-- Whether a node is a mapping. -/
def isMapping : Node → Bool
  | mapping _ _ => true
  | _ => false

/-- The node for what is left out. -/
def absent : Node := .scalar (.ofPlain []) []

@[simp] theorem kind_absent : absent.kind = .null := rfl

@[simp] theorem kind_withKind (k : Kind) (n : Node) : (n.withKind k).kind = k := by
  cases n <;> rfl

end Node

/-- The nodes of a document, by their places. -/
abbrev Nodes := Array Node

namespace Nodes

/-- The kind of the node at a place. -/
def kind (ns : Nodes) (id : NodeId) : Kind := (ns[id]?.map Node.kind).getD .other

/-- Changes the kind of the node at a place. -/
def setKind (ns : Nodes) (id : NodeId) (k : Kind) : Nodes := ns.modify id (Node.withKind k)

/-- The entries of the mapping at a place; any other node has none. -/
def entries (ns : Nodes) (id : NodeId) : List (NodeId × NodeId) :=
  match ns[id]? with
  | some (.mapping _ es) => es
  | _ => []

/-- Changes the entries of the mapping at a place. -/
def setEntries (ns : Nodes) (id : NodeId) (es : List (NodeId × NodeId)) : Nodes :=
  ns.modify id fun
    | .mapping k _ => .mapping k es
    | n => n

end Nodes

/-- The nodes of a document, and the outermost one. -/
structure Document where
  nodes : Nodes
  root : NodeId
  deriving DecidableEq, Repr

end ProjectLint.Yaml
