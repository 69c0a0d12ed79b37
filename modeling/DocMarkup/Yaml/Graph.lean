import DocMarkup.Text.Basic
import DocMarkup.Yaml.Fault
import DocMarkup.Yaml.Kind

/-!
# Graphs of nodes

A document is a graph of nodes, each with a number. A node is a scalar, a sequence or a mapping of
some kind, and the parts of a collection are nodes of the same graph. A node may be part of several
collections, and of itself.

Main definitions:

- {lit}`Yaml.Node`: the nodes.
- {lit}`Yaml.Graph`: the nodes by number.
- {lit}`Yaml.Graph.add`, {lit}`Yaml.Graph.setContent`: the graph with one more node, and with
  another content of a node.
- {lit}`Yaml.Graph.items`, {lit}`Yaml.Graph.entries`: the parts of a collection.
-/

namespace DocMarkup
namespace Yaml

/-- What a node consists of. Parts are given by their numbers. -/
inductive Content where
  | scalar (text : Text)
  | sequence (items : List Nat)
  | mapping (entries : List (Nat × Nat))

/-- A node of a document. -/
structure Node where
  kind : Kind
  content : Content

/-- The nodes of a document. The number of a node is its place in the list. -/
structure Graph where
  nodes : Array Node

namespace Graph

/-- The graph without nodes. -/
def empty : Graph := ⟨#[]⟩

/-- How many nodes there are. -/
def size (g : Graph) : Nat := g.nodes.size

/-- The graph with one more node, whose number is the size before. -/
def add (g : Graph) (n : Node) : Graph := ⟨g.nodes.push n⟩

/-- The kind of a node. -/
def kind (g : Graph) (n : Nat) : Kind := (g.nodes[n]?.map (·.kind)).getD .unknown

/-- The content of a node. -/
def content (g : Graph) (n : Nat) : Content := (g.nodes[n]?.map (·.content)).getD (.scalar [])

/-- The graph with another content of a node. -/
def setContent (g : Graph) (n : Nat) (c : Content) : Graph :=
  ⟨g.nodes.modify n fun node => { node with content := c }⟩

/-- The graph with another kind of a node. -/
def setKind (g : Graph) (n : Nat) (k : Kind) : Graph :=
  ⟨g.nodes.modify n fun node => { node with kind := k }⟩

/-- The items of a sequence. -/
def items (g : Graph) (n : Nat) : Except Fault (List Nat) :=
  match g.content n with
  | .sequence items => .ok items
  | _ => .error .malformed

/-- The entries of a mapping. -/
def entries (g : Graph) (n : Nat) : Except Fault (List (Nat × Nat)) :=
  match g.content n with
  | .mapping entries => .ok entries
  | _ => .error .malformed

end Graph
end Yaml
end DocMarkup
