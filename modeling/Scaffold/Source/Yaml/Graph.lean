import Scaffold.Source.Yaml.Tag

/-!
# Graphs of nodes

The nodes of a text make up a graph, since an alias stands for the very node that its anchor names:
a node may stand at several places, and may even contain itself. So nodes have numbers, and a
collection holds the numbers of its parts.
-/

namespace Scaffold.Yaml

/-- A node with its tag; the parts of a collection are numbers of nodes. -/
inductive Node where
  | scalar (tag : Tag) (text : String)
  | sequence (tag : Tag) (items : List Nat)
  | mapping (tag : Tag) (entries : List (Nat × Nat))
deriving Repr, DecidableEq, Inhabited

namespace Node

def tag : Node → Tag
  | scalar tag _ => tag
  | sequence tag _ => tag
  | mapping tag _ => tag

/-- A node with another tag. -/
def retagged (t : Tag) : Node → Node
  | scalar _ text => scalar t text
  | sequence _ items => sequence t items
  | mapping _ entries => mapping t entries

/-- The entries of a mapping; other nodes have none. -/
def entries : Node → List (Nat × Nat)
  | mapping _ entries => entries
  | _ => []

def isMapping : Node → Bool
  | mapping _ _ => true
  | _ => false

/-- A node with nothing in the text. -/
def empty : Node := .scalar .null ""

end Node

/-- The nodes of a text by their numbers. -/
structure Graph where
  nodes : Array Node := #[]

namespace Graph

/-- The number of nodes. -/
def size (g : Graph) : Nat := g.nodes.size

def node (g : Graph) (n : Nat) : Node := g.nodes.getD n .empty

def tag (g : Graph) (n : Nat) : Tag := (g.node n).tag

/-- Adds a node, with the next number. -/
def add (g : Graph) (node : Node) : Nat × Graph := (g.nodes.size, ⟨g.nodes.push node⟩)

def put (g : Graph) (n : Nat) (node : Node) : Graph := ⟨g.nodes.setIfInBounds n node⟩

/-- Changes the tag of a node. -/
def retag (g : Graph) (n : Nat) (t : Tag) : Graph := g.put n ((g.node n).retagged t)

/-- Changes the entries of a mapping. -/
def putEntries (g : Graph) (n : Nat) (entries : List (Nat × Nat)) : Graph :=
  g.put n (.mapping (g.tag n) entries)

end Graph

end Scaffold.Yaml
