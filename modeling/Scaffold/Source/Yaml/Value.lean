import Scaffold.Source.Yaml.Merge
import Scaffold.Source.Yaml.Node
import Scaffold.Source.Yaml.ScalarValue

/-!
# Values of YAML texts

`Graph.value` turns a graph of nodes into a value, and `read` does so with a whole text.

A node becomes one thing, wherever it stands. A scalar becomes a value at once, but a collection is
first made empty and then waits to be filled, behind those that were made before it. So a collection
may contain itself, and of several faults the one in the collection that was made first counts. When
nothing waits any more, `Contents.value` puts the contents into each other.
-/

namespace Scaffold.Yaml

/-! ### Contents -/

/-- The value of a scalar, with the number of its node. The number that is not a number has no
number of a node when it stands under its own name. -/
structure Leaf where
  value : Value
  source : Option Nat

/-- Whether two leaves are the same key of a map: those of one node are, whatever their value. -/
def Leaf.sameKey (a b : Leaf) : Bool := a.source == b.source || a.value.sameKey b.value

/-- What a node has become: a value, or a collection by the number of its content. -/
inductive Part where
  | leaf (l : Leaf)
  | collection (n : Nat)

/-- The content of a collection. -/
inductive Content where
  | list (items : List Part)
  | tuple (items : List Part)
  | map (entries : List (Leaf × Part))
  | set (items : List Leaf)
deriving Inhabited

/-- Adds an entry to a map: a key that is there keeps its place and its form, and gets the new
part. -/
def putPart (entries : List (Leaf × Part)) (key : Leaf) (part : Part) : List (Leaf × Part) :=
  match entries with
  | [] => [(key, part)]
  | (k, p) :: rest =>
    if k.sameKey key then (k, part) :: rest else (k, p) :: putPart rest key part

/-- The contents of collections by their numbers. -/
abbrev Contents := Array Content

namespace Contents

/-- What is known when a content has been turned into a value: the value, and the numbers of the
collections around that stand in it again. -/
structure Closed where
  value : Value
  around : List Nat := []

/-- The values of contents that have no collection around them in them. -/
abbrev Known := Array (Option Value)

/-- The value of a part, inside the collections with the given numbers. The fuel bounds how many
there may be. -/
def close (contents : Contents) : Nat → List Nat → Part → StateM Known Closed
  | _, _, .leaf l => pure ⟨l.value, []⟩
  | 0, _, .collection n => pure ⟨.again n, [n]⟩
  | fuel + 1, inside, .collection n => do
    if inside.contains n then return ⟨.again n, [n]⟩
    match ((← get)[n]?).join with
    | some v => return ⟨v, []⟩
    | none =>
      let deeper := close contents fuel (n :: inside)
      let closed : Closed ← match contents.getD n default with
        | .list items => do
          let parts ← items.mapM deeper
          pure ⟨.list (parts.map (·.value)), parts.flatMap (·.around)⟩
        | .tuple items => do
          let parts ← items.mapM deeper
          pure ⟨.tuple (parts.map (·.value)), parts.flatMap (·.around)⟩
        | .map entries => do
          let parts ← entries.mapM fun e => do return (e.1.value, ← deeper e.2)
          pure ⟨.map (parts.map fun p => (p.1, p.2.value)), parts.flatMap (·.2.around)⟩
        | .set items => pure ⟨.set (items.map (·.value)), []⟩
      -- a value that no cycle runs through is the same wherever it stands
      if closed.around.isEmpty then
        modify (·.setIfInBounds n (some closed.value))
        return closed
      else return ⟨.cyclic n closed.value, (closed.around.filter (· != n)).eraseDups⟩

def value (contents : Contents) (part : Part) : Value :=
  ((close contents (contents.size + 1) [] part).run
    (Array.replicate contents.size none)).1.value

end Contents

/-! ### Making and filling -/

/-- What has been made of a graph: what its nodes have become, the contents of collections, and the
collections that wait to be filled, as the number of the node and of the content. -/
structure Workshop where
  graph : Graph
  made : Array (Option Part)
  contents : Contents := #[]
  waiting : List (Nat × Nat) := []

/-- A step of the work, which may fail. -/
abbrev Work := StateT Workshop (Except ReadError)

namespace Work

/-- The text of a node that stands for a scalar; a mapping does by the first entry with a value
key. -/
def scalarText (g : Graph) : Nat → Nat → Except ReadError String
  | 0, _ => .error .tooDeep
  | fuel + 1, n =>
    match g.node n with
    | .scalar _ text => .ok text
    | .sequence _ _ => .error .invalid
    | .mapping _ entries =>
      match entries.find? fun e => g.tag e.1 == .value with
      | some e => scalarText g fuel e.2
      | none => .error .invalid

/-- The value of a node that must be a scalar. A mapping does not stand for a day or a moment. -/
def leaf (g : Graph) (n : Nat) : Except ReadError Leaf := do
  let text ← scalarText g (g.size + 1) n
  if g.tag n = .timestamp && (g.node n).isMapping then throw .timestampMapping
  let value ← scalarValue (g.tag n) text
  return ⟨value, if g.tag n = .float && isNanText text then none else some n⟩

/-- The empty content of a collection with a tag; other tags are those of scalars. -/
def emptyContent? : Tag → Option Content
  | .sequence => some (.list [])
  | .omap => some (.list [])
  | .pairs => some (.list [])
  | .mapping => some (.map [])
  | .set => some (.set [])
  | _ => none

/-- What a node becomes. -/
def make (n : Nat) : Work Part := do
  let w ← get
  match (w.made[n]?).join with
  | some part => return part
  | none =>
    match emptyContent? (w.graph.tag n) with
    | some content =>
      -- a collection is empty at first, so that it can come to be in itself
      let c := w.contents.size
      set { w with
        made := w.made.setIfInBounds n (some (.collection c))
        contents := w.contents.push content
        waiting := w.waiting ++ [(n, c)] }
      return .collection c
    | none =>
      let part := .leaf (← leaf w.graph n)
      set { w with made := w.made.setIfInBounds n (some part) }
      return part

/-- What a node becomes that stands as a key. Collections are no keys. -/
def makeKey (n : Nat) : Work Leaf := do
  match ← make n with
  | .leaf l => return l
  | .collection _ => throw .invalid

/-- What the nodes of items become. -/
def items (n : Nat) : Work (List Part) := do
  match (← get).graph.node n with
  | .sequence _ items => items.mapM make
  | _ => throw .invalid

/-- What the entries of a mapping become, with its merge keys carried out. -/
def entries (n : Nat) : Work (List (Leaf × Part)) := do
  if !((← get).graph.node n).isMapping then throw .invalid
  let graph ← (← get).graph.merged n
  modify fun w => { w with graph := graph }
  (graph.node n).entries.foldlM (fun found e => do
    let key ← makeKey e.1
    return putPart found key (← make e.2)) []

/-- What a mapping with one entry becomes as a pair. -/
def pair (n : Nat) : Work Part := do
  match ((← get).graph.node n).entries with
  | [(k, v)] =>
    let key ← make k
    let value ← make v
    let w ← get
    set { w with contents := w.contents.push (.tuple [key, value]) }
    return .collection w.contents.size
  | _ => throw .invalid

/-- The pairs that a sequence of mappings with one entry each becomes. -/
def pairs (n : Nat) : Work (List Part) := do
  match (← get).graph.node n with
  | .sequence _ items => items.mapM pair
  | _ => throw .invalid

/-- The content of a collection whose node is given. -/
def content (n : Nat) : Work Content := do
  match (← get).graph.tag n with
  | .sequence => return .list (← items n)
  | .mapping => return .map (← entries n)
  | .set => return .set ((← entries n).map (·.1))
  | _ => return .list (← pairs n)

/-- Fills the collections that wait. Every node waits at most once, so that the number of nodes
bounds the rounds. -/
def fill : Nat → Work Unit
  | 0 => return ()
  | fuel + 1 => do
    match (← get).waiting with
    | [] => return ()
    | (n, c) :: rest =>
      modify fun w => { w with waiting := rest }
      let found ← content n
      modify fun w => { w with contents := w.contents.setIfInBounds c found }
      fill fuel

/-- The value of a node with everything in it. -/
def value (root : Nat) : Work Value := do
  let part ← make root
  fill ((← get).graph.size + 1)
  return Contents.value (← get).contents part

end Work

def Graph.value (g : Graph) (root : Nat) : Except ReadError Value :=
  (Work.value root).run' { graph := g, made := Array.replicate g.size none }

/-- Reads a text whose lines end in line feeds. A text without a document is nothing. -/
def read (cs : List Char) : Except ReadError Value := do
  match ← Graph.ofTokens (Token.ofText cs) with
  | some (root, g) => g.value root
  | none => return .null

/-- Whether an escape in a text that is read spells half a character. -/
def spellsHalf (cs : List Char) : Bool := (Token.ofText cs).torn

end Scaffold.Yaml
