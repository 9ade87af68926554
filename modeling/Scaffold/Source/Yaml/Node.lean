import Scaffold.Source.Yaml.Graph
import Scaffold.Source.Yaml.Token

/-!
# Nodes of a YAML text

`Graph.ofTokens` makes a graph of nodes of the tokens of a text with one document. An alias stands
for the node that its anchor names, also while that node is still being read. A text without a
document has no node. Tokens are asked for one at a time, and where they break off with a fault, the
fault counts only if nothing in front of it is refused.
-/

namespace Scaffold.Yaml

/-- What has been read: the tokens ahead, the nodes so far and the anchors of some of them. -/
structure Reading where
  tokens : Tokens
  /-- What the handles of tags stand for. -/
  handles : List (String × String)
  graph : Graph := {}
  anchors : List (String × Nat) := []
  /-- The number of collections around. -/
  depth : Nat := 0

/-- Something that is read: it takes in tokens and adds nodes, or fails. -/
abbrev Read := StateT Reading (Except ReadError)

namespace Read

def peek : Read Token := do
  let tokens := (← get).tokens
  match tokens.ahead with
  | t :: _ => return t
  | [] => throw tokens.fault

/-- Goes past a token. -/
def skip : Read Unit :=
  modify fun r => { r with tokens := { r.tokens with ahead := r.tokens.ahead.drop 1 } }

/-- Goes past a token that must come next. -/
def expect (t : Token) : Read Unit := do
  if (← peek) = t then skip else throw .invalid

/-- The node of an alias. -/
def aliased (name : String) : Read Nat := do
  match (← get).anchors.find? (·.1 == name) with
  | some (_, n) => return n
  | none => throw .invalid

def tagText (handle : Option String) (suffix : String) : Read String := do
  match handle with
  | none => return suffix
  | some h =>
    match (← get).handles.find? (·.1 == h) with
    | some (_, start) => return start ++ suffix
    | none => throw .invalid

/-- Adds a node with an anchor, if it has one; the name of an anchor must be new. -/
def add (anchor : Option String) (node : Node) : Read Nat := do
  let r ← get
  let (n, graph) := r.graph.add node
  match anchor with
  | none => set { r with graph := graph }
  | some name =>
    if r.anchors.any (·.1 == name) then throw .invalid
    set { r with graph := graph, anchors := (name, n) :: r.anchors }
  return n

/-- The most collections that may be around a node. -/
def maxDepth : Nat := 488

/-- Adds a collection and reads its parts, of which `make` makes it. -/
def collection {α : Type} (anchor : Option String) (make : List α → Node) (parts : Read (List α)) :
    Read Nat := do
  -- the node is there before its parts, which may refer to it
  let n ← add anchor (make [])
  if maxDepth ≤ (← get).depth then throw .tooDeep
  modify fun r => { r with depth := r.depth + 1 }
  let found ← parts
  modify fun r => { r with graph := r.graph.put n (make found), depth := r.depth - 1 }
  return n

end Read

/-- What stands in front of a node: its anchor and its tag. -/
structure Properties where
  anchor : Option String := none
  tag : Option String := none

/-- Reads what stands in front of a node, in either order. -/
def properties : Read Properties := do
  match ← Read.peek with
  | .anchor a =>
    Read.skip
    match ← Read.peek with
    | .tag h s =>
      Read.skip
      return ⟨some a, some (← Read.tagText h s)⟩
    | _ => return ⟨some a, none⟩
  | .tag h s =>
    Read.skip
    match ← Read.peek with
    | .anchor a =>
      Read.skip
      return ⟨some a, some (← Read.tagText h s)⟩
    | _ => return ⟨none, some (← Read.tagText h s)⟩
  | _ => return {}

namespace Properties

/-- Whether nothing stands in front. -/
def isEmpty (p : Properties) : Bool := p.anchor.isNone && p.tag.isNone

/-- The tag of a collection, without one the given tag. -/
def collectionTag (p : Properties) (default : Tag) : Tag :=
  match p.tag with
  | none => default
  | some t => if t = "!" then default else .ofText t

def scalarTag (p : Properties) (text : String) (isPlain : Bool) : Tag :=
  match p.tag with
  | none => if isPlain then .ofPlain text else .text
  | some t => if t = "!" then .ofPlain text else .ofText t

end Properties

/-- Where a node stands: inside brackets, in a block, or as the key or the value of a block's entry,
whose items need not be indented. -/
inductive Position where
  | flow
  | block
  | entry
deriving Repr, DecidableEq

/-- A node that consists of nothing but what stands in front of it. -/
def readNothing (p : Properties) : Read Nat :=
  if p.isEmpty then throw .invalid else Read.add p.anchor (.scalar (p.scalarTag "" true) "")

mutual

/-- Reads a node. The fuel bounds the number of nodes and entries still to be read. -/
def readNode : Nat → Position → Read Nat
  | 0, _ => throw .invalid
  | fuel + 1, position => do
    match ← Read.peek with
    | .alias name =>
      Read.skip
      Read.aliased name
    | _ =>
      let p ← properties
      readContent fuel position p

/-- Reads what a node with the given properties consists of. -/
def readContent : Nat → Position → Properties → Read Nat
  | 0, _, _ => throw .invalid
  | fuel + 1, position, p => do
    let sequenceOf (items : Read (List Nat)) : Read Nat :=
      Read.collection p.anchor (.sequence (p.collectionTag .sequence)) items
    let mappingOf (entries : Read (List (Nat × Nat))) : Read Nat :=
      Read.collection p.anchor (.mapping (p.collectionTag .mapping)) entries
    match ← Read.peek, position with
    | .blockEntry, .entry => sequenceOf (readEntryItems fuel)
    | .scalar text isPlain, _ =>
      Read.skip
      Read.add p.anchor (.scalar (p.scalarTag text isPlain) text)
    | .flowSequenceStart, _ =>
      Read.skip
      sequenceOf (readFlowItems fuel true)
    | .flowMappingStart, _ =>
      Read.skip
      mappingOf (readFlowEntries fuel true)
    | .blockSequenceStart, .flow => readNothing p
    | .blockSequenceStart, _ =>
      Read.skip
      sequenceOf (readBlockItems fuel)
    | .blockMappingStart, .flow => readNothing p
    | .blockMappingStart, _ =>
      Read.skip
      mappingOf (readBlockEntries fuel)
    | _, _ => readNothing p

/-- Reads a node, or nothing when one of the given tokens comes next. -/
def readUnless : Nat → Position → List Token → Read Nat
  | 0, _, _ => throw .invalid
  | fuel + 1, position, ends => do
    if ends.contains (← Read.peek) then Read.add none .empty else readNode fuel position

def readBlockItems : Nat → Read (List Nat)
  | 0 => throw .invalid
  | fuel + 1 => do
    if (← Read.peek) = .blockEntry then
      Read.skip
      let item ← readUnless fuel .block [.blockEntry, .blockEnd]
      return item :: (← readBlockItems fuel)
    else
      Read.expect .blockEnd
      return []

/-- Reads items that are not indented more than the key in front of them. -/
def readEntryItems : Nat → Read (List Nat)
  | 0 => throw .invalid
  | fuel + 1 => do
    if (← Read.peek) = .blockEntry then
      Read.skip
      let item ← readUnless fuel .block [.blockEntry, .key, .value, .blockEnd]
      return item :: (← readEntryItems fuel)
    else return []

/-- Reads a value of a block's entry; without a colon there is none. -/
def readBlockValue : Nat → Read Nat
  | 0 => throw .invalid
  | fuel + 1 => do
    if (← Read.peek) = .value then
      Read.skip
      readUnless fuel .entry [.key, .value, .blockEnd]
    else Read.add none .empty

def readBlockEntries : Nat → Read (List (Nat × Nat))
  | 0 => throw .invalid
  | fuel + 1 => do
    if (← Read.peek) = .key then
      Read.skip
      let key ← readUnless fuel .entry [.key, .value, .blockEnd]
      let value ← readBlockValue fuel
      return (key, value) :: (← readBlockEntries fuel)
    else
      Read.expect .blockEnd
      return []

/-- Reads the value behind a key between brackets; without a colon there is none. -/
def readFlowValue : Nat → Token → Read Nat
  | 0, _ => throw .invalid
  | fuel + 1, close => do
    if (← Read.peek) = .value then
      Read.skip
      readUnless fuel .flow [.flowEntry, close]
    else Read.add none .empty

/-- Reads an entry between brackets from the mark of its key on. -/
def readFlowEntry : Nat → Token → Read (Nat × Nat)
  | 0, _ => throw .invalid
  | fuel + 1, close => do
    Read.skip
    let key ← readUnless fuel .flow [.value, .flowEntry, close]
    return (key, ← readFlowValue fuel close)

/-- Reads the items between brackets; in front of all but the first one stands a comma. An entry
among them is a mapping by itself. -/
def readFlowItems : Nat → Bool → Read (List Nat)
  | 0, _ => throw .invalid
  | fuel + 1, first => do
    if !first && (← Read.peek) ≠ .flowSequenceEnd then Read.expect .flowEntry
    match ← Read.peek with
    | .flowSequenceEnd =>
      Read.skip
      return []
    | .key =>
      let item ← Read.collection none (.mapping .mapping)
        ((readFlowEntry fuel .flowSequenceEnd).map fun e => [e])
      return item :: (← readFlowItems fuel false)
    | _ =>
      let item ← readNode fuel .flow
      return item :: (← readFlowItems fuel false)

/-- Reads the entries between braces; in front of all but the first one stands a comma. -/
def readFlowEntries : Nat → Bool → Read (List (Nat × Nat))
  | 0, _ => throw .invalid
  | fuel + 1, first => do
    if !first && (← Read.peek) ≠ .flowMappingEnd then Read.expect .flowEntry
    match ← Read.peek with
    | .flowMappingEnd =>
      Read.skip
      return []
    | .key =>
      let entry ← readFlowEntry fuel .flowMappingEnd
      return entry :: (← readFlowEntries fuel false)
    | _ =>
      let key ← readNode fuel .flow
      let value ← Read.add none .empty
      return (key, value) :: (← readFlowEntries fuel false)

end

/-! ### Documents -/

/-- The handles that every document knows. -/
def commonHandles : List (String × String) := [("!", "!"), ("!!", tagStart)]

/-- The directives in front of a document: whether a version was given, and the handles. -/
structure Directives where
  versioned : Bool := false
  handles : List (String × String) := []

/-- The handles of a document with its directives: they come in front of the common ones. -/
def Directives.allHandles (d : Directives) : List (String × String) :=
  d.handles ++ commonHandles.filter fun h => !d.handles.any (·.1 == h.1)

/-- Reads the directives in front of a document. -/
def readDirectives (fault : ReadError) (d : Directives) :
    List Token → Except ReadError (Directives × List Token)
  | [] => .error fault
  | .version major :: rest =>
    if d.versioned || major ≠ 1 then .error .invalid
    else readDirectives fault { d with versioned := true } rest
  | .tagHandle h start :: rest =>
    if d.handles.any (·.1 == h) then .error .invalid
    else readDirectives fault { d with handles := (h, start) :: d.handles } rest
  | .directive :: rest => readDirectives fault d rest
  | tokens => .ok (d, tokens)

/-- Refuses everything but ends of documents. -/
def expectEnd (tokens : Tokens) : Except ReadError Unit := do
  match tokens.ahead.dropWhile (· == .documentEnd) with
  | [] => throw tokens.fault
  | .textEnd :: _ => return ()
  | other =>
    -- a second document is refused, but after a fault in its directives
    let _ ← readDirectives tokens.fault {} other
    throw .invalid

/-- Reads the node that a document consists of. -/
def readRoot (handles : List (String × String)) (tokens : Tokens) :
    Except ReadError (Nat × Graph) := do
  -- enough for each token to lead to four calls
  let fuel := 4 * tokens.ahead.length + 8
  let (n, r) ← (readNode fuel .block).run { tokens := tokens, handles := handles }
  expectEnd r.tokens
  return (n, r.graph)

/-- Whether a document that has started with a mark is over without a node. -/
def endsEmpty : Token → Bool
  | .version _ => true
  | .tagHandle _ _ => true
  | .directive => true
  | .documentStart => true
  | .documentEnd => true
  | .textEnd => true
  | _ => false

/-- Reads a document that starts with a mark, with the directives in front of it. -/
def readMarkedDocument (tokens : Tokens) : Except ReadError (Nat × Graph) := do
  match ← readDirectives tokens.fault {} tokens.ahead with
  -- the document is not empty before the token behind its mark is known
  | (_, .documentStart :: []) => throw tokens.fault
  | (d, .documentStart :: start :: rest) =>
    let content := { tokens with ahead := start :: rest }
    if endsEmpty start then
      expectEnd content
      return ({} : Graph).add .empty
    else readRoot d.allHandles content
  | _ => throw .invalid

/-- Makes a graph of the tokens of a text with at most one document; the result has the number of
the node that stands for the document. -/
def Graph.ofTokens (tokens : Tokens) : Except ReadError (Option (Nat × Graph)) :=
  match tokens.ahead with
  | [] => .error tokens.fault
  | .textEnd :: _ => .ok none
  | .version _ :: _ => (readMarkedDocument tokens).map some
  | .tagHandle _ _ :: _ => (readMarkedDocument tokens).map some
  | .directive :: _ => (readMarkedDocument tokens).map some
  | .documentStart :: _ => (readMarkedDocument tokens).map some
  | _ => (readRoot commonHandles tokens).map some

end Scaffold.Yaml
