import Scaffold.Source.Yaml.Error
import Scaffold.Source.Yaml.Graph

/-!
# Merge keys

A merge key brings the entries of the mappings under it into its own mapping, in front of the
mapping's own entries, so that these win. `Graph.merged` carries this out: afterwards the mapping
has no merge key, and neither has any mapping whose entries came in. The change is to the graph, so
it shows wherever such a mapping stands.
-/

namespace Scaffold.Yaml.Graph

/-- The place of the first merge key among entries, with the node under it. -/
def firstMerge? (g : Graph) (entries : List (Nat × Nat)) : Option (Nat × Nat) :=
  match entries.findIdx? fun e => g.tag e.1 == .merge with
  | some i => (entries[i]?).map fun e => (i, e.2)
  | none => none

/-- The number of merge keys in all mappings. -/
def mergeCount (g : Graph) : Nat :=
  (g.nodes.toList.map fun node =>
    (node.entries.filter fun e => g.tag e.1 == .merge).length).foldr (· + ·) 0

/-- Makes the value keys of a mapping texts like any other. -/
def withPlainKeys (g : Graph) (n : Nat) : Graph :=
  (g.node n).entries.foldl (fun g e => if g.tag e.1 = .value then g.retag e.1 .text else g) g

/-- Takes the merge keys of a mapping away one by one; `brought` are the entries that have come in
so far. A sequence of mappings brings the entries of the last one first. Every round takes one merge
key out of the graph and puts none in, so that their number bounds the rounds. -/
def mergeFrom : Nat → List (Nat × Nat) → Nat → Graph → Except ReadError Graph
  | 0, _, _, _ => .error .invalid
  | fuel + 1, brought, n, g =>
    match g.firstMerge? (g.node n).entries with
    | none =>
      let g := g.withPlainKeys n
      .ok (g.putEntries n (brought ++ (g.node n).entries))
    | some (i, source) =>
      let g := g.putEntries n ((g.node n).entries.eraseIdx i)
      match g.node source with
      | .scalar _ _ => .error .invalid
      | .mapping _ _ => do
        let g ← mergeFrom fuel [] source g
        mergeFrom fuel (brought ++ (g.node source).entries) n g
      | .sequence _ items => do
        let (parts, g) ← items.foldlM (fun (parts, g) item =>
          if (g.node item).isMapping then
            (mergeFrom fuel [] item g).map fun g => ((g.node item).entries :: parts, g)
          else .error .invalid) ([], g)
        mergeFrom fuel (brought ++ parts.flatten) n g

/-- Carries out the merge keys of a mapping. -/
def merged (g : Graph) (n : Nat) : Except ReadError Graph :=
  mergeFrom (g.mergeCount + 1) [] n g

end Scaffold.Yaml.Graph
