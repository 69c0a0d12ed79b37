import DocMarkup.Yaml.Graph

/-!
# Merge keys

Under the key {lit}`<<` a mapping takes over the entries of another one, or of a sequence of them.
It is flattened when they stand in front of its own entries and the key is gone. What is taken over
is flattened before; a mapping that takes over itself takes what it holds at that moment.

Main definitions:

- {lit}`Yaml.Graph.cutMerge?`: the first merge key among some entries.
- {lit}`Yaml.Graph.flatten`: the graph with a mapping flattened.
-/

namespace DocMarkup
namespace Yaml
namespace Graph

/-- The value under the first merge key, and the other entries. -/
def cutMerge? (g : Graph) : List (Nat × Nat) → Option (Nat × List (Nat × Nat))
  | [] => none
  | (key, value) :: rest =>
    if g.kind key = .merge then some (value, rest)
    else (g.cutMerge? rest).map fun (source, rest) => (source, (key, value) :: rest)

/-- How many merge keys there are. -/
def mergeCount (g : Graph) : Nat :=
  (g.nodes.toList.flatMap fun node =>
    match node.content with
    | .mapping entries => entries.filter fun entry => g.kind entry.1 = .merge
    | _ => []).length

/-- The graph in which the keys {lit}`=` of some entries are text. -/
def settleKeys (g : Graph) (entries : List (Nat × Nat)) : Graph :=
  entries.foldl (fun g entry =>
    if g.kind entry.1 = .defaultValue then g.setKind entry.1 .str else g) g

/-- The entries that a mapping takes over from a node, given how a mapping is flattened. Of a
sequence the last mapping comes first. -/
def takenFrom (flatten : Graph → Nat → Except Fault Graph) (g : Graph) (source : Nat) :
    Except Fault (Graph × List (Nat × Nat)) :=
  match g.content source with
  | .sequence items =>
    items.foldlM (fun (g, taken) item => do
      let g ← flatten g item
      .ok (g, (← g.entries item) ++ taken)) (g, [])
  | _ => do
    let g ← flatten g source
    .ok (g, ← g.entries source)

/-- The graph with a mapping flattened, when it has fewer merge keys than the fuel. -/
def flattenWithin : Nat → Graph → Nat → Except Fault Graph
  | 0, _, _ => .error .malformed
  | fuel + 1, g, n => do
    let entries ← g.entries n
    match g.cutMerge? entries with
    | none => .ok (g.settleKeys entries)
    | some (source, rest) =>
      let (g, taken) ← takenFrom (flattenWithin fuel) (g.setContent n (.mapping rest)) source
      let g ← flattenWithin fuel g n
      .ok (g.setContent n (.mapping (taken ++ (← g.entries n))))

/-- The graph with a mapping flattened. -/
def flatten (g : Graph) (n : Nat) : Except Fault Graph := flattenWithin (g.mergeCount + 1) g n

end Graph
end Yaml
end DocMarkup
