import DocMarkup.Assoc
import DocMarkup.Yaml.Graph
import DocMarkup.Yaml.Token

/-!
# Readings of tokens

A document is read token by token. Each node that is met is put into the graph of the document and
may be named by an anchor, so that an alias behind it means the same node. A collection is there
before its parts, which may hence be aliases of it.

Main definitions:

- {lit}`Yaml.Reading`: where a reading stands.
- {lit}`Yaml.Parse`: a reading of tokens with its result.
- {lit}`Yaml.Parse.register`, {lit}`Yaml.Parse.collection`: a node put into the graph.
- {lit}`Yaml.Parse.lookup`: the node that an alias means.
-/

namespace DocMarkup
namespace Yaml

/-- Where a reading stands: the tokens to come, the fault behind them, if any, the handles of tags,
the anchors met, the graph, the collections whose parts are being read, and whether an alias of one
of them was among these parts. -/
structure Reading where
  tokens : List Token
  fault : Option Fault
  handles : List (Text × Text)
  anchors : List (Text × Nat)
  graph : Graph
  unfinished : List Nat
  isCyclic : Bool

/-- A reading of tokens. -/
abbrev Parse (α : Type) := Reading → Except Fault (α × Reading)

namespace Parse

/-- A value without reading. -/
def pure {α : Type} (a : α) : Parse α := fun r => .ok (a, r)

/-- One reading after another. -/
def bind {α β : Type} (p : Parse α) (f : α → Parse β) : Parse β := fun r =>
  match p r with
  | .ok (a, r) => f a r
  | .error e => .error e

instance : Monad Parse where
  pure := pure
  bind := bind

/-- The tokens are not those of a document. -/
def fail {α : Type} : Parse α := fun _ => .error .malformed

/-- The next token, which stays. There is always one, unless a fault stands in its place. -/
def peek : Parse Token := fun r =>
  match r.tokens with
  | t :: _ => .ok (t, r)
  | [] => .error (r.fault.getD .malformed)

/-- The next token passed over. -/
def skip : Parse Unit := fun r => .ok ((), { r with tokens := r.tokens.tail })

/-- The whole tag of a handle and a suffix. -/
def wholeTag (handle : Option Text) (suffix : Text) : Parse Text := fun r =>
  match handle with
  | none => .ok (suffix, r)
  | some handle =>
    match Assoc.get? handle r.handles with
    | some expansion => .ok (expansion ++ suffix, r)
    | none => .error .malformed

/-! ## Nodes and names -/

/-- A node put into the graph and named by an anchor; two anchors of one name are refused. -/
def register (anchor : Option Text) (n : Node) : Parse Nat := fun r =>
  let number := r.graph.size
  let r := { r with graph := r.graph.add n }
  match anchor with
  | none => .ok (number, r)
  | some name =>
    if (Assoc.get? name r.anchors).isSome then .error .malformed
    else .ok (number, { r with anchors := (name, number) :: r.anchors })

/-- A collection put into the graph, given the reading of its parts. -/
def collection {α : Type} (anchor : Option Text) (kind : Kind) (content : List α → Content)
    (parts : Parse (List α)) : Parse Nat := do
  let number ← register anchor ⟨kind, content []⟩
  enter number
  let parts ← parts
  leave number (content parts)
where
  /-- The parts of a collection begin. -/
  enter (number : Nat) : Parse Unit := fun r =>
    .ok ((), { r with unfinished := number :: r.unfinished })
  /-- The parts of a collection have been read. -/
  leave (number : Nat) (c : Content) : Parse Nat := fun r =>
    .ok (number, { r with
      graph := r.graph.setContent number c
      unfinished := r.unfinished.tail })

/-- The node that an alias means. -/
def lookup (name : Text) : Parse Nat := fun r =>
  match Assoc.get? name r.anchors with
  | none => .error .malformed
  | some number =>
    .ok (number, { r with isCyclic := r.isCyclic || r.unfinished.contains number })

end Parse
end Yaml
end DocMarkup
