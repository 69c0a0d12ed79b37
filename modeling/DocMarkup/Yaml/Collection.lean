import DocMarkup.Yaml.MergeKey
import DocMarkup.Yaml.Schema
import DocMarkup.Yaml.SetOrder

/-!
# Collections

The values of a document are found layer by layer: scalars are read where they stand, while the
collections among the parts wait until every collection of the layers above has its parts. So a
fault of an outer layer is reported before those of the inner ones. A node that is met a second time
is what it was found to be the first time.

Main definitions:

- {lit}`Yaml.Part`: a scalar, or the number of a collection.
- {lit}`Yaml.Collection`: a collection with its parts.
- {lit}`Yaml.Filling`: how far the work has come.
- {lit}`Yaml.collectionOf`: a collection with its parts.
- {lit}`Yaml.fillAll`: all collections that some collections lead to.
-/

namespace DocMarkup
namespace Yaml

/-- A scalar with a number that tells it from others of the same value, or the number of a
collection. -/
inductive Part where
  | scalar (v : Value) (identity : Nat)
  | collection (number : Nat)

/-- A collection with its parts. -/
inductive Collection where
  | list (items : List Part)
  | pairs (items : List (Part × Part))
  | map (entries : List (Value × Part))
  | set (members : List Value)

/-! ## Scalars -/

/-- The text of a scalar. A mapping counts as the value of its key {lit}`=`. -/
def scalarText (g : Graph) : Nat → Nat → Except Fault Text
  | 0, _ => .error .endless
  | fuel + 1, n =>
    match g.content n with
    | .scalar text => .ok text
    | .sequence _ => .error .malformed
    | .mapping entries =>
      match entries.find? fun entry => g.kind entry.1 = .defaultValue with
      | some (_, value) => scalarText g fuel value
      | none => .error .malformed

/-- A day or a moment; only a scalar of its own can be one. -/
def momentPart (g : Graph) (n : Nat) (text : Text) : Except Fault Value :=
  match g.content n with
  | .scalar _ => momentOf text
  | _ => .error .momentCollection

/-- What tells a floating-point number from others. All that are spelled as {lit}`.nan` are one. -/
def identityOf (g : Graph) (n : Nat) (text : Text) : Nat :=
  if isNanSpelling text then g.size else n

/-- A node as a part. It must be of a known kind. -/
def partOfNode (g : Graph) (n : Nat) : Except Fault Part :=
  let scalar (read : Text → Except Fault Value) : Except Fault Part := do
    let text ← scalarText g (g.size + 1) n
    let v ← read text
    .ok (.scalar v (identityOf g n text))
  match g.kind n with
  | .null => scalar fun _ => .ok .null
  | .bool => scalar fun text => .bool <$> boolOf text
  | .int => scalar fun text => .int <$> intOf text
  | .float => scalar fun text => .float <$> floatOf text
  | .binary => scalar fun text => .bytes <$> bytesOf text
  | .moment => scalar (momentPart g n)
  | .str => scalar fun text => .ok (.str text)
  | .omap | .pairs | .set | .seq | .map => .ok (.collection n)
  | .merge | .defaultValue | .unknown => .error .malformed

/-! ## Parts -/

/-- How far the work has come: the graph with some of its mappings flattened, the parts that are
known, and the collections that wait, the last one first. -/
structure Filling where
  graph : Graph
  parts : Array (Option Part)
  waiting : List Nat

/-- A step of the work with its result. -/
abbrev Fill (α : Type) := StateT Filling (Except Fault) α

/-- The work on a graph before its first step. -/
def Filling.start (g : Graph) : Filling := ⟨g, Array.replicate g.size none, []⟩

/-- What the graph gives at this moment. -/
def ofGraph {α : Type} (f : Graph → Except Fault α) : Fill α := do
  StateT.lift (f (← get).graph)

/-- A node as a part. A collection that is met for the first time waits. -/
def partOf (n : Nat) : Fill Part := do
  let known := (← get).parts[n]?.join
  match known with
  | some part => return part
  | none =>
    let part ← ofGraph (partOfNode · n)
    modify fun f =>
      { f with
        parts := f.parts.setIfInBounds n (some part)
        waiting := match part with
          | .collection n => n :: f.waiting
          | .scalar _ _ => f.waiting }
    return part

/-- The collections that wait, which do so no more. -/
def takeWaiting : Fill (List Nat) := do
  let waiting := (← get).waiting.reverse
  modify fun f => { f with waiting := [] }
  return waiting

/-! ## Mappings -/

/-- Whether two numbers of double precision are none. -/
def areNan : Value → Value → Bool
  | .float .nan, .float .nan => true
  | _, _ => false

/-- An entry put into a mapping, in the place of an earlier one of the same key. What is no number
is the same key as itself only. -/
def putEntry {α : Type} (key : Value) (identity : Nat) (value : α) :
    List (Value × Nat × α) → List (Value × Nat × α)
  | [] => [(key, identity, value)]
  | (k, i, v) :: rest =>
    if k.sameKey key || (areNan k key && i == identity) then (k, i, value) :: rest
    else (k, i, v) :: putEntry key identity value rest

/-- The entries of a mapping, each key once. No collection can be a key. -/
def mappingEntries (n : Nat) : Fill (List (Value × Part)) := do
  let g ← ofGraph fun g => g.flatten n
  modify fun f => { f with graph := g }
  let nodes ← ofGraph fun g => g.entries n
  let entries ← nodes.foldlM (fun entries (key, value) => do
    match ← partOf key with
    | .collection _ => StateT.lift (.error .malformed)
    | .scalar key identity =>
      let part ← partOf value
      return putEntry key identity part entries) []
  return entries.map fun (key, _, part) => (key, part)

/-! ## Collections -/

/-- The parts of a mapping with one entry. -/
def pairOf (n : Nat) : Fill (Part × Part) := do
  match ← ofGraph fun g => g.entries n with
  | [(key, value)] => return (← partOf key, ← partOf value)
  | _ => StateT.lift (.error .malformed)

/-- A collection with its parts. -/
def collectionOf (n : Nat) : Fill Collection := do
  match (← get).graph.kind n with
  | .omap | .pairs => return .pairs (← (← ofGraph fun g => g.items n).mapM pairOf)
  | .set => return .set (inSetOrder ((← mappingEntries n).map Prod.fst))
  | .map => return .map (← mappingEntries n)
  | _ => return .list (← (← ofGraph fun g => g.items n).mapM partOf)

/-- Some collections and those that they lead to, layer by layer, each with its number. Every layer
takes at least one node. -/
def fillAll : Nat → List Nat → Fill (List (Nat × Collection))
  | 0, _ => return []
  | _, [] => return []
  | fuel + 1, layer => do
    let filled ← layer.mapM fun n => return (n, ← collectionOf n)
    let others ← fillAll fuel (← takeWaiting)
    return filled ++ others

/-- A node as a part, and all collections that it leads to. -/
def fill (g : Graph) (root : Nat) : Except Fault (Part × List (Nat × Collection)) := do
  let ((part, collections), _) ← (show Fill (Part × List (Nat × Collection)) from do
    let part ← partOf root
    return (part, ← fillAll (g.size + 1) (← takeWaiting))).run (.start g)
  .ok (part, collections)

end Yaml
end DocMarkup
