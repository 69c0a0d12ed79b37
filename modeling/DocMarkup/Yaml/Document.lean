import DocMarkup.Yaml.Collection
import DocMarkup.Yaml.Node

/-!
# Documents

A text that holds at most one document stands for the value of its outermost node, and for null when
it holds none. The value of a document in which a collection holds itself has a loop for every
collection.

Main definitions:

- {lit}`Yaml.isPrintable`: the characters of documents.
- {lit}`Yaml.Collections.value`: the value that a collection stands for.
- {lit}`Yaml.meaning`: the value of a document.
- {lit}`Yaml.read`: the value of a text.
-/

namespace DocMarkup
namespace Yaml

/-- A character that a document may hold. -/
def isPrintable (c : Char) : Bool :=
  let n := c.toNat
  n == 0x9 || n == 0xA || n == 0xD || (0x20 ≤ n && n ≤ 0x7E) || n == 0x85 ||
    (0xA0 ≤ n && n ≤ 0xFFFD) || 0x10000 ≤ n

/-! ## Values of collections -/

/-- The collections of a document by number, and whether one of them holds itself. -/
structure Collections where
  byNumber : Array (Option Collection)
  isCyclic : Bool

namespace Collections

/-- The collections of a list, whose numbers are below a bound. -/
def ofList (bound : Nat) (isCyclic : Bool) (collections : List (Nat × Collection)) :
    Collections where
  byNumber := collections.foldl (fun a entry => a.setIfInBounds entry.1 (some entry.2))
    (Array.replicate bound none)
  isCyclic := isCyclic

/-- The collection of a number. -/
def numbered (cs : Collections) (n : Nat) : Collection := (cs.byNumber[n]?.join).getD (.list [])

/-- Whether the collection of a number is a mapping. -/
def isMapping (cs : Collections) (n : Nat) : Bool :=
  match cs.numbered n with
  | .map _ => true
  | _ => false

/-- The value of a part inside some collections, given the values that are known. Without cycles
the value of a collection is the same wherever it stands and is found once. -/
def value (cs : Collections) : Nat → List Nat → Part → StateM (Array (Option Value)) Value
  | _, _, .scalar v _ => return v
  | 0, _, .collection n => return .again n (cs.isMapping n)
  | fuel + 1, above, .collection n => do
    if above.contains n then return .again n (cs.isMapping n)
    match (← get)[n]?.join with
    | some v => return v
    | none =>
      let part := value cs fuel (n :: above)
      let v ← match cs.numbered n with
        | .list items => Value.list <$> items.mapM part
        | .pairs items => Value.list <$> items.mapM fun (first, second) => do
            return .pair (← part first) (← part second)
        | .map entries => Value.map <$> entries.mapM fun (key, value) => do
            return (key, ← part value)
        | .set members => pure (.set members)
      if cs.isCyclic then return .loop n v
      else
        modify fun known => known.setIfInBounds n (some v)
        return v

end Collections

/-- The value of a document. No part stands inside more collections than there are. -/
def meaning (d : Document) : Except Fault Value := do
  let (root, collections) ← fill d.graph d.root
  let cs := Collections.ofList d.graph.size d.isCyclic collections
  .ok (cs.value (d.graph.size + 1) [] root (Array.replicate d.graph.size none)).1

/-- The value of a text that holds one document at most. -/
def read (s : Text) : Except Fault Value :=
  if s.all isPrintable then do
    match ← documentOf? s with
    | none => .ok .null
    | some d => meaning d
  else .error .malformed

end Yaml
end DocMarkup
