/-!
# Insertion-ordered associations

A list of key and value pairs read as a mapping: a key keeps the place of its first entry, and a
later entry of the same key replaces the value there. Keys are compared by {lit}`==`, which for some
key types is coarser than equality.

Main definitions:

- {lit}`Assoc.get?`: the value of a key.
- {lit}`Assoc.insert`: a key set to a value.
- {lit}`Assoc.insertNew`: a key set unless it is present.
- {lit}`Assoc.ofList`: the mapping that a run of assignments leaves.
-/

namespace DocMarkup
namespace Assoc

variable {κ α : Type} [BEq κ]

/-- The value of a key. -/
def get? (key : κ) : List (κ × α) → Option α
  | [] => none
  | (k, v) :: rest => if k == key then some v else get? key rest

/-- Whether a key is present. -/
def contains (key : κ) (entries : List (κ × α)) : Bool := (get? key entries).isSome

/-- A key set to a value, at its first place when it is present and at the end otherwise. -/
def insert (key : κ) (value : α) : List (κ × α) → List (κ × α)
  | [] => [(key, value)]
  | (k, v) :: rest => if k == key then (k, value) :: rest else (k, v) :: insert key value rest

/-- A key set to a value unless it is present. -/
def insertNew (key : κ) (value : α) (entries : List (κ × α)) : List (κ × α) :=
  if contains key entries then entries else entries ++ [(key, value)]

/-- The assignments of `updates` applied in order. -/
def insertAll (entries updates : List (κ × α)) : List (κ × α) :=
  updates.foldl (fun entries entry => insert entry.1 entry.2 entries) entries

/-- The mapping that a run of assignments leaves. -/
def ofList (updates : List (κ × α)) : List (κ × α) := insertAll [] updates

/-- The distinct keys in the order of their first entry. -/
def distinct (keys : List κ) : List κ :=
  (ofList (keys.map fun key => (key, ()))).map Prod.fst

end Assoc
end DocMarkup
