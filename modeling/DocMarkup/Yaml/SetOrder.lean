import DocMarkup.Yaml.Value

/-!
# The order of sets

The members of a set stand in a table, at places that their hashes give. Numbers that are equal have
equal hashes, whatever their types. A set of numbers is written in the order of the table; what the
hashes of other members are is left open, and a set that has some keeps the order of its entries.

Main definitions:

- {lit}`Yaml.hash?`: the hash of a number.
- {lit}`Yaml.placeFor`: the place of a new member in a table.
- {lit}`Yaml.inSetOrder`: the members of a set in their order.
-/

namespace DocMarkup
namespace Yaml

/-! ## Hashes -/

/-- Hashes are remainders of this prime. -/
def hashModulus : Nat := Nat.pow 2 61 - 1

/-- A hash with a sign. The hash -1 is not in use. -/
def signedHash (negative : Bool) (n : Nat) : Int :=
  let hash : Int := if negative then -n else n
  if hash = -1 then -2 else hash

/-- The hash of a number of double precision. The power `2 ^ 61` leaves the remainder one, so that
powers of two repeat, also downwards. -/
def floatHash? : Binary64 → Option Int
  | .nan => none
  | .infinite negative => some (signedHash negative 314159)
  | .finite negative m exponent =>
    some (signedHash negative (m * Nat.pow 2 (exponent.emod 61).toNat % hashModulus))

/-- The hash of a number. -/
def hash? (v : Value) : Option Int :=
  match v.asInt?, v with
  | some n, _ => some (signedHash (n < 0) (n.natAbs % hashModulus))
  | none, .float x => floatHash? x
  | none, _ => none

/-! ## Places -/

/-- A table with members at some places. -/
abbrev SetTable := List (Option Value)

/-- How many places a table for some members has: a power of two. -/
def tableSize (count : Nat) : Nat := if count ≤ 4 then 8 else Nat.pow 2 ((2 * count).log2 + 1)

/-- How many places are tried one after the other from a place on. -/
def runLength (size place : Nat) : Nat := if place + 9 < size then 10 else 1

/-- The place of a new member: the first free one of a run, or else one of the run that begins where
a jump leads, for at most `fuel` jumps. A jump depends on what is left of the hash. -/
def placeFor (t : SetTable) : (fuel place left : Nat) → Nat
  | 0, place, _ => place
  | fuel + 1, place, left =>
    let run := (List.range (runLength t.length place)).map (place + ·)
    match run.find? fun p => (t[p]?.join).isNone with
    | some p => p
    | none => placeFor t fuel ((5 * place + 1 + left / 32) % t.length) (left / 32)

/-- The table with one more member. Nothing is left of a hash behind thirteen jumps, and further
ones lead to every place. -/
def addMember (t : SetTable) (v : Value) (hash : Int) : SetTable :=
  let left := (hash.emod (Nat.pow 2 64)).toNat
  t.set (placeFor t (t.length + 13) (left % t.length) left) (some v)

/-! ## Orders -/

/-- The members of a set in the order in which they are written. -/
def inSetOrder (members : List Value) : List Value :=
  match members.mapM fun v => (hash? v).map fun hash => (v, hash) with
  | none => members
  | some hashed =>
    let start : SetTable := List.replicate (tableSize members.length) none
    (hashed.foldl (fun t (v, hash) => addMember t v hash) start).filterMap id

end Yaml
end DocMarkup
