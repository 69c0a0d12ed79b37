import DocMarkup.Assoc
import DocMarkup.Yaml.Value

/-!
# Merging mappings

A mapping is laid over another one: where both have a mapping under a key, these are merged in turn,
and everywhere else the upper value replaces the lower one.

Main definitions:

- {lit}`Config.merge`: one mapping laid over another.
-/

namespace DocMarkup
namespace Config

open Yaml (Value)

/-- The entries of a mapping whose keys another one does not have. -/
def additions (base update : List (Value × Value)) : List (Value × Value) :=
  update.filter fun entry => !Assoc.contains entry.1 base

mutual

/-- A value laid over the one that stood in its place. -/
def mergeValue (new : Value) : Value → Value
  | .map base =>
    match new.entries? with
    | some update => .map (mergeEntries update base ++ additions base update)
    | none => new
  | _ => new

/-- The entries of `base` with what `update` lays over them. -/
def mergeEntries (update : List (Value × Value)) : List (Value × Value) → List (Value × Value)
  | [] => []
  | (key, old) :: rest =>
    (key, match Assoc.get? key update with
      | some new => mergeValue new old
      | none => old) :: mergeEntries update rest

end

/-- The entries of `update` laid over those of `base`; new keys stand at the end. -/
def merge (base update : List (Value × Value)) : List (Value × Value) :=
  mergeEntries update base ++ additions base update

end Config
end DocMarkup
