import DocMarkup.Assoc
import DocMarkup.Text.Basic

/-!
# Kinds of values

The kind of value that a node stands for, as its tag names it.

Main definitions:

- {lit}`Yaml.Kind`: the kinds.
- {lit}`Yaml.kindOfTag`: the kind that a tag names.
-/

namespace DocMarkup
namespace Yaml

/-- The kinds of values that tags name. {lit}`merge` and {lit}`defaultValue` mean something for keys
only. -/
inductive Kind where
  | null
  | bool
  | int
  | float
  | binary
  | moment
  | omap
  | pairs
  | set
  | str
  | seq
  | map
  | merge
  | defaultValue
  | unknown
  deriving DecidableEq

/-- The kinds by the last part of their tag. -/
def kindNames : List (Text × Kind) :=
  [("null".toList, .null), ("bool".toList, .bool), ("int".toList, .int), ("float".toList, .float),
   ("binary".toList, .binary), ("timestamp".toList, .moment), ("omap".toList, .omap),
   ("pairs".toList, .pairs), ("set".toList, .set), ("str".toList, .str), ("seq".toList, .seq),
   ("map".toList, .map), ("merge".toList, .merge), ("value".toList, .defaultValue)]

/-- The kind that a tag names. -/
def kindOfTag (name : Text) : Kind :=
  ((Text.after? "tag:yaml.org,2002:".toList name).bind (Assoc.get? · kindNames)).getD .unknown

end Yaml
end DocMarkup
