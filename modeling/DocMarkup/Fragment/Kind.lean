import DocMarkup.Assoc
import DocMarkup.Text.Basic

/-!
# Kinds of elements

The vocabulary of documentation comments is closed: every tag outside it is of the kind
{lit}`unknown` and passes through.

Main definitions:

- {lit}`Kind`: the kinds.
- {lit}`Kind.of`: the kind of a tag.
- {lit}`Kind.tag`: the tag that a kind is named for.
-/

namespace DocMarkup

/-- The kind of an element, which decides how it is rendered. -/
inductive Kind where
  | para
  | code
  | term
  | description
  | list
  | parameterReference
  | see
  | seeAlso
  | note
  | unknown
  deriving DecidableEq

namespace Kind

/-- The recognized tags. -/
def vocabulary : List (Text × Kind) :=
  [("para".toList, para), ("code".toList, code), ("term".toList, term),
   ("description".toList, description), ("list".toList, list),
   ("paramref".toList, parameterReference), ("typeparamref".toList, parameterReference),
   ("see".toList, see), ("seealso".toList, seeAlso), ("note".toList, note)]

/-- The kind of a tag; case matters. -/
def of (tag : Text) : Kind := (Assoc.get? tag vocabulary).getD unknown

/-- The first tag of a kind; empty for {lit}`unknown`. -/
def tag (kind : Kind) : Text :=
  ((vocabulary.find? fun entry => entry.2 = kind).map Prod.fst).getD []

end Kind
end DocMarkup
