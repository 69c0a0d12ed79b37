import DocMarkup.Link.Target
import DocMarkup.Render

/-!
# See-also links

Every see-also element of a fragment that lies in no other one is a link, at whatever depth it
stands. An address goes before a reference; an element with neither is left out.

Main definitions:

- {lit}`SeeAlso`: a link, with the rendering of its content when that is not empty.
- {lit}`seeAlsoElements`: the outermost see-also elements, in document order.
- {lit}`collectSeeAlsos`: the links of a fragment.
-/

namespace DocMarkup

/-- Whether a link is given by an address or by a reference to a symbol. -/
inductive LinkType where
  | href
  | cref
  deriving DecidableEq

/-- A see-also link. -/
structure SeeAlso where
  target : Text
  content : Option Text
  type : LinkType
  deriving DecidableEq

/-- A text unless it is empty. -/
def nonEmpty? (s : Text) : Option Text := if s = [] then none else some s

/-- The see-also elements that lie in no other one, in document order. -/
def seeAlsoElements : Fragment → List (Forest.Element Text)
  | .nil => []
  | .text _ rest => seeAlsoElements rest
  | .element tag attributes children rest =>
    if tag = "seealso".toList then ⟨tag, attributes, children⟩ :: seeAlsoElements rest
    else seeAlsoElements children ++ seeAlsoElements rest

/-- Where a see-also element leads. -/
def linkOf? (attributes : List (Text × Text)) : Option (Text × LinkType) :=
  match nonEmptyAttribute? attributes "href" with
  | some href => some (href, .href)
  | none => (nonEmptyAttribute? attributes "cref").map fun cref => (uidOf cref, .cref)

/-- The link of one see-also element. -/
def seeAlso? {ε : Type} (r : Resolvers ε) (e : Forest.Element Text) :
    Recorded ε (Option SeeAlso) :=
  match linkOf? e.attributes with
  | none => .pure none
  | some (target, type) => do
    let content ← formatFragment r e.children
    .pure (some ⟨target, nonEmpty? content, type⟩)

/-- The see-also links of a fragment. -/
def collectSeeAlsos {ε : Type} (r : Resolvers ε) (fragment : Fragment) :
    Recorded ε (List SeeAlso) :=
  (fun links => links.filterMap id) <$> Recorded.each (seeAlso? r) (seeAlsoElements fragment)

end DocMarkup
