import DocMarkup.Url.Reference

/-!
# Relative addresses

A relative address is taken from a base: it replaces the last segment of the base's path, and its
dots lead up from there.

Main definitions:

- {lit}`Url.joinPaths`: a path taken from another one.
- {lit}`Url.join?`: an address taken from a base.
-/

namespace DocMarkup
namespace Url

/-- The segments of a relative path behind those of a base, without empty ones between the ends. -/
def appendSegments (base path : List Text) : List Text :=
  match (if base.getLast? = some [] then base else base.dropLast) ++ path with
  | [] => []
  | [segment] => [segment]
  | first :: rest => first :: (rest.dropLast.filter (· ≠ []) ++ [rest.getLast?.getD []])

/-- One segment after others; dots lead up or nowhere. -/
def followSegment (path : List Text) (segment : Text) : List Text :=
  if segment = "..".toList then path.dropLast
  else if segment = ['.'] then path
  else path ++ [segment]

/-- Segments with their dots followed; dots at the end leave a directory. -/
def resolveSegments (segments : List Text) : List Text :=
  let resolved := segments.foldl followSegment []
  if segments.getLast? = some ['.'] ∨ segments.getLast? = some "..".toList then resolved ++ [[]]
  else resolved

/-- A path taken from another one; an absolute one replaces it. -/
def joinPaths (base path : Text) : Text :=
  let segments := Path.cutAt '/' path
  let segments :=
    if path.head? = some '/' then segments else appendSegments (Path.cutAt '/' base) segments
  match ['/'].intercalate (resolveSegments segments) with
  | [] => ['/']
  | joined => joined

/-- The parts of an address of the same scheme taken from a base. -/
def joinParts (base u : Url) : Url :=
  let authority := if schemeHas (·.hasAuthority) u.scheme then base.authority else u.authority
  if u.path = [] ∧ u.parameters = [] then
    { u with
      authority, path := base.path, parameters := base.parameters,
      query := if u.query = [] then base.query else u.query }
  else { u with authority, path := joinPaths base.path u.path }

/-- An address taken from a base; nothing when one of the two has an unsound host. An address of
another scheme, or of a scheme without a hierarchy, stays as it is written. -/
def join? (base address : Text) : Option Text :=
  if base = [] then some address
  else if address = [] then some base
  else do
    let b ← parse? [] base
    let u ← parse? b.scheme address
    if u.scheme ≠ b.scheme ∨ !schemeHas (·.isHierarchical) u.scheme then some address
    else if schemeHas (·.hasAuthority) u.scheme ∧ u.authority ≠ [] then some u.print
    else some (joinParts b u).print

end Url
end DocMarkup
