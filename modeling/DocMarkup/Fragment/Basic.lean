import DocMarkup.Xml.Content

/-!
# Fragments

A fragment is the markup of one documentation field as the renderer sees it: element and attribute
names are local, comments and instructions are gone, white space is kept.

Main definitions:

- {lit}`Fragment`: a forest with local names.
- {lit}`Fragment.ofContent`: a forest with its namespaces dropped.
- {lit}`Fragment.parse?`: the fragment that a text is.
-/

namespace DocMarkup

/-- A forest with local names. -/
abbrev Fragment := Forest Text

namespace Fragment

/-- Attributes under their local names. When two names have the same local part, the first keeps its
place and takes the last value. -/
def localAttributes (attributes : List (Xml.QName × Text)) : List (Text × Text) :=
  Assoc.ofList (attributes.map fun (name, value) => (name.localPart, value))

/-- A forest with its namespaces dropped. -/
def ofContent : Forest Xml.QName → Fragment
  | .nil => .nil
  | .text run rest => .text run (ofContent rest)
  | .element name attributes children rest =>
    .element name.localPart (localAttributes attributes) (ofContent children) (ofContent rest)

/-- The fragment that a text is; nothing when it is no well-formed content. -/
def parse? (raw : Text) : Option Fragment := (Xml.readContent? raw).map ofContent

end Fragment
end DocMarkup
