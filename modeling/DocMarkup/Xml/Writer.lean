import DocMarkup.Forest
import DocMarkup.Xml.Name

/-!
# Written elements

An element is written out on its own, with every namespace that it or its descendants use declared
in its start tag. Prefixes are those customary for a few well-known namespaces, and numbered ones in
the order of first use for the others.

Main definitions:

- {lit}`Xml.Prefixes`: the prefix of each namespace in use.
- {lit}`Xml.escapeRun`, {lit}`Xml.escapeValue`: text and attribute values as written.
- {lit}`Xml.writeContent`: a forest, each outermost element with its own declarations.
-/

namespace DocMarkup
namespace Xml

/-! ## Escapes -/

/-- A character of a run of text as written. -/
def escapeRunChar (c : Char) : Text :=
  if c = '&' then "&amp;".toList
  else if c = '<' then "&lt;".toList
  else if c = '>' then "&gt;".toList
  else [c]

/-- A run of text as written. -/
def escapeRun (s : Text) : Text := s.flatMap escapeRunChar

/-- A character of an attribute value as written; white space other than the space goes by
number. -/
def escapeValueChar (c : Char) : Text :=
  if c = '"' then "&quot;".toList
  else if c = '\r' then "&#13;".toList
  else if c = '\n' then "&#10;".toList
  else if c = '\t' then "&#09;".toList
  else escapeRunChar c

/-- An attribute value as written between its quotes. -/
def escapeValue (s : Text) : Text := s.flatMap escapeValueChar

/-! ## Prefixes -/

/-- The namespaces with a customary prefix. -/
def customaryPrefixes : List (Text × Text) :=
  [(hostedSpace "www.w3.org" "1999/xhtml", "html".toList),
   (hostedSpace "www.w3.org" "1999/02/22-rdf-syntax-ns#", "rdf".toList),
   (hostedSpace "schemas.xmlsoap.org" "wsdl/", "wsdl".toList),
   (hostedSpace "www.w3.org" "2001/XMLSchema", "xs".toList),
   (hostedSpace "www.w3.org" "2001/XMLSchema-instance", "xsi".toList),
   (hostedSpace "purl.org" "dc/elements/1.1/", "dc".toList)]

/-- The prefix of each namespace in use, in the order of first use. -/
abbrev Prefixes := List (Text × Text)

/-- The prefixes with one for the namespace of a name. The namespace of `xml` needs none. -/
def Prefixes.add (prefixes : Prefixes) (name : QName) : Prefixes :=
  match name.space with
  | none => prefixes
  | some space =>
    if space = xmlSpace then prefixes
    else
      Assoc.insertNew space
        ((Assoc.get? space customaryPrefixes).getD ("ns".toList ++ Text.ofNat prefixes.length))
        prefixes

/-- The names of a forest: an element, its attributes, its children, its later siblings. -/
def names : Forest QName → List QName
  | .nil => []
  | .text _ rest => names rest
  | .element name attributes children rest =>
    name :: attributes.map Prod.fst ++ (names children ++ names rest)

/-- The prefixes for the names of a forest. -/
def Prefixes.of (f : Forest QName) : Prefixes := (names f).foldl Prefixes.add []

/-- A name as written. -/
def Prefixes.write (prefixes : Prefixes) (name : QName) : Text :=
  match name.space with
  | none => name.localPart
  | some space =>
    if space = xmlSpace then "xml:".toList ++ name.localPart
    else (Assoc.get? space prefixes).getD [] ++ ':' :: name.localPart

/-- Whether a text comes before another or is equal, by code points. -/
def precedes : Text → Text → Bool
  | [], _ => true
  | _ :: _, [] => false
  | a :: s, b :: t => if a = b then precedes s t else a.toNat < b.toNat

/-- The declarations of the prefixes, sorted by prefix. -/
def Prefixes.declarations (prefixes : Prefixes) : Text :=
  (prefixes.mergeSort fun a b => precedes a.2 b.2).flatMap fun (space, prefixName) =>
    " xmlns:".toList ++ prefixName ++ "=\"".toList ++ escapeValue space ++ ['"']

/-! ## Elements -/

/-- Attributes as written. -/
def writeAttributes (prefixes : Prefixes) (attributes : List (QName × Text)) : Text :=
  attributes.flatMap fun (name, value) =>
    ' ' :: prefixes.write name ++ "=\"".toList ++ escapeValue value ++ ['"']

/-- An element without its content: the start of its first tag and the rest of it. Without content
it is a single tag. -/
def writeElement (prefixes : Prefixes) (declarations : Text) (name : QName)
    (attributes : List (QName × Text)) (isEmpty : Bool) (content : Text) : Text :=
  '<' :: prefixes.write name ++ declarations ++ writeAttributes prefixes attributes ++
    (if isEmpty then " />".toList
     else '>' :: content ++ "</".toList ++ prefixes.write name ++ ['>'])

/-- A forest inside an element that has declared the prefixes. -/
def writeWithin (prefixes : Prefixes) : Forest QName → Text
  | .nil => []
  | .text run rest => escapeRun run ++ writeWithin prefixes rest
  | .element name attributes children rest =>
    writeElement prefixes [] name attributes children.isEmpty (writeWithin prefixes children) ++
      writeWithin prefixes rest

/-- A forest in which every outermost element declares the prefixes that it needs. -/
def writeContent : Forest QName → Text
  | .nil => []
  | .text run rest => escapeRun run ++ writeContent rest
  | .element name attributes children rest =>
    let prefixes := Prefixes.of (.element name attributes children .nil)
    writeElement prefixes prefixes.declarations name attributes children.isEmpty
      (writeWithin prefixes children) ++ writeContent rest

end Xml
end DocMarkup
