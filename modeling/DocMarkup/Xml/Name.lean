import DocMarkup.Assoc
import DocMarkup.Text.Basic

/-!
# Expanded names

A name with an optional prefix stands for an expanded name: a local part and, when the prefix is
bound to one, a namespace. Bindings are declared by attributes of the element they begin at.

Main definitions:

- {lit}`Xml.QName`: a namespace and a local part.
- {lit}`Xml.QName.ofBraces`: the name written as a namespace in braces followed by the local part.
- {lit}`Xml.Bindings`: what each prefix stands for.
- {lit}`Xml.Bindings.declare?`: the bindings inside an element, given its attributes.
- {lit}`Xml.Bindings.elementName?`, {lit}`Xml.Bindings.attributeName?`: the names that they give.
-/

namespace DocMarkup
namespace Xml

/-- A local part in a namespace, or in none. -/
structure QName where
  space : Option Text
  localPart : Text
  deriving DecidableEq, Inhabited

/-- The name written with its namespace in braces; without a closing brace all of it is local. -/
def QName.ofBraces : Text → QName
  | '{' :: rest =>
    let localPart := (rest.reverse.takeWhile (· != '}')).reverse
    if localPart.length = rest.length then ⟨none, '{' :: rest⟩
    else ⟨some (rest.take (rest.length - localPart.length - 1)), localPart⟩
  | s => ⟨none, s⟩

/-- A namespace that is named by a host and a path. -/
def hostedSpace (host path : String) : Text :=
  "http:".toList ++ "//".toList ++ host.toList ++ '/' :: path.toList

/-- The namespace of the prefix `xml`. -/
def xmlSpace : Text := hostedSpace "www.w3.org" "XML/1998/namespace"

/-- The namespace of declarations, to which no prefix may be bound. -/
def declarationSpace : Text := hostedSpace "www.w3.org" "2000/xmlns/"

/-- The namespace of each prefix in scope, innermost first; the empty prefix is the default. -/
abbrev Bindings := List (Text × Text)

/-- Outside all elements only `xml` is bound. -/
def Bindings.initial : Bindings := [("xml".toList, xmlSpace)]

/-- A raw name cut at its colon; without one the prefix is absent. -/
def cutName (raw : Text) : Option Text × Text :=
  match raw.dropWhile (· != ':') with
  | [] => (none, raw)
  | _ :: localPart => (some (raw.takeWhile (· != ':')), localPart)

/-- The prefix that an attribute declares, the empty one for the default namespace. -/
def declaredPrefix? (raw : Text) : Option Text :=
  match cutName raw with
  | (none, localPart) => if localPart = "xmlns".toList then some [] else none
  | (some mark, localPart) => if mark = "xmlns".toList then some localPart else none

/-- Whether a prefix may be bound to a namespace. Only `xml` goes with its own namespace, `xmlns` is
never bound, a prefix is not unbound, and a closing brace cannot be part of a namespace. -/
def mayBind (prefixName space : Text) : Bool :=
  prefixName != "xmlns".toList && space != declarationSpace &&
    (prefixName == "xml".toList) == (space == xmlSpace) &&
    (prefixName.isEmpty || !space.isEmpty) && !space.contains '}'

/-- The bindings inside an element with these attributes. -/
def Bindings.declare? (bindings : Bindings) : List (Text × Text) → Option Bindings
  | [] => some bindings
  | (raw, value) :: rest =>
    match declaredPrefix? raw with
    | none => declare? bindings rest
    | some prefixName =>
      if mayBind prefixName value then declare? ((prefixName, value) :: bindings) rest else none

/-- The name of an element; one without a prefix is in the default namespace. -/
def Bindings.elementName? (bindings : Bindings) (raw : Text) : Option QName :=
  match cutName raw with
  | (some prefixName, localPart) =>
    (Assoc.get? prefixName bindings).map fun space => ⟨some space, localPart⟩
  | (none, localPart) =>
    match Assoc.get? [] bindings with
    | none => some ⟨none, localPart⟩
    | some space => some ⟨if space.isEmpty then none else some space, localPart⟩

/-- The name of an attribute; one without a prefix is in no namespace. -/
def Bindings.attributeName? (bindings : Bindings) (raw : Text) : Option QName :=
  match cutName raw with
  | (some prefixName, localPart) =>
    (Assoc.get? prefixName bindings).map fun space => ⟨some space, localPart⟩
  | (none, localPart) => some ⟨none, localPart⟩

/-- The expanded attributes of an element, its declarations left out. -/
def Bindings.attributes? (bindings : Bindings) : List (Text × Text) → Option (List (QName × Text))
  | [] => some []
  | (raw, value) :: rest =>
    if (declaredPrefix? raw).isSome then attributes? bindings rest
    else do
      let name ← bindings.attributeName? raw
      let others ← attributes? bindings rest
      some ((name, value) :: others)

end Xml
end DocMarkup
