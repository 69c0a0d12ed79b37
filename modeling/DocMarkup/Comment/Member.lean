import DocMarkup.Comment.Provider
import DocMarkup.Xml.Content
import DocMarkup.Xml.Writer

/-!
# Members

One member of a documentation file serves as a provider. A field is the inner markup of the first
outermost element of its name. Parameters, type parameters and exceptions are grouped by name and by
type; the rest is kept by tag.

Main definitions:

- {lit}`Member`: the grouped fields of a member.
- {lit}`Member.ofContent`: the fields of a member's content.
- {lit}`Member.parse?`: the fields of a member's markup.
- {lit}`Member.provider`: the provider that a member is.
-/

namespace DocMarkup

/-- The outermost elements of a member, each as its inner markup. -/
structure Member where
  fields : List (Text × Text)
  parameters : List (Text × Text)
  typeParameters : List (Text × Text)
  exceptions : List (Text × List Text)
  examples : List Text
  deriving DecidableEq

namespace Member

/-- A member without content. -/
def empty : Member := ⟨[], [], [], [], []⟩

/-- The value of an attribute without a namespace, unless it is empty. -/
def attribute? (e : Forest.Element Xml.QName) (name : String) : Option Text :=
  (Assoc.get? (⟨none, name.toList⟩ : Xml.QName) e.attributes).filter (· ≠ [])

/-- A text added to those of its group, which keeps the place of its first one. -/
def addToGroup (key text : Text) (groups : List (Text × List Text)) : List (Text × List Text) :=
  Assoc.insert key ((Assoc.get? key groups).getD [] ++ [text]) groups

/-- The fields with those of one more element. Of several elements of one name the first counts;
elements in a namespace are no fields. -/
def add (m : Member) (e : Forest.Element Xml.QName) : Member :=
  let text := Xml.writeContent e.children
  if e.name.space.isSome then m
  else if e.name.localPart = "example".toList then { m with examples := m.examples ++ [text] }
  else if e.name.localPart = "param".toList then
    match attribute? e "name" with
    | some name => { m with parameters := Assoc.insertNew name text m.parameters }
    | none => m
  else if e.name.localPart = "typeparam".toList then
    match attribute? e "name" with
    | some name => { m with typeParameters := Assoc.insertNew name text m.typeParameters }
    | none => m
  else if e.name.localPart = "exception".toList then
    match attribute? e "cref" with
    | some cref => { m with exceptions := addToGroup (uidOf cref) text m.exceptions }
    | none => m
  else { m with fields := Assoc.insertNew e.name.localPart text m.fields }

/-- The fields of a member's content. -/
def ofContent (content : Forest Xml.QName) : Member := content.elements.foldl add empty

/-- The fields of a member's markup; nothing when it is no well-formed content. -/
def parse? (raw : Text) : Option Member := (Xml.readContent? raw).map ofContent

/-- What is known outside a member: the targets of links by uid, and the declared names if any. -/
structure Surroundings where
  targets : List (Text × LinkTarget)
  parameterNames : Option (List Text)
  typeParameterNames : Option (List Text)

/-- The provider that a member is. Names that are not declared are taken from the documentation. -/
def provider (m : Member) (raw : Text) (s : Surroundings) : Provider where
  summary := Assoc.get? "summary".toList m.fields
  remarks := Assoc.get? "remarks".toList m.fields
  returns := Assoc.get? "returns".toList m.fields
  examples := m.examples
  parameterNames := s.parameterNames.getD (m.parameters.map Prod.fst)
  typeParameterNames := s.typeParameterNames.getD (m.typeParameters.map Prod.fst)
  exceptionTypes := m.exceptions.map Prod.fst
  full := raw
  parameterText name := Assoc.get? name m.parameters
  typeParameterText name := Assoc.get? name m.typeParameters
  exceptionTexts type := (Assoc.get? type m.exceptions).getD []
  lookup id := Assoc.get? (uidOf id) s.targets

end Member
end DocMarkup
