import DocMarkup.Forest
import DocMarkup.Xml.Event
import DocMarkup.Xml.Name

/-!
# Content

Content is the forest between two tags. Events are assembled from the last to the first: an end tag
opens a frame, the start tag that answers it closes the frame into an element. Then the raw names
are expanded from the root down.

Main definitions:

- {lit}`Xml.Assembly`: a forest under construction, with the elements that are still open to the
  left.
- {lit}`Xml.rawForest?`: the forest of a run of events, with raw names.
- {lit}`Xml.expand?`: the forest with expanded names.
- {lit}`Xml.readContent?`: the content that a text is.
-/

namespace DocMarkup
namespace Xml

/-! ## Assembly -/

/-- The forest of the innermost open element, and for every open element its name and what
follows. -/
structure Assembly where
  content : Forest Text
  enclosing : List (Text × Forest Text)

/-- One event put in front of what has been assembled. -/
def Assembly.put : Event → Assembly → Option Assembly
  | .text run, ⟨content, enclosing⟩ => some ⟨content.consChars run, enclosing⟩
  | .endTag name, ⟨content, enclosing⟩ => some ⟨.nil, (name, content) :: enclosing⟩
  | .startTag _ _, ⟨_, []⟩ => none
  | .startTag name attributes, ⟨content, (closing, after) :: enclosing⟩ =>
    if name = closing then some ⟨.element name attributes content after, enclosing⟩ else none

/-- A run of events put in front of what has been assembled, the last one first. -/
def Assembly.putAll (events : List Event) (assembly : Option Assembly) : Option Assembly :=
  events.foldr (fun event assembly => assembly.bind (Assembly.put event)) assembly

/-- The forest of a run of events in which every element is closed. -/
def rawForest? (events : List Event) : Option (Forest Text) :=
  match Assembly.putAll events (some ⟨.nil, []⟩) with
  | some ⟨content, []⟩ => some content
  | _ => none

/-! ## Expansion of names -/

/-- Whether no name occurs twice. -/
def areDistinct {ν : Type} [DecidableEq ν] (names : List ν) : Bool :=
  match names with
  | [] => true
  | name :: rest => !rest.contains name && areDistinct rest

/-- A forest with its raw names expanded under the bindings in scope. An attribute may occur neither
twice under one raw name nor twice under one expanded name. -/
def expand? (bindings : Bindings) : Forest Text → Option (Forest QName)
  | .nil => some .nil
  | .text run rest => (.text run ·) <$> expand? bindings rest
  | .element raw attributes children rest =>
    if areDistinct (attributes.map Prod.fst) then do
      let inner ← bindings.declare? attributes
      let name ← inner.elementName? raw
      let expanded ← inner.attributes? attributes
      if areDistinct (expanded.map Prod.fst) then
        let children ← expand? inner children
        let rest ← expand? bindings rest
        some (.element name expanded children rest)
      else none
    else none

/-! ## Reading -/

/-- The content that a text is when nothing is declared: what may stand between two tags. -/
def readContent? (s : Text) : Option (Forest QName) := do
  let tokens ← tokens? .standard s
  let events ← Declarations.none.events? tokens
  let raw ← rawForest? events
  expand? .initial raw

end Xml
end DocMarkup
