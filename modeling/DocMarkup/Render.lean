import DocMarkup.Fragment.Basic
import DocMarkup.Fragment.Kind
import DocMarkup.Html.Basic
import DocMarkup.Link.Keyword
import DocMarkup.Region.Extract

/-!
# Rendering

A fragment is rendered node by node. What an element becomes is decided by its kind and attributes;
references, sources and keywords are put to resolvers, and every question is on record. Content
never makes rendering fail; only the resolver of sources may.

Main definitions:

- {lit}`Resolvers`: what a rendering may ask.
- {lit}`Parts`: the renderings of an element's children from which its own is chosen.
- {lit}`renderElement`: the rendering table.
- {lit}`renderNodes`: the rendering of each node of a fragment.
- {lit}`render`, {lit}`formatFragment`: the rendering of a fragment, and its spelling.
-/

namespace DocMarkup

/-! ## Resolvers -/

/-- What a rendering may ask. A symbol has a name and may have an address; a source may be missing
and the attempt to load it may fail; without a resolver of keywords the built-in links apply. -/
structure Resolvers (ε : Type) where
  reference : Option (Text → Text × Option Text)
  source : Option (Text → Recorded ε (Option Text))
  keyword : Option (Text → Option Text)

namespace Resolvers

variable {ε : Type}

/-- A question to the resolver of keywords, which is on record only when there is one. -/
def askKeyword (r : Resolvers ε) (word : Text) : Recorded ε (Option Text) :=
  match r.keyword with
  | none => .pure (Keyword.builtInLink? word)
  | some resolve => do
    .ask (.keyword word)
    .pure (resolve word)

/-- A question to the resolver of symbols. -/
def askReference (resolve : Text → Text × Option Text) (id : Text) :
    Recorded ε (Text × Option Text) := do
  .ask (.reference id)
  .pure (resolve id)

/-- The text of a source, cut to a region; nothing when no source is available. -/
def askSource (r : Resolvers ε) (id : Text) (region : Option Text) :
    Recorded ε (Option Text) :=
  match r.source with
  | none => .pure none
  | some load => do
    .ask (.source id)
    match ← load id with
    | none => .pure none
    | some code => some <$> Region.extract id region code

end Resolvers

/-! ## The rendering table -/

/-- The renderings of an element's children from which its own is chosen. -/
structure Parts (ε : Type) where
  /-- Whether the element has no children at all. -/
  isEmpty : Bool
  /-- Every child. -/
  whole : Unit → Recorded ε Html
  /-- The children that are list items, as list entries. -/
  items : Unit → Recorded ε Html
  /-- The children of the first list header, as the cells of a head. -/
  head : Unit → Recorded ε Html
  /-- The children that are list items, as cells. -/
  cells : Unit → Recorded ε Html

namespace Parts

variable {ε : Type}

/-- The children, or a text in their place when there are none. -/
def orText (parts : Parts ε) (fallback : Text) : Recorded ε Html :=
  if parts.isEmpty then .pure (.run fallback) else parts.whole ()

end Parts

section Table

variable {ε : Type} (r : Resolvers ε) (attributes : List (Text × Text)) (parts : Parts ε)

/-- The value of an attribute. -/
def attribute? (name : String) : Option Text := Assoc.get? name.toList attributes

/-- The value of an attribute unless it is empty. -/
def nonEmptyAttribute? (name : String) : Option Text :=
  (attribute? attributes name).filter (· ≠ [])

/-- The mark in front of a reference that could not be bound to a symbol. -/
def unboundMark : Text := "!:".toList

/-- A link when there is an address, and a marked span otherwise. -/
def linkOrSpan (linkClass spanClass : List (String × Text)) (address : Option Text)
    (content : Html) : Html :=
  match address with
  | none | some [] => .single "c" spanClass content
  | some href => .single "a" (linkClass ++ [("href", href)]) content

/-- A program listing: the children, or the text of the source that is named. -/
def renderCode : Recorded ε Html :=
  match attribute? attributes "source" with
  | none => do
    let content ← parts.whole ()
    .pure (.single "pre" [] (.single "code" [("class", "lang-csharp".toList)] content))
  | some source => do
    let code ← r.askSource source (attribute? attributes "region")
    .pure (.single "pre" [] (.single "code"
      [("class", "lang-".toList ++ Path.extension source)] (.text .escaped (code.getD []) .nil)))

/-- A table, a numbered list or a list with bullets. -/
def renderList : Recorded ε Html :=
  match attribute? attributes "type" with
  | some type =>
    if type = "table".toList then do
      let head ← parts.head ()
      let cells ← parts.cells ()
      .pure (.single "table" [] (head ++ .single "tbody" [] cells))
    else if type = "number".toList then (.single "ol" []) <$> parts.items ()
    else (.single "ul" []) <$> parts.items ()
  | none => (.single "ul" []) <$> parts.items ()

/-- A reference to a symbol: unbound ones show their text, and without a resolver there is
nothing. -/
def renderReference : Recorded ε Html :=
  let xref : List (String × Text) := [("class", "xref".toList)]
  match attribute? attributes "cref" with
  | none => .pure .nil
  | some cref =>
    match Text.after? unboundMark cref with
    | some remainder => (.single "c" xref) <$> parts.orText remainder
    | none =>
      match r.reference with
      | none => .pure .nil
      | some resolve => do
        let (name, address) ← Resolvers.askReference resolve cref
        linkOrSpan xref xref address <$> parts.orText name

/-- A link to an address, a keyword where keywords are recognized, or a reference to a symbol. -/
def renderSee (keywords : Bool) : Recorded ε Html :=
  match nonEmptyAttribute? attributes "href" with
  | some href => (.single "a" [("href", href)]) <$> parts.orText href
  | none =>
    match keywords, attribute? attributes "langword" with
    | true, some word => do
      let address ← r.askKeyword word
      linkOrSpan [] [] address <$> parts.orText word
    | _, _ => renderReference r attributes parts

/-- A note, headed by its type. -/
def renderNote : Recorded ε Html := do
  let type := (attribute? attributes "type").getD "note".toList
  let content ← parts.whole ()
  .pure (.single "div" [("class", type)] (.single "h5" [] (.run type) ++ content))

/-- What an element becomes. -/
def renderElement (tag : Text) : Recorded ε Html :=
  match Kind.of tag with
  | .para => (.single "p" []) <$> parts.whole ()
  | .code => renderCode r attributes parts
  | .term => (.single "span" [("class", "term".toList)]) <$> parts.whole ()
  | .description => parts.whole ()
  | .list => renderList attributes parts
  | .parameterReference =>
    (.single "c" []) <$>
      match attribute? attributes "name" with
      | none => parts.whole ()
      | some name => parts.orText name
  | .see => renderSee r attributes parts true
  | .seeAlso => renderSee r attributes parts false
  | .note => renderNote attributes parts
  | .unknown => (fun content => .element tag [] content .nil) <$> parts.whole ()

end Table

/-! ## Fragments -/

section Nodes

variable {ε : Type} (r : Resolvers ε)

mutual

/-- The rendering of each node of a fragment. -/
def renderNodes : Fragment → Recorded ε (List Html)
  | .nil => .pure []
  | .text run rest => do
    let others ← renderNodes rest
    .pure (.run run :: others)
  | .element tag attributes children rest => do
    let here ← renderElement r attributes
      { isEmpty := children.isEmpty
        whole := fun _ => Html.concat <$> renderNodes children
        items := fun _ => renderItems children
        head := fun _ => renderHead children
        cells := fun _ => renderCells children } tag
    let others ← renderNodes rest
    .pure (here :: others)

/-- The items among the children of a list, each an entry that holds the item. -/
def renderItems : Fragment → Recorded ε Html
  | .nil => .pure .nil
  | .text _ rest => renderItems rest
  | .element tag _ children rest =>
    if tag = "item".toList then do
      let content ← Html.concat <$> renderNodes children
      let others ← renderItems rest
      .pure (.single "li" [] (.element tag [] content .nil) ++ others)
    else renderItems rest

/-- The head of a table: each child of the first list header is a cell. -/
def renderHead : Fragment → Recorded ε Html
  | .nil => .pure .nil
  | .text _ rest => renderHead rest
  | .element tag _ children rest =>
    if tag = "listheader".toList then do
      let nodes ← renderNodes children
      .pure (.single "thead" [] (.single "tr" [] (.concat (nodes.map (.single "td" [])))))
    else renderHead rest

/-- The items among the children of a table, each a cell. -/
def renderCells : Fragment → Recorded ε Html
  | .nil => .pure .nil
  | .text _ rest => renderCells rest
  | .element tag _ children rest =>
    if tag = "item".toList then do
      let content ← Html.concat <$> renderNodes children
      let others ← renderCells rest
      .pure (.single "td" [] content ++ others)
    else renderCells rest

end

/-- The rendering of a fragment. -/
def render (fragment : Fragment) : Recorded ε Html := Html.concat <$> renderNodes r fragment

/-- The rendering of a fragment, spelled. -/
def formatFragment (fragment : Fragment) : Recorded ε Text := Html.print <$> render r fragment

end Nodes
end DocMarkup
