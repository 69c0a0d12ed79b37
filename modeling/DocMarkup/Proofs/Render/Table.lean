import DocMarkup.Proofs.Html.Grammar
import DocMarkup.Proofs.Region.Missing
import DocMarkup.Render

/-!
# The rendering table

The table says what each element becomes, given what each of its children becomes and what the
resolvers answer. It knows nothing of questions, escapes and spelling.

Main definitions:

- {lit}`Answers`: what the resolvers answer.
- {lit}`Table.Shown`: what a node becomes, together with what each of its children becomes.
- {lit}`Table.row`: what an element becomes.
- {lit}`Table.forest`: what a fragment becomes.
- {lit}`Resolvers.NeverFails`: resolvers that always answer.

Main results:

- Theorems {lit}`Resolvers.NeverFails.askSource` and {lit}`Resolvers.outcome_askKeyword`: what is
  asked is answered.
-/

namespace DocMarkup

/-- What the resolvers answer: the name and address of a symbol, the text of a source cut to a
region, and the address of a keyword. -/
structure Answers where
  reference : Option (Text → Text × Option Text)
  source : Text → Option Text → Text
  keyword : Text → Option Text

namespace Table

/-! ## Rows -/

/-- What a node becomes, together with its tag and with what each of its children becomes. -/
structure Shown where
  tag : Option Text
  inside : List (Forest Text)
  whole : Forest Text

/-- Forests side by side, with the text that meets joined. -/
def join (forests : List (Forest Text)) : Forest Text := forests.foldr Forest.meet .nil

/-- A run of text. -/
def chars (run : Text) : Forest Text := Forest.nil.consChars run

/-- An element alone. -/
def single (tag : String) (attributes : List (String × Text)) (children : Forest Text) :
    Forest Text :=
  .element tag.toList (attributes.map fun (name, value) => (name.toList, value)) children .nil

/-- What all the children become. -/
def whole (children : List Shown) : Forest Text := join (children.map Shown.whole)

/-- What all the children become, or a text in their place when there are none. -/
def orText (children : List Shown) (fallback : Text) : Forest Text :=
  if children.isEmpty then chars fallback else whole children

/-- The children that are list items. -/
def items (children : List Shown) : List Shown :=
  children.filter fun child => child.tag = some "item".toList

/-- The items of a list as its entries. -/
def entries (children : List Shown) : Forest Text :=
  join ((items children).map fun item => single "li" [] item.whole)

/-- The items of a table as its cells. -/
def cells (children : List Shown) : Forest Text :=
  join ((items children).map fun item => single "td" [] (join item.inside))

/-- A link when there is an address that is not empty. -/
def link (classes : List (String × Text)) (address : Option Text) (content : Forest Text) :
    Forest Text :=
  match address.filter (· ≠ []) with
  | some href => single "a" (classes ++ [("href", href)]) content
  | none => single "c" classes content

/-- The head of a table: a cell for each node of the first list header. -/
def head (children : List Shown) : Forest Text :=
  match children.find? fun child => child.tag = some "listheader".toList with
  | some header => single "thead" [] (single "tr" [] (join (header.inside.map (single "td" []))))
  | none => .nil

/-- A node that is no item is no entry. -/
theorem entries_cons_of_ne {node : Shown} (hnode : node.tag ≠ some "item".toList)
    (others : List Shown) : entries (node :: others) = entries others := by
  simp only [entries, items, List.filter_cons, hnode, decide_false, Bool.false_eq_true, if_false]

/-- A node that is no item is no cell. -/
theorem cells_cons_of_ne {node : Shown} (hnode : node.tag ≠ some "item".toList)
    (others : List Shown) : cells (node :: others) = cells others := by
  simp only [cells, items, List.filter_cons, hnode, decide_false, Bool.false_eq_true, if_false]

/-- A node that is no list header heads no table. -/
theorem head_cons_of_ne {node : Shown} (hnode : node.tag ≠ some "listheader".toList)
    (others : List Shown) : head (node :: others) = head others := by
  simp only [head, List.find?_cons, hnode, decide_false]

section Rows

variable (a : Answers) (attributes : List (Text × Text)) (children : List Shown)

/-- A program listing. -/
def code : Forest Text :=
  match attribute? attributes "source" with
  | none => single "pre" [] (single "code" [("class", "lang-csharp".toList)] (whole children))
  | some source =>
    single "pre" [] (single "code" [("class", "lang-".toList ++ Path.extension source)]
      (chars (a.source source (attribute? attributes "region"))))

/-- A table, a numbered list or a list with bullets. -/
def list : Forest Text :=
  if attribute? attributes "type" = some "table".toList then
    single "table" [] ((head children).meet (single "tbody" [] (cells children)))
  else if attribute? attributes "type" = some "number".toList then
    single "ol" [] (entries children)
  else single "ul" [] (entries children)

/-- A reference to a symbol. -/
def reference : Forest Text :=
  match attribute? attributes "cref" with
  | none => .nil
  | some cref =>
    match Text.after? unboundMark cref, a.reference with
    | some remainder, _ => single "c" [("class", "xref".toList)] (orText children remainder)
    | none, none => .nil
    | none, some resolve =>
      link [("class", "xref".toList)] (resolve cref).2 (orText children (resolve cref).1)

/-- A link to an address, a keyword or a symbol. -/
def see (keywords : Bool) : Forest Text :=
  match nonEmptyAttribute? attributes "href", attribute? attributes "langword" with
  | some href, _ => single "a" [("href", href)] (orText children href)
  | none, some word =>
    if keywords then link [] (a.keyword word) (orText children word)
    else reference a attributes children
  | none, none => reference a attributes children

/-- A note under its type. -/
def note : Forest Text :=
  let type := (attribute? attributes "type").getD "note".toList
  single "div" [("class", type)] ((single "h5" [] (chars type)).meet (whole children))

/-- What an element becomes. -/
def row (tag : Text) : Forest Text :=
  match Kind.of tag with
  | .para => single "p" [] (whole children)
  | .code => code a attributes children
  | .term => single "span" [("class", "term".toList)] (whole children)
  | .description => whole children
  | .list => list attributes children
  | .parameterReference =>
    single "c" [] (((attribute? attributes "name").map (orText children)).getD (whole children))
  | .see => see a attributes children true
  | .seeAlso => see a attributes children false
  | .note => note attributes children
  | .unknown => .element tag [] (whole children) .nil

end Rows

/-- What each node of a fragment becomes. -/
def nodes (a : Answers) : Fragment → List Shown
  | .nil => []
  | .text run rest => ⟨none, [], chars run⟩ :: nodes a rest
  | .element tag attributes children rest =>
    ⟨some tag, (nodes a children).map Shown.whole, row a attributes (nodes a children) tag⟩ ::
      nodes a rest

/-- What a fragment becomes. -/
def forest (a : Answers) (f : Fragment) : Forest Text := whole (nodes a f)

end Table

/-! ## Answers of resolvers -/

namespace Resolvers

open Recorded (outcome_bind outcome_map)

variable {ε : Type}

/-- Resolvers that always answer: every source is loaded or missing. -/
def NeverFails (r : Resolvers ε) : Prop :=
  ∀ load ∈ r.source, ∀ id, ∃ code, (load id).outcome = .ok code

/-- What resolvers answer; a source that is not available is empty. -/
def answers (r : Resolvers ε) : Answers where
  reference := r.reference
  source id region :=
    match (r.askSource id region).outcome with
    | .ok (some code) => code
    | _ => []
  keyword word :=
    match (r.askKeyword word).outcome with
    | .ok address => address
    | .error _ => none

/-- Asking for a source gives what is answered. -/
theorem NeverFails.askSource {r : Resolvers ε} (hr : r.NeverFails) (id : Text)
    (region : Option Text) :
    ∃ code, (r.askSource id region).outcome = .ok code ∧
      r.answers.source id region = code.getD [] := by
  have hok : ∃ code, (r.askSource id region).outcome = .ok code := by
    unfold Resolvers.askSource
    cases hsource : r.source with
    | none => exact ⟨none, rfl⟩
    | some load =>
      rcases hr load hsource id with ⟨loaded, hloaded⟩
      cases loaded with
      | none => exact ⟨none, outcome_bind rfl _ |>.trans (outcome_bind hloaded _)⟩
      | some code =>
        rcases Region.extract_succeeds id region code with ⟨text, htext⟩
        refine ⟨some text, ?_⟩
        rw [outcome_bind rfl, outcome_bind hloaded]
        exact outcome_map htext some
  rcases hok with ⟨code, hcode⟩
  refine ⟨code, hcode, ?_⟩
  simp only [answers, hcode]
  cases code <;> rfl

/-- Asking for a keyword gives what is answered. -/
theorem outcome_askKeyword (r : Resolvers ε) (word : Text) :
    (r.askKeyword word).outcome = .ok (r.answers.keyword word) := by
  have hok : ∃ address, (r.askKeyword word).outcome = .ok address := by
    unfold askKeyword
    cases r.keyword with
    | none => exact ⟨_, rfl⟩
    | some resolve => exact ⟨_, rfl⟩
  rcases hok with ⟨address, haddress⟩
  simp only [answers, haddress]

end Resolvers
end DocMarkup
