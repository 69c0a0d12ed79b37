import DocMarkup.Comment.Build
import DocMarkup.Proofs.Forest
import DocMarkup.Proofs.Trace

/-!
# Relations kept by building

Rendering only asks and goes on with the answer. So a relation between computations that holds of
equal values and goes through steps holds of two renderings of one fragment, and of two comments of
one provider, as soon as it holds of their questions. The induction over fragments is done here
once, whatever the relation.

Main definitions:

- {lit}`Resolvers.Related`: resolvers to which every question is put in a related way.
- {lit}`Parts.Related`: renderings of the same children that are related.

Main results:

- Theorem {lit}`renderElement_related`: the rendering table keeps a relation.
- Theorem {lit}`formatFragment_related`: so does the rendering of a fragment.
- Theorems {lit}`formatMarkup_related`, {lit}`seeAlsosOfMarkup_related` and
  {lit}`Provider.build_related`: so do the parts of a comment, and the comment.
-/

namespace DocMarkup

open Recorded (IsComposed)

variable {ε : Type} {R : ∀ α : Type, Recorded ε α → Recorded ε α → Prop} {r r' : Resolvers ε}

/-- The same questions can be put to two settings, and the computations that answer them are
related. -/
structure Resolvers.Related (R : ∀ α : Type, Recorded ε α → Recorded ε α → Prop)
    (r r' : Resolvers ε) : Prop where
  reference : Option.Rel
    (fun resolve resolve' => ∀ id, R _ (askReference resolve id) (askReference resolve' id))
    r.reference r'.reference
  source : ∀ id region, R _ (r.askSource id region) (r'.askSource id region)
  keyword : ∀ word, R _ (r.askKeyword word) (r'.askKeyword word)

/-! ## The rendering table -/

/-- The renderings of the same children are related. -/
structure Parts.Related (R : ∀ α : Type, Recorded ε α → Recorded ε α → Prop)
    (parts parts' : Parts ε) : Prop where
  isEmpty : parts.isEmpty = parts'.isEmpty
  whole : R _ (parts.whole ()) (parts'.whole ())
  items : R _ (parts.items ()) (parts'.items ())
  head : R _ (parts.head ()) (parts'.head ())
  cells : R _ (parts.cells ()) (parts'.cells ())

section Table

variable {attributes : List (Text × Text)} {parts parts' : Parts ε}

/-- The children, or a text in their place, are related. -/
theorem Parts.Related.orText (hparts : parts.Related R parts') (hR : IsComposed R)
    (fallback : Text) : R _ (parts.orText fallback) (parts'.orText fallback) := by
  unfold Parts.orText
  rw [← hparts.isEmpty]
  split
  · exact hR.pure _
  · exact hparts.whole

/-- Program listings are related. -/
theorem renderCode_related (hR : IsComposed R) (hr : r.Related R r')
    (hparts : parts.Related R parts') :
    R _ (renderCode r attributes parts) (renderCode r' attributes parts') := by
  unfold renderCode
  cases attribute? attributes "source" with
  | none => exact hR.bind hparts.whole fun _ => hR.pure _
  | some source => exact hR.bind (hr.source source _) fun _ => hR.pure _

/-- Lists are related. -/
theorem renderList_related (hR : IsComposed R) (hparts : parts.Related R parts') :
    R _ (renderList attributes parts) (renderList attributes parts') := by
  have hitems : ∀ tag, R _ (Html.single tag [] <$> parts.items ())
      (Html.single tag [] <$> parts'.items ()) := fun tag => hR.map hparts.items _
  unfold renderList
  cases attribute? attributes "type" with
  | none => exact hitems "ul"
  | some type =>
    by_cases htable : type = "table".toList
    · simp only [htable, if_true]
      exact hR.bind hparts.head fun _ => hR.bind hparts.cells fun _ => hR.pure _
    · by_cases hnumber : type = "number".toList
      · simp only [hnumber, if_true]
        exact hitems "ol"
      · simp only [htable, hnumber, if_false]
        exact hitems "ul"

/-- References to a symbol are related. -/
theorem renderReference_related (hR : IsComposed R) (hr : r.Related R r')
    (hparts : parts.Related R parts') :
    R _ (renderReference r attributes parts) (renderReference r' attributes parts') := by
  have hreference := hr.reference
  unfold renderReference
  cases attribute? attributes "cref" with
  | none => exact hR.pure _
  | some cref =>
    cases hmark : Text.after? unboundMark cref with
    | some remainder =>
      simp only [hmark]
      exact hR.map (hparts.orText hR remainder) _
    | none =>
      simp only [hmark]
      generalize r.reference = resolve?, r'.reference = resolve'? at hreference
      cases hreference with
      | none => exact hR.pure _
      | some hasked => exact hR.bind (hasked cref) fun _ => hR.map (hparts.orText hR _) _

/-- Links are related. -/
theorem renderSee_related (hR : IsComposed R) (hr : r.Related R r')
    (hparts : parts.Related R parts') (keywords : Bool) :
    R _ (renderSee r attributes parts keywords) (renderSee r' attributes parts' keywords) := by
  unfold renderSee
  cases nonEmptyAttribute? attributes "href" with
  | some href => exact hR.map (hparts.orText hR href) _
  | none =>
    cases attribute? attributes "langword" with
    | none => cases keywords <;> exact renderReference_related hR hr hparts
    | some word =>
      cases keywords with
      | false => exact renderReference_related hR hr hparts
      | true => exact hR.bind (hr.keyword word) fun _ => hR.map (hparts.orText hR word) _

/-- Elements are related. -/
theorem renderElement_related (hR : IsComposed R) (hr : r.Related R r')
    (hparts : parts.Related R parts') (tag : Text) :
    R _ (renderElement r attributes parts tag) (renderElement r' attributes parts' tag) := by
  unfold renderElement
  cases Kind.of tag with
  | para => exact hR.map hparts.whole _
  | code => exact renderCode_related hR hr hparts
  | term => exact hR.map hparts.whole _
  | description => exact hparts.whole
  | list => exact renderList_related hR hparts
  | parameterReference =>
    cases attribute? attributes "name" with
    | none => exact hR.map hparts.whole _
    | some name => exact hR.map (hparts.orText hR name) _
  | see => exact renderSee_related hR hr hparts true
  | seeAlso => exact renderSee_related hR hr hparts false
  | note => exact hR.bind hparts.whole fun _ => hR.pure _
  | unknown => exact hR.map hparts.whole _

end Table

/-! ## Fragments -/

/-- Every rendering of a fragment is related. -/
structure Fragment.Related (R : ∀ α : Type, Recorded ε α → Recorded ε α → Prop)
    (r r' : Resolvers ε) (f : Fragment) : Prop where
  nodes : R _ (renderNodes r f) (renderNodes r' f)
  items : R _ (renderItems r f) (renderItems r' f)
  head : R _ (renderHead r f) (renderHead r' f)
  cells : R _ (renderCells r f) (renderCells r' f)

/-- Renderings of a fragment are related when those of its elements are, whenever those of their
children are. -/
theorem Fragment.related_of_elements {onTag : Text → List (Text × Text) → Prop} (hR : IsComposed R)
    (helement : ∀ tag attributes (parts parts' : Parts ε), onTag tag attributes →
      parts.Related R parts' →
      R _ (renderElement r attributes parts tag) (renderElement r' attributes parts' tag))
    {f : Fragment} (hf : f.Forall (fun _ => True) onTag) : f.Related R r r' := by
  induction f with
  | nil =>
    refine { nodes := ?_, items := ?_, head := ?_, cells := ?_ }
    · simp only [renderNodes]
      exact hR.pure _
    · simp only [renderItems]
      exact hR.pure _
    · simp only [renderHead]
      exact hR.pure _
    · simp only [renderCells]
      exact hR.pure _
  | text run rest ih =>
    have hrest := ih hf.2
    refine { nodes := ?_, items := ?_, head := ?_, cells := ?_ }
    · simp only [renderNodes]
      exact hR.bind hrest.nodes fun _ => hR.pure _
    · simp only [renderItems]
      exact hrest.items
    · simp only [renderHead]
      exact hrest.head
    · simp only [renderCells]
      exact hrest.cells
  | element tag attributes children rest ihChildren ihRest =>
    rcases hf with ⟨htag, hchildren, hrest⟩
    have hchildren := ihChildren hchildren
    have hrest := ihRest hrest
    have hwhole : R _ (Html.concat <$> renderNodes r children)
        (Html.concat <$> renderNodes r' children) := hR.map hchildren.nodes _
    refine { nodes := ?_, items := ?_, head := ?_, cells := ?_ }
    · simp only [renderNodes]
      refine hR.bind (helement tag attributes _ _ htag ?_) fun _ =>
        hR.bind hrest.nodes fun _ => hR.pure _
      exact ⟨rfl, hwhole, hchildren.items, hchildren.head, hchildren.cells⟩
    · simp only [renderItems]
      split
      · exact hR.bind hwhole fun _ => hR.bind hrest.items fun _ => hR.pure _
      · exact hrest.items
    · simp only [renderHead]
      split
      · exact hR.bind hchildren.nodes fun _ => hR.pure _
      · exact hrest.head
    · simp only [renderCells]
      split
      · exact hR.bind hwhole fun _ => hR.bind hrest.cells fun _ => hR.pure _
      · exact hrest.cells

/-- Renderings of a fragment are related when questions are put in a related way. -/
theorem Fragment.related (hR : IsComposed R) (hr : r.Related R r') (f : Fragment) :
    f.Related R r r' :=
  related_of_elements hR (fun tag _ _ _ _ hparts => renderElement_related hR hr hparts tag)
    (Forest.forall_of_forall (fun _ => trivial) (fun _ _ => trivial) f)

/-- Spelled renderings of a fragment are related when its renderings are. -/
theorem Fragment.Related.format (hR : IsComposed R) {f : Fragment} (hf : f.Related R r r') :
    R _ (formatFragment r f) (formatFragment r' f) :=
  hR.map (hR.map hf.nodes _) _

/-- Spelled renderings of a fragment are related. -/
theorem formatFragment_related (hR : IsComposed R) (hr : r.Related R r') (f : Fragment) :
    R _ (formatFragment r f) (formatFragment r' f) :=
  (f.related hR hr).format hR

/-- See-also links are related when the renderings of what is in them are. -/
theorem seeAlso?_related (hR : IsComposed R) {e : Forest.Element Text}
    (he : Fragment.Related R r r' e.children) : R _ (seeAlso? r e) (seeAlso? r' e) := by
  unfold seeAlso?
  cases linkOf? e.attributes with
  | none => exact hR.pure none
  | some link => exact hR.bind (he.format hR) fun _ => hR.pure _

/-- The see-also links of a fragment are related. -/
theorem collectSeeAlsos_related (hR : IsComposed R) (hr : r.Related R r') (f : Fragment) :
    R _ (collectSeeAlsos r f) (collectSeeAlsos r' f) :=
  hR.map (hR.each fun e _ => seeAlso?_related hR (Fragment.related hR hr e.children)) _

/-! ## Comments -/

section Fields

variable {R : ∀ α : Type, Recorded Failure α → Recorded Failure α → Prop}
  {r r' : Resolvers Failure}

/-- Renderings of markup are related. -/
theorem formatMarkup_related (hR : IsComposed R) (hr : r.Related R r') (raw : Text) :
    R _ (formatMarkup r raw) (formatMarkup r' raw) :=
  hR.bind (hR.ofOption _ _) fun f => formatFragment_related hR hr f

/-- The see-also links of markup are related. -/
theorem seeAlsosOfMarkup_related (hR : IsComposed R) (hr : r.Related R r') (raw : Text) :
    R _ (seeAlsosOfMarkup r raw) (seeAlsosOfMarkup r' raw) :=
  hR.bind (hR.ofOption _ _) fun f => collectSeeAlsos_related hR hr f

/-- Fields are related. -/
theorem formatField_related (hR : IsComposed R) (hr : r.Related R r') (field : Option Text) :
    R _ (formatField r field) (formatField r' field) := by
  unfold formatField
  split
  · exact hR.pure none
  · exact hR.pure none
  · next raw _ => exact hR.map (formatMarkup_related hR hr raw) some

/-- Named fields are related. -/
theorem formatNamed_related (hR : IsComposed R) (hr : r.Related R r') (names : List Text)
    (text : Text → Option Text) : R _ (formatNamed r names text) (formatNamed r' names text) :=
  hR.map (hR.each fun name _ => hR.map (formatField_related hR hr (text name)) _) _

/-- Comments of providers that differ in what symbols mean are related when questions are put in a
related way. -/
theorem Provider.build_related (hR : IsComposed R) {p : Provider}
    {lookup : Text → Option LinkTarget}
    {source source' : Option (Text → Recorded Failure (Option Text))}
    {keyword keyword' : Option (Text → Option Text)}
    (hr : Resolvers.Related R ⟨some p.resolve, source, keyword⟩
      ⟨some (resolve { p with lookup }), source', keyword'⟩) :
    R _ (p.build source keyword) (build { p with lookup } source' keyword') := by
  unfold build
  refine hR.bind (formatNamed_related hR hr _ _) fun exceptions => ?_
  refine hR.bind (hR.each fun raw _ => formatField_related hR hr (some raw)) fun examples => ?_
  refine hR.bind (formatField_related hR hr _) fun summary => ?_
  refine hR.bind (formatField_related hR hr _) fun remarks => ?_
  refine hR.bind (formatField_related hR hr _) fun returns => ?_
  refine hR.bind (formatNamed_related hR hr _ _) fun parameters => ?_
  refine hR.bind (formatNamed_related hR hr _ _) fun typeParameters => ?_
  exact hR.bind (seeAlsosOfMarkup_related hR hr _) fun seeAlsos => hR.pure _

end Fields
end DocMarkup
