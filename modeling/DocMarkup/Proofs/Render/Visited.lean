import DocMarkup.Proofs.Comment.Related
import DocMarkup.Proofs.Render.Walk
import DocMarkup.Proofs.Trace.Begun

/-!
# What a rendering asks and reports

What a rendering leaves behind is what comes with its visits: for each element one question at most,
in front of those of its children; what the load of a source leaves behind; and the report of a
region that the source never opens. The rendering fails with the first source whose load fails, and
no element behind it is visited.

Main definitions:

- {lit}`Walk.visit`: what comes with the visit to an element.
- {lit}`Walk.Makes`: a computation does what visits to elements do.

Main results:

- Theorem {lit}`Walk.renderElement_makes`: the rendering table makes the visits of an element.
- Theorem {lit}`Walk.fragmentMakes`: so do the renderings of a fragment.
- Theorem {lit}`formatFragment_visits`: questions, notices and failure of a rendering.
-/

namespace DocMarkup

open Forest (Element)
open Recorded (inOrder)

namespace Walk

variable {ε α β : Type} {r : Resolvers ε} {e : Element Text}

/-! ## Visits -/

/-- What comes with the visit to an element. -/
def visit (r : Resolvers ε) (e : Element Text) : Recorded ε Unit :=
  ⟨⟨(question? r e).toList ++ (loading r e).questions,
      (loading r e).notices ++ (missing? r e).toList⟩,
    ((loadFailure? r e).map Except.error).getD (.ok ())⟩

/-- Without a source a visit is its question. -/
theorem visit_of_question (hsource : source? e = none) {q : Question}
    (hquestion : question? r e = some q) : visit r e = .ask q := by
  simp [visit, hquestion, loading, loadFailure?, load?, missing?, hsource, Recorded.ask, Trace.nil]

/-- A visit without source and question leaves nothing behind. -/
theorem visit_silent (hsource : source? e = none) (hquestion : question? r e = none) :
    visit r e = Pure.pure () := by
  simp [visit, hquestion, loading, loadFailure?, load?, missing?, hsource]
  rfl

/-- Only listings and links ask for anything. -/
theorem visit_plain (hkind : Kind.of e.name ∉ [Kind.code, Kind.see, Kind.seeAlso]) :
    visit r e = Pure.pure () := by
  simp only [List.mem_cons, List.not_mem_nil, or_false, not_or] at hkind
  rcases hkind with ⟨hcode, hsee, hseeAlso⟩
  have hsource : source? e = none := if_neg hcode
  have hreferent : referent? e = none := by
    unfold referent?
    split
    · next h => exact absurd h hsee
    · next h => exact absurd h hseeAlso
    · rfl
  exact visit_silent hsource (by simp only [question?, hsource, hreferent, Option.bind_none])

/-! ## Computations that make visits -/

/-- A computation does what the visits to some elements do, one after another. -/
def Makes (r : Resolvers ε) (x : Recorded ε α) (l : List (Element Text)) : Prop :=
  x.discard = inOrder (l.map (visit r))

variable {x : Recorded ε α} {l l' : List (Element Text)}

/-- A value makes no visit. -/
theorem Makes.pure (a : α) : Makes r (Pure.pure a) [] := rfl

/-- Two computations in order make the visits of both. -/
theorem Makes.bind (hx : Makes r x l) {f : α → Recorded ε β} (hf : ∀ a, Makes r (f a) l') :
    Makes r (x >>= f) (l ++ l') := by
  unfold Makes
  rw [List.map_append, Recorded.inOrder_append]
  exact Recorded.discard_bind hx hf

/-- A function of the value makes no visit. -/
theorem Makes.map (hx : Makes r x l) (f : α → β) : Makes r (f <$> x) l :=
  (Recorded.discard_map f x).trans hx

/-- What is done with the value of a computation makes no visit. -/
theorem Makes.bind_pure (hx : Makes r x l) (f : α → β) :
    Makes r (x >>= fun a => .pure (f a)) l := by
  have h := hx.map f
  rwa [map_eq_pure_bind] at h

/-- A silent visit can be made in front. -/
theorem Makes.silent (hx : Makes r x l) (he : visit r e = Pure.pure ()) :
    Makes r x (e :: l) := by
  rw [Makes, List.map_cons, inOrder, he, pure_bind]
  exact hx

/-! ## Elements -/

/-- A source is asked for and loaded, and its region is looked for. -/
theorem discard_askSource {load : Text → Recorded ε (Option Text)} (hload : r.source = some load)
    (id : Text) (region : Option Text) :
    (r.askSource id region).discard = Recorded.ask (.source id) >>= fun _ => load id >>= fun code? =>
      ⟨⟨[], (Region.missing? id region code?).toList⟩, .ok ()⟩ := by
  simp only [Resolvers.askSource, hload, Recorded.discard, map_bind]
  refine bind_congr fun _ => bind_congr fun code? => ?_
  cases code? with
  | none => rfl
  | some code => exact (Recorded.discard_map _ _).trans (Region.discard_extract id region code)

/-- A source is asked for, loaded and searched in one visit. -/
theorem askSource_makes {id : Text} (hsource : source? e = some id) :
    Makes r (r.askSource id (attribute? e.attributes "region")) [e] := by
  rw [Makes, List.map_singleton, Recorded.inOrder_singleton]
  cases hload : r.source with
  | none =>
    simp [visit, question?, loading, loadFailure?, missing?, loaded?, load?, hsource, hload,
      Resolvers.askSource, Region.missing?]
    rfl
  | some load =>
    rcases houtcome : load id with ⟨trace, outcome⟩
    have hload? : load? r e = some ⟨trace, outcome⟩ := by
      simp [load?, hsource, hload, houtcome]
    have hvisit : visit r e = ⟨⟨.source id :: trace.questions, trace.notices ++
        (Region.missing? id (attribute? e.attributes "region") outcome.toOption.join).toList⟩,
        ((failure? outcome).map Except.error).getD (.ok ())⟩ := by
      simp [visit, question?, loading, loadFailure?, missing?, loaded?, hload?, hsource, hload]
    rw [discard_askSource hload, hvisit, houtcome]
    cases outcome with
    | error failure =>
      -- the source is not searched, and no region of it is reported
      show (⟨⟨.source id :: trace.questions, trace.notices⟩, .error failure⟩ : Recorded ε Unit) = _
      simp [Region.missing?, Except.toOption, failure?]
    | ok code? =>
      show (⟨⟨.source id :: (trace.questions ++ []), trace.notices ++ _⟩, .ok ()⟩ :
        Recorded ε Unit) = _
      rw [List.append_nil]
      rfl

/-- A question whose answer is handed on is a visit that asks it. -/
theorem Makes.asked {q : Question} (he : visit r e = .ask q) (a : α) :
    Makes r (Recorded.ask q >>= fun _ => Recorded.pure a) [e] := by
  rw [Makes, List.map_singleton, Recorded.inOrder_singleton, he]
  rfl

/-- The renderings of an element's children make the visits to them. -/
structure PartsMake (r : Resolvers ε) (parts : Parts ε) (below : List Node) : Prop where
  isEmpty : parts.isEmpty = true → below = []
  whole : Makes r (parts.whole ()) (everything below)
  items : Makes r (parts.items ()) (items below)
  head : Makes r (parts.head ()) (head below)
  cells : Makes r (parts.cells ()) (Walk.items below)

variable {parts : Parts ε} {below : List Node}

/-- The text in the place of no children visits all of them. -/
theorem PartsMake.orText (hparts : PartsMake r parts below) (fallback : Text) :
    Makes r (parts.orText fallback) (everything below) := by
  unfold Parts.orText
  split
  · next hempty =>
    rw [hparts.isEmpty hempty]
    exact .pure _
  · exact hparts.whole

/-- The visits of a program listing. -/
theorem renderCode_makes (hkind : Kind.of e.name = .code) (hparts : PartsMake r parts below) :
    Makes r (renderCode r e.attributes parts)
      (e :: if (source? e).isSome then [] else everything below) := by
  have hsource : source? e = attribute? e.attributes "source" := if_pos hkind
  unfold renderCode
  cases hattribute : attribute? e.attributes "source" with
  | none =>
    rw [hattribute] at hsource
    have hquestion : question? r e = none := by simp [question?, hsource, referent?, hkind]
    rw [hsource]
    exact (hparts.whole.bind_pure _).silent (visit_silent hsource hquestion)
  | some source =>
    rw [hattribute] at hsource
    rw [hsource]
    exact (askSource_makes hsource).bind_pure _

/-- The visits of a list. -/
theorem renderList_makes (hparts : PartsMake r parts below) :
    Makes r (renderList e.attributes parts)
      (if attribute? e.attributes "type" = some "table".toList then head below ++ items below
        else items below) := by
  unfold renderList
  cases attribute? e.attributes "type" with
  | none => exact hparts.items.map _
  | some type =>
    by_cases htable : type = "table".toList
    · simp only [htable, if_true]
      exact hparts.head.bind fun _ => hparts.cells.bind_pure _
    · simp only [htable, if_false, Option.some.injEq]
      split
      · exact hparts.items.map _
      · exact hparts.items.map _

/-- A link makes no visit of its own besides its question. -/
theorem visit_of_referent {referent : Referent} (hreferent : referent? e = some referent) :
    visit r e = ((referent.question? r).map Recorded.ask).getD (Pure.pure ()) := by
  have hsource : source? e = none := by
    unfold referent? at hreferent
    unfold source?
    split at hreferent
    · next hkind => simp [hkind]
    · next hkind => simp [hkind]
    · cases hreferent
  have hquestion : question? r e = referent.question? r := by
    simp only [question?, hsource, hreferent, Option.bind_some]
  cases hasked : referent.question? r with
  | none => exact visit_silent hsource (hquestion.trans hasked)
  | some q => exact visit_of_question hsource (hquestion.trans hasked)

/-- The visits of a reference to a symbol. -/
theorem renderReference_makes (hparts : PartsMake r parts below)
    (hreferent : referent? e = some (.ofReference e.attributes)) :
    Makes r (renderReference r e.attributes parts)
      (e :: if (Referent.ofReference e.attributes).isShown r then everything below else []) := by
  have hvisit := visit_of_referent (r := r) hreferent
  unfold renderReference
  unfold Referent.ofReference at hvisit ⊢
  cases hattribute : attribute? e.attributes "cref" with
  | none =>
    simp only [hattribute] at hvisit ⊢
    exact (Makes.pure _).silent hvisit
  | some cref =>
    simp only [hattribute] at hvisit ⊢
    cases hmark : Text.after? unboundMark cref with
    | some remainder =>
      have hunbound : unboundMark <+: cref := ⟨remainder, (Text.after?_eq_some_iff.1 hmark).symm⟩
      simp only [if_pos hunbound] at hvisit ⊢
      exact ((hparts.orText remainder).map _).silent hvisit
    | none =>
      have hbound : ¬unboundMark <+: cref := by
        rintro ⟨remainder, hcref⟩
        exact absurd (hmark.symm.trans (Text.after?_eq_some_iff.2 hcref.symm)) (by simp)
      simp only [if_neg hbound] at hvisit ⊢
      cases hresolve : r.reference with
      | none =>
        simp only [Referent.question?, Referent.isShown, hresolve] at hvisit ⊢
        exact (Makes.pure _).silent hvisit
      | some resolve =>
        simp only [Referent.question?, Referent.isShown, hresolve] at hvisit ⊢
        exact (Makes.asked hvisit _).bind fun _ => (hparts.orText _).map _

/-- The visits of a link. -/
theorem renderSee_makes (hparts : PartsMake r parts below) {keywords : Bool}
    (hreferent : referent? e = some (.ofAttributes keywords e.attributes)) :
    Makes r (renderSee r e.attributes parts keywords)
      (e :: if (Referent.ofAttributes keywords e.attributes).isShown r then everything below
        else []) := by
  have hvisit := visit_of_referent (r := r) hreferent
  unfold renderSee
  cases hhref : nonEmptyAttribute? e.attributes "href" with
  | some href =>
    have haddress : Referent.ofAttributes keywords e.attributes = .address := by
      simp [Referent.ofAttributes, hhref]
    rw [haddress] at hvisit ⊢
    exact ((hparts.orText href).map _).silent hvisit
  | none =>
    -- without an address and a keyword a link is a reference to a symbol
    have hsymbol (h : Referent.ofAttributes keywords e.attributes = .ofReference e.attributes) :
        Makes r (renderReference r e.attributes parts)
          (e :: if (Referent.ofAttributes keywords e.attributes).isShown r then everything below
            else []) := by
      rw [h] at hreferent ⊢
      exact renderReference_makes hparts hreferent
    cases keywords with
    | false => exact hsymbol (by simp [Referent.ofAttributes, hhref])
    | true =>
      cases hword : attribute? e.attributes "langword" with
      | none => exact hsymbol (by simp [Referent.ofAttributes, hhref, hword])
      | some word =>
        have hkeyword : Referent.ofAttributes true e.attributes = .keyword word := by
          simp [Referent.ofAttributes, hhref, hword]
        rw [hkeyword] at hvisit ⊢
        unfold Resolvers.askKeyword
        cases hresolve : r.keyword with
        | none =>
          simp only [Referent.question?, hresolve] at hvisit
          exact ((hparts.orText word).map _).silent hvisit
        | some resolve =>
          simp only [Referent.question?, hresolve] at hvisit
          exact (Makes.asked hvisit _).bind fun _ => (hparts.orText word).map _

/-- The visits of an element. -/
theorem renderElement_makes (e : Element Text) (hparts : PartsMake r parts below) :
    Makes r (renderElement r e.attributes parts e.name) (e :: inside r e below) := by
  have hplain := visit_plain (r := r) (e := e)
  unfold renderElement inside
  cases hkind : Kind.of e.name with
  | code => exact renderCode_makes hkind hparts
  | see =>
    have hreferent : referent? e = some (.ofAttributes true e.attributes) := by
      simp only [referent?, hkind]
    rw [hreferent]
    exact renderSee_makes hparts hreferent
  | seeAlso =>
    have hreferent : referent? e = some (.ofAttributes false e.attributes) := by
      simp only [referent?, hkind]
    rw [hreferent]
    exact renderSee_makes hparts hreferent
  | list =>
    have hvisit := hplain (by simp [hkind])
    exact (renderList_makes hparts).silent hvisit
  | parameterReference =>
    have hvisit := hplain (by simp [hkind])
    cases attribute? e.attributes "name" with
    | none => exact (hparts.whole.map _).silent hvisit
    | some name => exact ((hparts.orText name).map _).silent hvisit
  | description =>
    have hvisit := hplain (by simp [hkind])
    exact hparts.whole.silent hvisit
  | note =>
    have hvisit := hplain (by simp [hkind])
    exact (hparts.whole.bind_pure _).silent hvisit
  | para | term | unknown =>
    have hvisit := hplain (by simp [hkind])
    exact (hparts.whole.map _).silent hvisit

/-! ## Fragments -/

/-- The renderings of a fragment make the visits to what they are made of. -/
structure FragmentMakes (r : Resolvers ε) (f : Fragment) : Prop where
  nodes : Makes r (renderNodes r f) (everything (nodes r f))
  items : Makes r (renderItems r f) (items (Walk.nodes r f))
  head : Makes r (renderHead r f) (head (Walk.nodes r f))
  cells : Makes r (renderCells r f) (Walk.items (Walk.nodes r f))

variable {f children rest : Fragment}

/-- The renderings of an element's children are among its parts. -/
theorem FragmentMakes.partsMake (hf : FragmentMakes r f) :
    PartsMake r
      { isEmpty := f.isEmpty
        whole := fun _ => Html.concat <$> renderNodes r f
        items := fun _ => renderItems r f
        head := fun _ => renderHead r f
        cells := fun _ => renderCells r f } (Walk.nodes r f) where
  isEmpty hempty := by
    cases f with
    | nil => rfl
    | text run rest => cases hempty
    | element tag attributes children rest => cases hempty
  whole := hf.nodes.map _
  items := hf.items
  head := hf.head
  cells := hf.cells

/-- An item, or a header, visits all that is in it. -/
theorem inside_of_unknown (r : Resolvers ε) (e : Element Text) (below : List Node)
    (hkind : Kind.of e.name = .unknown) :
    inside r e below = everything below ∧ visit r e = Pure.pure () :=
  ⟨by simp only [inside, hkind], visit_plain (by simp [hkind])⟩

variable {tag : Text} {attributes : List (Text × Text)}

/-- An item in front of other nodes is visited before the items among them; any other element in
front is passed by. -/
theorem items_element_make {x y : Recorded ε Html} (hx : Makes r x (everything (nodes r children)))
    (hy : Makes r y (items (nodes r rest))) (combine : Html → Html → Html) :
    Makes r (if tag = "item".toList then x >>= fun here => y >>= fun others =>
        .pure (combine here others) else y)
      (items (nodes r (.element tag attributes children rest))) := by
  rw [nodes]
  by_cases hitem : tag = "item".toList
  · have hkind : Kind.of tag = .unknown := by
      rw [hitem]
      decide
    have hinside := inside_of_unknown r ⟨tag, attributes, children⟩ (nodes r children) hkind
    rw [if_pos hitem, items_cons_of_item hitem, Node.visits, hinside.1]
    exact (hx.bind fun _ => hy.bind_pure _).silent hinside.2
  · rw [if_neg hitem, items_cons_of_ne hitem]
    exact hy

/-- The content of a header in front of other nodes is that of the first header; any other element
in front is passed by. -/
theorem head_element_makes (hchildren : FragmentMakes r children) (hrest : FragmentMakes r rest) :
    Makes r (renderHead r (.element tag attributes children rest))
      (head (nodes r (.element tag attributes children rest))) := by
  rw [renderHead, nodes]
  by_cases hheader : tag = "listheader".toList
  · have hkind : Kind.of tag = .unknown := by
      rw [hheader]
      decide
    have hinside := inside_of_unknown r ⟨tag, attributes, children⟩ (nodes r children) hkind
    rw [if_pos hheader, head_cons_of_header hheader, hinside.1]
    exact hchildren.nodes.bind_pure _
  · rw [if_neg hheader, head_cons_of_ne hheader]
    exact hrest.head

/-- The renderings of a fragment make its visits. -/
theorem fragmentMakes (r : Resolvers ε) (f : Fragment) : FragmentMakes r f := by
  induction f with
  | nil =>
    refine { nodes := ?_, items := ?_, head := ?_, cells := ?_ }
    · rw [renderNodes]
      exact .pure _
    · rw [renderItems]
      exact .pure _
    · rw [renderHead]
      exact .pure _
    · rw [renderCells]
      exact .pure _
  | text run rest ih =>
    refine { nodes := ?_, items := ?_, head := ?_, cells := ?_ }
    · rw [renderNodes]
      exact ih.nodes.bind_pure _
    · rw [renderItems]
      exact ih.items
    · rw [renderHead]
      exact ih.head
    · rw [renderCells]
      exact ih.cells
  | element tag attributes children rest ihChildren ihRest =>
    have hwhole := ihChildren.nodes.map Html.concat
    refine { nodes := ?_, items := ?_, head := head_element_makes ihChildren ihRest, cells := ?_ }
    · rw [renderNodes]
      exact (renderElement_makes ⟨tag, attributes, children⟩ ihChildren.partsMake).bind fun _ =>
        ihRest.nodes.bind_pure _
    · rw [renderItems]
      exact items_element_make hwhole ihRest.items _
    · rw [renderCells]
      exact items_element_make hwhole ihRest.cells _

/-- A visit fails when a source cannot be loaded. -/
theorem failure?_visit (r : Resolvers ε) (e : Element Text) :
    failure? (visit r e).outcome = loadFailure? r e := by
  unfold visit
  cases loadFailure? r e <;> rfl

end Walk

/-! ## Renderings -/

open Walk

/-- Without a resolver of keywords a rendering is what it is when the built-in links are one. -/
theorem outcome_formatFragment_builtIn {ε : Type} (r : Resolvers ε) (f : Fragment) :
    (formatFragment { r with keyword := none } f).outcome =
      (formatFragment { r with keyword := some Keyword.builtInLink? } f).outcome := by
  have hrelated : Resolvers.Related (fun _ (x y : Recorded ε _) => x.outcome = y.outcome)
      { r with keyword := none } { r with keyword := some Keyword.builtInLink? } :=
    { reference := by
        cases r.reference with
        | none => exact .none
        | some resolve => exact .some fun _ => rfl
      source := fun _ _ => rfl
      keyword := fun _ => rfl }
  exact formatFragment_related Recorded.outcome_isComposed hrelated f

/-- What a rendering asks and reports is what comes with the visits that it makes, each to another
element and in their order, as far as the first load that fails. Where no resolver of keywords is
given, the built-in links take its place. -/
theorem formatFragment_visits {ε : Type} (r : Resolvers ε) (f : Fragment) :
    let visited := Recorded.upTo (fun e => (loadFailure? r e).isSome) (visits r f)
    (visits r f).Subperm f.descendants ∧
      (formatFragment r f).trace.questions =
        visited.flatMap (fun e => (question? r e).toList ++ (loading r e).questions) ∧
      (formatFragment r f).trace.notices =
        visited.flatMap (fun e => (loading r e).notices ++ (missing? r e).toList) ∧
      failure? (formatFragment r f).outcome = (visits r f).findSome? (loadFailure? r) ∧
      (formatFragment { r with keyword := none } f).outcome =
        (formatFragment { r with keyword := some Keyword.builtInLink? } f).outcome := by
  have hmakes : Makes r (formatFragment r f) (visits r f) := ((fragmentMakes r f).nodes.map _).map _
  have hsteps := Recorded.inOrder_upTo (visit r) (visits r f)
  -- with its value left out, the rendering is its visits in order
  have htrace : (formatFragment r f).trace = Recorded.traceOf (visit r) (visits r f) := by
    rw [← Recorded.trace_discard, hmakes, hsteps.1]
  have hfailure := Recorded.failure?_discard (formatFragment r f)
  rw [hmakes, hsteps.2] at hfailure
  have hbegun : Recorded.begun (visit r) (visits r f) =
      Recorded.upTo (fun e => (loadFailure? r e).isSome) (visits r f) := by
    simp only [Recorded.begun, Recorded.fails, failure?_visit]
  rw [htrace, ← hfailure, Recorded.traceOf, hbegun]
  simp only [failure?_visit]
  exact ⟨visits_subperm f, rfl, rfl, trivial, outcome_formatFragment_builtIn r f⟩

end DocMarkup
