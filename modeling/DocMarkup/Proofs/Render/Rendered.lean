import DocMarkup.Comment.Build
import DocMarkup.Proofs.Fragment.Bare
import DocMarkup.Proofs.Render.Table
import DocMarkup.Proofs.Xml.Content

/-!
# Rendering by the table

Every handler builds well-named HTML whose content is a row of the table. By induction on the
fragment, so does the whole rendering, and what is spelled has the table's forest as its one reading.

Main definitions:

- {lit}`Renders`: a rendering that gives HTML of some content.
- {lit}`Fragment.IsPlain`: a fragment whose tags are plain names.

Main results:

- Theorem {lit}`renderElement_renders`: an element is rendered by its row.
- Theorem {lit}`render_renders`: a fragment is rendered by the table.
- Theorem {lit}`formatMarkup_reads_iff`: spelled markup reads as the table says, and as nothing else.
-/

namespace DocMarkup

open Xml (CharRule isPlainName)

/-! ## Fragments with plain tags -/

/-- A fragment whose tags are plain names. -/
def Fragment.IsPlain (f : Fragment) : Prop :=
  f.Forall (fun _ => True) fun tag _ => isPlainName .standard tag = true

/-- Content with plain local names is a fragment with plain tags. -/
theorem Fragment.ofContent_isPlain {f : Forest Xml.QName}
    (hf : f.Forall (Xml.isChar · = true)
      (Xml.IsSoundElement fun name => isPlainName .standard name = true)) :
    (ofContent f).IsPlain :=
  (forall_ofContent hf).mono (fun _ _ => trivial) fun _ _ htag => htag

/-- The tags of parsed markup are plain names. -/
theorem Fragment.parse?_isPlain {raw : Text} {f : Fragment} (h : Fragment.parse? raw = some f) :
    f.IsPlain := by
  rcases Option.map_eq_some_iff.1 h with ⟨content, hcontent, rfl⟩
  exact ofContent_isPlain (Xml.readContent?_isContent hcontent).1

/-! ## Renderings -/

variable {ε : Type} {p : Prop}

/-- A rendering that gives HTML of some content, which is well named under a condition. -/
def Renders (p : Prop) (x : Recorded ε Html) (g : Forest Text) : Prop :=
  ∃ h, x.outcome = .ok h ∧ h.content = g ∧ (p → h.IsWellNamed)

/-- A rendering of each of some nodes. -/
def RendersEach (p : Prop) (x : Recorded ε (List Html)) (shown : List Table.Shown) : Prop :=
  ∃ hs, x.outcome = .ok hs ∧ hs.map Html.content = shown.map Table.Shown.whole ∧
    (p → ∀ h ∈ hs, h.IsWellNamed)

/-- The content of an element alone. -/
theorem content_single (tag : String) (attributes : List (String × Text)) (h : Html) :
    (Html.single tag attributes h).content = Table.single tag attributes h.content := rfl

/-- An element alone is well named. -/
theorem isWellNamed_single {tag : String} {attributes : List (String × Text)} {h : Html}
    (htag : isPlainName .standard tag.toList = true)
    (hattributes : ∀ e ∈ attributes, e.1 = "class" ∨ e.1 = "href") (hh : h.IsWellNamed) :
    (Html.single tag attributes h).IsWellNamed := by
  refine ⟨htag, ?_, hh, trivial⟩
  intro e he
  rcases List.mem_map.1 he with ⟨entry, hentry, rfl⟩
  rcases hattributes entry hentry with hname | hname
  · exact Or.inl (congrArg String.toList hname)
  · exact Or.inr (congrArg String.toList hname)

/-- Forests of HTML side by side. -/
theorem content_concat (hs : List Html) :
    (Html.concat hs).content = Table.join (hs.map Html.content) := by
  induction hs with
  | nil => rfl
  | cons h hs ih =>
    show (h ++ Html.concat hs).content = _
    rw [Html.content_append, ih]
    rfl

/-- Well-named HTML side by side is well named. -/
theorem isWellNamed_concat {hs : List Html} (hhs : ∀ h ∈ hs, h.IsWellNamed) :
    (Html.concat hs).IsWellNamed := by
  induction hs with
  | nil => trivial
  | cons h hs ih =>
    have hhead := hhs h (by simp)
    have hrest := ih fun h' hh' => hhs h' (by simp [hh'])
    exact Html.IsWellNamed.append hhead hrest

/-- HTML that is given at once. -/
theorem renders_pure {h : Html} (hh : p → h.IsWellNamed) :
    Renders p (.pure h : Recorded ε Html) h.content :=
  ⟨h, rfl, rfl, hh⟩

/-- A rendering put into an element. -/
theorem Renders.single {x : Recorded ε Html} {g : Forest Text} (hx : Renders p x g) {tag : String}
    {attributes : List (String × Text)} (htag : isPlainName .standard tag.toList = true)
    (hattributes : ∀ e ∈ attributes, e.1 = "class" ∨ e.1 = "href") :
    Renders p (Html.single tag attributes <$> x) (Table.single tag attributes g) := by
  rcases hx with ⟨h, houtcome, rfl, hnamed⟩
  exact ⟨_, Recorded.outcome_map houtcome _, content_single tag attributes h,
    fun hp => isWellNamed_single htag hattributes (hnamed hp)⟩

/-- A rendering behind a computation that succeeds. -/
theorem Renders.after {α : Type} {x : Recorded ε α} {a : α} {f : α → Recorded ε Html}
    {g : Forest Text} (hx : x.outcome = .ok a) (hf : Renders p (f a) g) :
    Renders p (x >>= f) g := by
  rcases hf with ⟨h, houtcome, hcontent, hnamed⟩
  exact ⟨h, (Recorded.outcome_bind hx f).trans houtcome, hcontent, hnamed⟩

/-- Renderings of some nodes, side by side. -/
theorem RendersEach.concat {x : Recorded ε (List Html)} {shown : List Table.Shown}
    (hx : RendersEach p x shown) : Renders p (Html.concat <$> x) (Table.whole shown) := by
  rcases hx with ⟨hs, houtcome, hcontent, hnamed⟩
  refine ⟨_, Recorded.outcome_map houtcome _, ?_, fun hp => isWellNamed_concat (hnamed hp)⟩
  rw [content_concat, hcontent]
  rfl

/-! ## Elements -/

/-- Renderings of the children of an element, as the table uses them. -/
structure Parts.Render (p : Prop) (parts : Parts ε) (children : List Table.Shown) : Prop where
  isEmpty : parts.isEmpty = children.isEmpty
  whole : Renders p (parts.whole ()) (Table.whole children)
  items : Renders p (parts.items ()) (Table.entries children)
  head : Renders p (parts.head ()) (Table.head children)
  cells : Renders p (parts.cells ()) (Table.cells children)

section Elements

variable {parts : Parts ε} {children : List Table.Shown} {r : Resolvers ε}
  {attributes : List (Text × Text)}

/-- The children are rendered, or a text in their place. -/
theorem Parts.Render.orText (hparts : parts.Render p children) (fallback : Text) :
    Renders p (parts.orText fallback) (Table.orText children fallback) := by
  unfold Parts.orText Table.orText
  rw [hparts.isEmpty]
  split
  · exact ⟨.run fallback, rfl, rfl, fun _ => trivial⟩
  · exact hparts.whole

/-- A link is rendered when there is an address that is not empty. -/
theorem linkOrSpan_renders {classes : List (String × Text)}
    (hclasses : ∀ e ∈ classes, e.1 = "class" ∨ e.1 = "href") (address : Option Text)
    {x : Recorded ε Html} {g : Forest Text} (hx : Renders p x g) :
    Renders p (linkOrSpan classes classes address <$> x) (Table.link classes address g) := by
  have hspan : Renders p (Html.single "c" classes <$> x) (Table.single "c" classes g) :=
    hx.single (by decide) hclasses
  match address with
  | none => exact hspan
  | some [] => exact hspan
  | some (c :: href) =>
    refine hx.single (by decide) ?_
    intro e he
    rcases List.mem_append.1 he with he | he
    · exact hclasses e he
    · rw [List.mem_singleton.1 he]
      exact Or.inr rfl

/-- A program listing is rendered by its row. -/
theorem renderCode_renders (hr : r.NeverFails) (hparts : parts.Render p children) :
    Renders p (renderCode r attributes parts) (Table.code r.answers attributes children) := by
  unfold renderCode Table.code
  cases attribute? attributes "source" with
  | none =>
    rcases hparts.whole with ⟨h, houtcome, hcontent, hnamed⟩
    refine Renders.after houtcome ?_
    rw [← hcontent]
    exact renders_pure fun hp => isWellNamed_single (by decide) (by simp)
      (isWellNamed_single (by decide) (by simp) (hnamed hp))
  | some source =>
    rcases hr.askSource source (attribute? attributes "region") with ⟨code, houtcome, hanswer⟩
    refine Renders.after houtcome ?_
    show Renders p _ (Table.single "pre" [] (Table.single "code" _ (Table.chars _)))
    rw [hanswer]
    exact renders_pure fun _ => isWellNamed_single (by decide) (by simp)
      (isWellNamed_single (by decide) (by simp) trivial)

/-- A list is rendered by its row. -/
theorem renderList_renders (hparts : parts.Render p children) :
    Renders p (renderList attributes parts) (Table.list attributes children) := by
  have hbullets : Renders p (Html.single "ul" [] <$> parts.items ())
      (Table.single "ul" [] (Table.entries children)) := hparts.items.single (by decide) (by simp)
  unfold renderList Table.list
  cases attribute? attributes "type" with
  | none => simpa using hbullets
  | some type =>
    by_cases htable : type = "table".toList
    · rcases hparts.head with ⟨h, hhead, hheadContent, hheadNamed⟩
      rcases hparts.cells with ⟨h', hcells, hcellsContent, hcellsNamed⟩
      have hbody : p → (Html.single "tbody" [] h').IsWellNamed :=
        fun hp => isWellNamed_single (by decide) (by simp) (hcellsNamed hp)
      simp only [htable, if_true]
      refine Renders.after hhead (Renders.after hcells ?_)
      have hwhole : p → (Html.single "table" [] (h ++ Html.single "tbody" [] h')).IsWellNamed :=
        fun hp => isWellNamed_single (by decide) (by simp) ((hheadNamed hp).append (hbody hp))
      have hall : Renders p (.pure _ : Recorded ε Html) _ := renders_pure hwhole
      rw [content_single, Html.content_append, hheadContent, content_single, hcellsContent] at hall
      exact hall
    · by_cases hnumber : type = "number".toList
      · simp only [hnumber, if_true, Option.some.injEq]
        exact hparts.items.single (by decide) (by simp)
      · simp only [htable, hnumber, if_false, Option.some.injEq]
        exact hbullets

/-- A reference to a symbol is rendered by its row. -/
theorem renderReference_renders (hparts : parts.Render p children) :
    Renders p (renderReference r attributes parts)
      (Table.reference r.answers attributes children) := by
  have hclasses : ∀ e ∈ [("class", "xref".toList)], e.1 = "class" ∨ e.1 = "href" := by simp
  unfold renderReference Table.reference
  cases attribute? attributes "cref" with
  | none => exact ⟨.nil, rfl, rfl, fun _ => trivial⟩
  | some cref =>
    cases hmark : Text.after? unboundMark cref with
    | some remainder =>
      simp only [hmark]
      exact (hparts.orText remainder).single (by decide) hclasses
    | none =>
      cases hreference : r.reference with
      | none =>
        simp only [hmark, Resolvers.answers, hreference]
        exact ⟨.nil, rfl, rfl, fun _ => trivial⟩
      | some resolve =>
        simp only [hmark, Resolvers.answers, hreference]
        exact Renders.after rfl (linkOrSpan_renders hclasses _ (hparts.orText _))

/-- A link is rendered by its row. -/
theorem renderSee_renders (hparts : parts.Render p children) (keywords : Bool) :
    Renders p (renderSee r attributes parts keywords)
      (Table.see r.answers attributes children keywords) := by
  unfold renderSee Table.see
  cases nonEmptyAttribute? attributes "href" with
  | some href => exact (hparts.orText href).single (by decide) (by simp)
  | none =>
    cases attribute? attributes "langword" with
    | none => cases keywords <;> exact renderReference_renders hparts
    | some word =>
      cases keywords with
      | false => exact renderReference_renders hparts
      | true =>
        exact Renders.after (r.outcome_askKeyword word)
          (linkOrSpan_renders (by simp) _ (hparts.orText word))

/-- A note is rendered by its row. -/
theorem renderNote_renders (hparts : parts.Render p children) :
    Renders p (renderNote attributes parts) (Table.note attributes children) := by
  rcases hparts.whole with ⟨h, houtcome, hcontent, hnamed⟩
  have hhead : (Html.single "h5" [] (.run ((attribute? attributes "type").getD
      "note".toList))).IsWellNamed := isWellNamed_single (by decide) (by simp) trivial
  unfold renderNote Table.note
  refine Renders.after houtcome ?_
  rw [← hcontent]
  exact ⟨_, rfl, by rw [content_single, Html.content_append]; rfl,
    fun hp => isWellNamed_single (by decide) (by simp) (hhead.append (hnamed hp))⟩

/-- An element is rendered by its row. -/
theorem renderElement_renders (hr : r.NeverFails) (hparts : parts.Render p children) {tag : Text}
    (htag : p → isPlainName .standard tag = true) :
    Renders p (renderElement r attributes parts tag)
      (Table.row r.answers attributes children tag) := by
  unfold renderElement Table.row
  cases Kind.of tag with
  | para => exact hparts.whole.single (by decide) (by simp)
  | code => exact renderCode_renders hr hparts
  | term => exact hparts.whole.single (by decide) (by simp)
  | description => exact hparts.whole
  | list => exact renderList_renders hparts
  | parameterReference =>
    cases attribute? attributes "name" with
    | none => exact hparts.whole.single (by decide) (by simp)
    | some name => exact (hparts.orText name).single (by decide) (by simp)
  | see => exact renderSee_renders hparts true
  | seeAlso => exact renderSee_renders hparts false
  | note => exact renderNote_renders hparts
  | unknown =>
    rcases hparts.whole with ⟨h, houtcome, hcontent, hnamed⟩
    have helement : (Html.element tag [] h .nil).content =
        .element tag [] (Table.whole children) .nil := by
      rw [← hcontent]
      rfl
    exact ⟨_, Recorded.outcome_map houtcome _, helement,
      fun hp => ⟨htag hp, by simp, hnamed hp, trivial⟩⟩

end Elements

/-! ## Fragments -/

section Nodes

variable {r : Resolvers ε}

/-- A fragment has nodes to show exactly when it has nodes. -/
theorem isEmpty_nodes (a : Answers) (f : Fragment) : f.isEmpty = (Table.nodes a f).isEmpty := by
  cases f <;> rfl

/-- The cells of a head hold the nodes that were rendered. -/
theorem content_cells {hs : List Html} {shown : List Table.Shown}
    (hcontent : hs.map Html.content = shown.map Table.Shown.whole) :
    (Html.concat (hs.map (Html.single "td" []))).content =
      Table.join ((shown.map Table.Shown.whole).map (Table.single "td" [])) := by
  rw [content_concat, ← hcontent, List.map_map, List.map_map]
  rfl

/-- What the renderings of a fragment are: its nodes, its list entries, its head and its cells. -/
structure RendersParts (p : Prop) (r : Resolvers ε) (f : Fragment) : Prop where
  nodes : RendersEach p (renderNodes r f) (Table.nodes r.answers f)
  items : Renders p (renderItems r f) (Table.entries (Table.nodes r.answers f))
  head : Renders p (renderHead r f) (Table.head (Table.nodes r.answers f))
  cells : Renders p (renderCells r f) (Table.cells (Table.nodes r.answers f))

/-- What the renderings of the children of an element are, as the table uses them. -/
theorem RendersParts.render {f : Fragment} (hf : RendersParts p r f) :
    Parts.Render p
      { isEmpty := f.isEmpty
        whole := fun _ => Html.concat <$> renderNodes r f
        items := fun _ => renderItems r f
        head := fun _ => renderHead r f
        cells := fun _ => renderCells r f } (Table.nodes r.answers f) where
  isEmpty := isEmpty_nodes r.answers f
  whole := hf.nodes.concat
  items := hf.items
  head := hf.head
  cells := hf.cells

/-- Nodes and siblings are rendered one after another. -/
theorem RendersEach.cons {x : Recorded ε Html} {y : Recorded ε (List Html)} {node : Table.Shown}
    {others : List Table.Shown} (hx : Renders p x node.whole) (hy : RendersEach p y others) :
    RendersEach p (x >>= fun h => y >>= fun hs => .pure (h :: hs)) (node :: others) := by
  rcases hx with ⟨h, hxOutcome, hcontent, hnamed⟩
  rcases hy with ⟨hs, hyOutcome, hcontents, hsNamed⟩
  refine ⟨h :: hs, ?_, ?_, fun hp => List.forall_mem_cons.2 ⟨hnamed hp, hsNamed hp⟩⟩
  · rw [Recorded.outcome_bind hxOutcome, Recorded.outcome_bind hyOutcome]
    rfl
  · rw [List.map_cons, List.map_cons, hcontent, hcontents]

/-- Two renderings, the first one put into place in front of the second one. -/
theorem Renders.append {x y : Recorded ε Html} {wrap : Html → Html} {g g₁ g₂ : Forest Text}
    (hx : Renders p x g) (hy : Renders p y g₂)
    (hwrap : ∀ h, h.content = g →
      (wrap h).content = g₁ ∧ (h.IsWellNamed → (wrap h).IsWellNamed)) :
    Renders p (x >>= fun h => y >>= fun others => .pure (wrap h ++ others)) (g₁.meet g₂) := by
  rcases hx with ⟨h, hxOutcome, hcontent, hnamed⟩
  rcases hy with ⟨others, hyOutcome, hothers, hothersNamed⟩
  rcases hwrap h hcontent with ⟨hwrapContent, hwrapNamed⟩
  refine ⟨wrap h ++ others, ?_, ?_, fun hp => (hwrapNamed (hnamed hp)).append (hothersNamed hp)⟩
  · rw [Recorded.outcome_bind hxOutcome, Recorded.outcome_bind hyOutcome]
    rfl
  · rw [Html.content_append, hwrapContent, hothers]

section Columns

variable {tag : Text} {attributes : List (Text × Text)} {children rest : Fragment}

/-- The list entries of an element and of what follows it. -/
theorem RendersParts.items_element (hinside : RendersParts p r children)
    (hbehind : RendersParts p r rest) :
    Renders p (renderItems r (.element tag attributes children rest))
      (Table.entries (Table.nodes r.answers (.element tag attributes children rest))) := by
  rw [renderItems]
  by_cases hitem : tag = "item".toList
  · subst hitem
    refine Renders.append hinside.render.whole hbehind.items ?_
    intro h hcontent
    constructor
    · rw [content_single, Html.content, hcontent]
      rfl
    · intro hnamed
      exact isWellNamed_single (by decide) (by simp) ⟨by decide, by simp, hnamed, trivial⟩
  · rw [if_neg hitem, Table.nodes, Table.entries_cons_of_ne (by simpa using hitem)]
    exact hbehind.items

/-- The head of a table from an element and what follows it. -/
theorem RendersParts.head_element (hinside : RendersParts p r children)
    (hbehind : RendersParts p r rest) :
    Renders p (renderHead r (.element tag attributes children rest))
      (Table.head (Table.nodes r.answers (.element tag attributes children rest))) := by
  rw [renderHead]
  by_cases hheader : tag = "listheader".toList
  · subst hheader
    rcases hinside.nodes with ⟨hs, houtcome, hcontent, hnamed⟩
    have hcells : p → ∀ h ∈ hs.map (Html.single "td" []), h.IsWellNamed := by
      intro hp h hh
      rcases List.mem_map.1 hh with ⟨node, hnode, rfl⟩
      exact isWellNamed_single (by decide) (by simp) (hnamed hp node hnode)
    refine Renders.after houtcome ⟨_, rfl, ?_, ?_⟩
    · rw [content_single, content_single, content_cells hcontent]
      rfl
    · intro hp
      exact isWellNamed_single (by decide) (by simp)
        (isWellNamed_single (by decide) (by simp) (isWellNamed_concat (hcells hp)))
  · rw [if_neg hheader, Table.nodes, Table.head_cons_of_ne (by simpa using hheader)]
    exact hbehind.head

/-- The cells of an element and of what follows it. -/
theorem RendersParts.cells_element (hinside : RendersParts p r children)
    (hbehind : RendersParts p r rest) :
    Renders p (renderCells r (.element tag attributes children rest))
      (Table.cells (Table.nodes r.answers (.element tag attributes children rest))) := by
  rw [renderCells]
  by_cases hitem : tag = "item".toList
  · subst hitem
    refine Renders.append hinside.render.whole hbehind.cells ?_
    intro h hcontent
    constructor
    · rw [content_single, hcontent]
      rfl
    · intro hnamed
      exact isWellNamed_single (by decide) (by simp) hnamed
  · rw [if_neg hitem, Table.nodes, Table.cells_cons_of_ne (by simpa using hitem)]
    exact hbehind.cells

end Columns

/-- The renderings of a fragment follow the table, and are well named when its tags are plain. -/
theorem rendersParts (hr : r.NeverFails) {f : Fragment} (hf : p → f.IsPlain) :
    RendersParts p r f := by
  induction f with
  | nil =>
    exact
      { nodes := ⟨[], by rw [renderNodes]; rfl, rfl, fun _ => by simp⟩
        items := ⟨.nil, by rw [renderItems]; rfl, rfl, fun _ => trivial⟩
        head := ⟨.nil, by rw [renderHead]; rfl, rfl, fun _ => trivial⟩
        cells := ⟨.nil, by rw [renderCells]; rfl, rfl, fun _ => trivial⟩ }
  | text run rest ih =>
    have hrest := ih fun hp => (hf hp).2
    refine { nodes := ?_, items := ?_, head := ?_, cells := ?_ }
    · rw [renderNodes]
      exact RendersEach.cons (x := .pure (.run run)) ⟨.run run, rfl, rfl, fun _ => trivial⟩
        hrest.nodes
    · rw [renderItems]
      exact hrest.items
    · rw [renderHead]
      exact hrest.head
    · rw [renderCells]
      exact hrest.cells
  | element tag attributes children rest ihChildren ihRest =>
    have hinside := ihChildren fun hp => (hf hp).2.1
    have hbehind := ihRest fun hp => (hf hp).2.2
    refine
      { nodes := ?_
        items := hinside.items_element hbehind
        head := hinside.head_element hbehind
        cells := hinside.cells_element hbehind }
    rw [renderNodes]
    exact RendersEach.cons (renderElement_renders hr hinside.render fun hp => (hf hp).1)
      hbehind.nodes

/-- A fragment is rendered by the table, and well named when its tags are plain. -/
theorem render_renders (hr : r.NeverFails) (f : Fragment) :
    Renders f.IsPlain (render r f) (Table.forest r.answers f) :=
  (rendersParts hr id).nodes.concat

/-- A rendering is spelled without failure. -/
theorem formatFragment_succeeds (hr : r.NeverFails) (f : Fragment) :
    ∃ html, (formatFragment r f).outcome = .ok html := by
  rcases render_renders hr f with ⟨h, houtcome, _, _⟩
  exact ⟨h.print, Recorded.outcome_map houtcome _⟩

/-- A rendering is spelled, and what is spelled reads as the table says, and as nothing else. -/
theorem formatFragment_reads_iff (hr : r.NeverFails) {f : Fragment} (hf : f.IsPlain) :
    ∃ html, (formatFragment r f).outcome = .ok html ∧
      ∀ g, Html.Reads html g ↔ g = Table.forest r.answers f := by
  rcases render_renders hr f with ⟨h, houtcome, hcontent, hnamed⟩
  have hreads : Html.Reads h.print (Table.forest r.answers f) :=
    hcontent ▸ Html.reads_print (hnamed hf)
  refine ⟨h.print, Recorded.outcome_map houtcome _, ?_⟩
  intro g
  constructor
  · intro hg
    exact hg.unique hreads
  · rintro rfl
    exact hreads

/-- Accepted markup is parsed to its fragment. -/
theorem outcome_parseMarkup {raw : Text} {f : Fragment} (hraw : Fragment.parse? raw = some f) :
    (parseMarkup raw).outcome = .ok f := by
  rw [parseMarkup, hraw]
  rfl

/-- Accepted markup is rendered without failure. The spelling reads as the table says, and as
nothing else, whatever the resolvers answer. -/
theorem formatMarkup_reads_iff {r : Resolvers Failure} (hr : r.NeverFails) {raw : Text}
    {f : Fragment} (hraw : Fragment.parse? raw = some f) :
    ∃ html, (formatMarkup r raw).outcome = .ok html ∧
      ∀ g, Html.Reads html g ↔ g = Table.forest r.answers f := by
  rcases formatFragment_reads_iff hr (Fragment.parse?_isPlain hraw) with ⟨html, houtcome, hreads⟩
  exact ⟨html, (Recorded.outcome_bind (outcome_parseMarkup hraw) _).trans houtcome, hreads⟩

/-- A symbol whose name and address look like tags and quotes. -/
theorem formatMarkup_reads_iff_link :
    let r : Resolvers Failure :=
      ⟨some fun _ => ("</a>".toList, some "'\"><i>&".toList), none, none⟩
    let raw := "<see cref='T:A'/>a&lt;b".toList
    let f : Fragment := .element "see".toList [("cref".toList, "T:A".toList)] .nil
      (.text "a<b".toList .nil)
    r.NeverFails ∧ Fragment.parse? raw = some f ∧
      ∃ html, (formatMarkup r raw).outcome = .ok html ∧
        ∀ g, Html.Reads html g ↔ g = .element "a".toList
          [("class".toList, "xref".toList), ("href".toList, "'\"><i>&".toList)]
          (.text "</a>".toList .nil) (.text "a<b".toList .nil) := by
  intro r raw f
  have hr : r.NeverFails := by
    intro load hload
    simp [r] at hload
  have hraw : Fragment.parse? raw = some f := by decide +kernel
  exact ⟨hr, hraw, formatMarkup_reads_iff hr hraw⟩

end Nodes
end DocMarkup
