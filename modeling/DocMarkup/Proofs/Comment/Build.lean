import DocMarkup.Proofs.Comment.Member
import DocMarkup.Proofs.Render.Rendered

/-!
# Comments of members

A member keeps the inner markup of its elements, and building parses that markup again. What comes
back is the content of the element with the line breaks of its text unified, so a comment shows what
the member says up to carriage returns, and building fails for no member.

Main definitions:

- {lit}`served`: the content of an element as it is parsed from its inner markup.
- {lit}`shown`: what a field shows of some content.
- {lit}`Provider.IsReadable`: a provider whose markup can be read.

Main results:

- Theorem {lit}`formatField_markupOf`: a field shows the served content of its element.
- Theorem {lit}`Provider.IsReadable.build_succeeds`: comments are built from what can be read.
- Theorem {lit}`Member.provider_isReadable`: whatever markup a member serves can be read.
- Theorem {lit}`Member.build_shows`: what the comment of a member shows.
-/

namespace DocMarkup

open Xml (QName readContent? writeContent IsPlainContent)

variable {r : Resolvers Failure} {html : Fragment → Text}

/-! ## Fields -/

/-- The content of an element as it is parsed from its inner markup. -/
def served (content : Forest QName) : Forest QName := content.mapText Text.unifyBreaks

/-- What a field shows of some content: nothing when there is none. -/
def shown (html : Fragment → Text) (content : Forest QName) : Option Text :=
  if content.isEmpty then none else some (html (Fragment.ofContent content))

/-- Accepted markup is rendered as its fragment. -/
theorem formatMarkup_eq {raw : Text} {f : Fragment} (hraw : Fragment.parse? raw = some f)
    (r : Resolvers Failure) : formatMarkup r raw = formatFragment r f := by
  rw [formatMarkup, parseMarkup, hraw]
  rfl

/-- Markup that can be read is formatted as its fragment is. -/
theorem outcome_formatMarkup (hhtml : ∀ f, (formatFragment r f).outcome = .ok (html f)) {raw : Text}
    {content : Forest QName} (hraw : readContent? raw = some content) :
    (formatMarkup r raw).outcome = .ok (html (Fragment.ofContent content)) := by
  have hparse : Fragment.parse? raw = some (Fragment.ofContent content) := by
    rw [Fragment.parse?, hraw]
    rfl
  unfold formatMarkup
  rw [Recorded.outcome_bind (outcome_parseMarkup hparse)]
  exact hhtml _

/-- A field with markup that can be read is formatted. -/
theorem formatField_succeeds (hhtml : ∀ f, (formatFragment r f).outcome = .ok (html f)) {raw : Text}
    (hraw : (readContent? raw).isSome) :
    ∃ field, (formatField r (some raw)).outcome = .ok field := by
  rcases Option.isSome_iff_exists.1 hraw with ⟨content, hcontent⟩
  cases raw with
  | nil => exact ⟨none, rfl⟩
  | cons c raw => exact ⟨_, Recorded.outcome_map (outcome_formatMarkup hhtml hcontent) some⟩

/-- A field shows the served content of its element. -/
theorem formatField_markupOf (hhtml : ∀ f, (formatFragment r f).outcome = .ok (html f))
    {e : Forest.Element QName} (he : IsPlainContent e.children) :
    (formatField r (some (Member.markupOf e))).outcome = .ok (shown html (served e.children)) := by
  have hread : readContent? (Member.markupOf e) = some (served e.children) :=
    Xml.readContent?_writeContent he
  have hempty : (served e.children).isEmpty = e.children.isEmpty := Forest.isEmpty_mapText _ _
  unfold shown
  cases hchildren : e.children.isEmpty with
  | true =>
    have hnil : Member.markupOf e = [] := by
      rw [Member.markupOf, Forest.eq_nil_of_isEmpty hchildren]
      rfl
    rw [hnil, hempty, hchildren]
    rfl
  | false =>
    have hne : Member.markupOf e ≠ [] := Xml.writeContent_ne_nil he.2 hchildren
    rw [hempty, hchildren]
    cases hmarkup : Member.markupOf e with
    | nil => exact absurd hmarkup hne
    | cons c raw =>
      rw [hmarkup] at hread
      exact Recorded.outcome_map (outcome_formatMarkup hhtml hread) some

/-- A field of a member shows the served content of an element, if there is one. -/
theorem formatField_map (hhtml : ∀ f, (formatFragment r f).outcome = .ok (html f))
    {e? : Option (Forest.Element QName)} (he : ∀ e ∈ e?, IsPlainContent e.children) :
    (formatField r (e?.map Member.markupOf)).outcome =
      .ok (e?.bind fun e => shown html (served e.children)) := by
  cases e? with
  | none => rfl
  | some e => exact formatField_markupOf hhtml (he e rfl)

/-- Named fields show each name once, with what the field of that name shows. -/
theorem outcome_formatNamed {names : List Text} {text value : Text → Option Text}
    (hfield : ∀ name ∈ names, (formatField r (text name)).outcome = .ok (value name)) :
    (formatNamed r names text).outcome =
      .ok ((Assoc.distinct names).map fun name => (name, value name)) := by
  unfold formatNamed
  rw [← Assoc.ofList_map]
  refine Recorded.outcome_map (Recorded.outcome_each ?_) Assoc.ofList
  intro name hname
  exact Recorded.outcome_map (hfield name hname) fun rendered => (name, rendered)

/-- Named fields with markup that can be read are formatted. -/
theorem formatNamed_succeeds {names : List Text} {text : Text → Option Text}
    (hfield : ∀ name ∈ names, ∃ field, (formatField r (text name)).outcome = .ok field) :
    ∃ fields, (formatNamed r names text).outcome = .ok fields := by
  have heach : ∃ entries, (Recorded.each
      (fun name => (fun rendered => (name, rendered)) <$> formatField r (text name))
      names).outcome = .ok entries := by
    refine Recorded.each_succeeds ?_
    intro name hname
    rcases hfield name hname with ⟨field, houtcome⟩
    exact ⟨(name, field), Recorded.outcome_map houtcome fun rendered => (name, rendered)⟩
  rcases heach with ⟨entries, hentries⟩
  exact ⟨Assoc.ofList entries, Recorded.outcome_map hentries Assoc.ofList⟩

/-- The see-also links of a fragment are found. -/
theorem collectSeeAlsos_succeeds (hhtml : ∀ f, (formatFragment r f).outcome = .ok (html f))
    (f : Fragment) : ∃ links, (collectSeeAlsos r f).outcome = .ok links := by
  have heach : ∃ links, (Recorded.each (seeAlso? r) (seeAlsoElements f)).outcome = .ok links := by
    refine Recorded.each_succeeds ?_
    intro e _
    unfold seeAlso?
    cases linkOf? e.attributes with
    | none => exact ⟨none, rfl⟩
    | some link =>
      rcases link with ⟨target, type⟩
      exact ⟨_, Recorded.outcome_bind (hhtml e.children) _⟩
  rcases heach with ⟨links, hlinks⟩
  exact ⟨_, Recorded.outcome_map hlinks _⟩

/-- The see-also links of markup that can be read are found. -/
theorem seeAlsosOfMarkup_succeeds (hhtml : ∀ f, (formatFragment r f).outcome = .ok (html f))
    {raw : Text} {content : Forest QName} (hraw : readContent? raw = some content) :
    ∃ links, (seeAlsosOfMarkup r raw).outcome = .ok links := by
  have hparse : Fragment.parse? raw = some (Fragment.ofContent content) := by
    rw [Fragment.parse?, hraw]
    rfl
  unfold seeAlsosOfMarkup
  rw [Recorded.outcome_bind (outcome_parseMarkup hparse)]
  exact collectSeeAlsos_succeeds hhtml _

/-! ## Providers -/

namespace Provider

/-- What a rendering for a provider may ask. -/
abbrev resolvers (p : Provider) (source : Option (Text → Recorded Failure (Option Text)))
    (keyword : Option (Text → Option Text)) : Resolvers Failure :=
  ⟨some p.resolve, source, keyword⟩

/-- A comment is built when each of its fields is. -/
theorem outcome_build {p : Provider} {source : Option (Text → Recorded Failure (Option Text))}
    {keyword : Option (Text → Option Text)} {c : Comment} {examples : List (Option Text)}
    (hexceptions : (formatNamed (p.resolvers source keyword) (Assoc.distinct p.exceptionTypes)
      fun type => some (Text.joinLines (p.exceptionTexts type))).outcome = .ok c.exceptions)
    (hexamples : (Recorded.each (fun raw => formatField (p.resolvers source keyword) (some raw))
      p.examples).outcome = .ok examples)
    (hsummary : (formatField (p.resolvers source keyword) p.summary).outcome = .ok c.summary)
    (hremarks : (formatField (p.resolvers source keyword) p.remarks).outcome = .ok c.remarks)
    (hreturns : (formatField (p.resolvers source keyword) p.returns).outcome = .ok c.returns)
    (hparameters : (formatNamed (p.resolvers source keyword) p.parameterNames
      p.parameterText).outcome = .ok c.parameters)
    (htypeParameters : (formatNamed (p.resolvers source keyword) p.typeParameterNames
      p.typeParameterText).outcome = .ok c.typeParameters)
    (hseeAlsos : (seeAlsosOfMarkup (p.resolvers source keyword) p.full).outcome =
      .ok c.seeAlsos)
    (hfilter : c.examples = examples.filterMap id) :
    (p.build source keyword).outcome = .ok c := by
  unfold build
  rw [Recorded.outcome_bind hexceptions, Recorded.outcome_bind hexamples,
    Recorded.outcome_bind hsummary, Recorded.outcome_bind hremarks,
    Recorded.outcome_bind hreturns, Recorded.outcome_bind hparameters,
    Recorded.outcome_bind htypeParameters, Recorded.outcome_bind hseeAlsos, ← hfilter]
  rfl

/-- Whatever markup a provider serves can be read. -/
structure IsReadable (p : Provider) : Prop where
  summary : ∀ raw ∈ p.summary, (readContent? raw).isSome
  remarks : ∀ raw ∈ p.remarks, (readContent? raw).isSome
  returns : ∀ raw ∈ p.returns, (readContent? raw).isSome
  examples : ∀ raw ∈ p.examples, (readContent? raw).isSome
  parameters : ∀ name, ∀ raw ∈ p.parameterText name, (readContent? raw).isSome
  typeParameters : ∀ name, ∀ raw ∈ p.typeParameterText name, (readContent? raw).isSome
  exceptions : ∀ type, (readContent? (Text.joinLines (p.exceptionTexts type))).isSome
  full : (readContent? p.full).isSome

/-- The comment of a provider is built when the source fails for nothing and whatever markup there is
can be read. -/
theorem IsReadable.build_succeeds {p : Provider} (hp : p.IsReadable)
    {source : Option (Text → Recorded Failure (Option Text))}
    (hsource : ∀ load ∈ source, ∀ id, ∃ code, (load id).outcome = .ok code)
    (keyword : Option (Text → Option Text)) : ∃ c, (p.build source keyword).outcome = .ok c := by
  have hnever : (p.resolvers source keyword).NeverFails := hsource
  rcases Classical.axiomOfChoice (formatFragment_succeeds hnever) with ⟨html, hhtml⟩
  have hfield : ∀ raw? : Option Text, (∀ raw ∈ raw?, (readContent? raw).isSome) →
      ∃ field, (formatField (p.resolvers source keyword) raw?).outcome = .ok field := by
    intro raw? hraw
    cases raw? with
    | none => exact ⟨none, rfl⟩
    | some raw => exact formatField_succeeds hhtml (hraw raw rfl)
  have hexceptions : ∃ exceptions, (formatNamed (p.resolvers source keyword)
      (Assoc.distinct p.exceptionTypes)
      fun type => some (Text.joinLines (p.exceptionTexts type))).outcome = .ok exceptions :=
    formatNamed_succeeds fun type _ => formatField_succeeds hhtml (hp.exceptions type)
  have hexamples : ∃ examples, (Recorded.each
      (fun raw => formatField (p.resolvers source keyword) (some raw)) p.examples).outcome =
        .ok examples :=
    Recorded.each_succeeds fun raw hraw => formatField_succeeds hhtml (hp.examples raw hraw)
  have hparameters : ∃ parameters, (formatNamed (p.resolvers source keyword) p.parameterNames
      p.parameterText).outcome = .ok parameters :=
    formatNamed_succeeds fun name _ => hfield _ (hp.parameters name)
  have htypeParameters : ∃ typeParameters, (formatNamed (p.resolvers source keyword)
      p.typeParameterNames p.typeParameterText).outcome = .ok typeParameters :=
    formatNamed_succeeds fun name _ => hfield _ (hp.typeParameters name)
  rcases hexceptions with ⟨exceptions, hexceptions⟩
  rcases hexamples with ⟨examples, hexamples⟩
  rcases hfield _ hp.summary with ⟨summary, hsummary⟩
  rcases hfield _ hp.remarks with ⟨remarks, hremarks⟩
  rcases hfield _ hp.returns with ⟨returns, hreturns⟩
  rcases hparameters with ⟨parameters, hparameters⟩
  rcases htypeParameters with ⟨typeParameters, htypeParameters⟩
  rcases Option.isSome_iff_exists.1 hp.full with ⟨content, hcontent⟩
  rcases seeAlsosOfMarkup_succeeds hhtml hcontent with ⟨seeAlsos, hseeAlsos⟩
  exact ⟨⟨summary, remarks, returns, parameters, typeParameters, exceptions, seeAlsos, _⟩,
    outcome_build hexceptions hexamples hsummary hremarks hreturns hparameters htypeParameters
      hseeAlsos rfl⟩

end Provider

/-! ## Members -/

namespace Member

variable {content : Forest QName}

/-- The outermost elements of content hold content. -/
theorem isPlainContent_of_mem (hcontent : IsPlainContent content) {e : Forest.Element QName}
    (he : e ∈ content.elements) : IsPlainContent e.children :=
  ⟨(hcontent.1.of_mem_elements he).2, hcontent.2.of_mem_elements he⟩

/-- An element of a tag is an outermost element. -/
theorem mem_elements_of_mem_outermost {tag : Text} {e : Forest.Element QName}
    (he : e ∈ outermost content tag) : e ∈ content.elements :=
  (List.mem_filter.1 he).1

/-- An element that serves a field holds content. -/
theorem isPlainContent_of_mem_head? (hcontent : IsPlainContent content) {tag : Text} :
    ∀ e ∈ (outermost content tag).head?, IsPlainContent e.children := by
  intro e he
  exact isPlainContent_of_mem hcontent (mem_elements_of_mem_outermost (List.mem_of_mem_head? he))

/-- An element that serves a name holds content. -/
theorem isPlainContent_of_mem_named? (hcontent : IsPlainContent content) {tag name : Text} :
    ∀ e ∈ named? content tag name, IsPlainContent e.children := by
  intro e he
  exact isPlainContent_of_mem hcontent (List.mem_of_find?_eq_some he)

/-- The inner markup of an element that holds content can be read. -/
theorem readContent?_markupOf {e : Forest.Element QName} (he : IsPlainContent e.children) :
    readContent? (markupOf e) = some (served e.children) :=
  Xml.readContent?_writeContent he

/-- The inner markup of an element that is there can be read when the element holds content. -/
theorem readContent?_of_mem_map {e? : Option (Forest.Element QName)}
    (he : ∀ e ∈ e?, IsPlainContent e.children) :
    ∀ text ∈ e?.map markupOf, (readContent? text).isSome := by
  intro text htext
  rcases Option.map_eq_some_iff.1 htext with ⟨e, hmem, rfl⟩
  rw [readContent?_markupOf (he e hmem)]
  rfl

/-- The joined texts of an exception can be read. -/
theorem readContent?_exceptionTexts (hcontent : IsPlainContent content) (type : Text) :
    (readContent? (Text.joinLines
      ((Assoc.get? type (ofContent content).exceptions).getD []))).isSome := by
  refine Xml.readContent?_joinLines ?_
  intro text htext
  cases hget : Assoc.get? type (ofContent content).exceptions with
  | none => simp [hget] at htext
  | some texts =>
    rw [hget, Option.getD_some] at htext
    rcases mem_exceptions (Assoc.mem_of_get? hget) htext with ⟨e, he, rfl⟩
    rw [readContent?_markupOf (isPlainContent_of_mem hcontent he)]
    rfl

/-- Whatever markup a member serves can be read. -/
theorem provider_isReadable {raw : Text} (hraw : readContent? raw = some content)
    (s : Surroundings) : ((ofContent content).provider raw s).IsReadable := by
  have hcontent : IsPlainContent content := Xml.readContent?_isContent hraw
  have hfield : ∀ tag, tag ∉ groupTags → ∀ text ∈ Assoc.get? tag (ofContent content).fields,
      (readContent? text).isSome := by
    intro tag htag
    rw [get?_fields content htag]
    exact readContent?_of_mem_map (isPlainContent_of_mem_head? hcontent)
  refine
    { summary := hfield _ (by decide)
      remarks := hfield _ (by decide)
      returns := hfield _ (by decide)
      examples := ?_
      parameters := ?_
      typeParameters := ?_
      exceptions := readContent?_exceptionTexts hcontent
      full := Option.isSome_iff_exists.2 ⟨content, hraw⟩ }
  · intro text htext
    change text ∈ (ofContent content).examples at htext
    rw [examples_ofContent] at htext
    rcases List.mem_map.1 htext with ⟨e, he, rfl⟩
    rw [readContent?_markupOf (isPlainContent_of_mem hcontent (mem_elements_of_mem_outermost he))]
    rfl
  · intro name
    change ∀ text ∈ Assoc.get? name (ofContent content).parameters, _
    rw [get?_parameters]
    exact readContent?_of_mem_map (isPlainContent_of_mem_named? hcontent)
  · intro name
    change ∀ text ∈ Assoc.get? name (ofContent content).typeParameters, _
    rw [get?_typeParameters]
    exact readContent?_of_mem_map (isPlainContent_of_mem_named? hcontent)

/-- A field of a member shows the first element of its tag. -/
theorem outcome_field (hhtml : ∀ f, (formatFragment r f).outcome = .ok (html f))
    (hcontent : IsPlainContent content) {tag : Text} (htag : tag ∉ groupTags) :
    (formatField r (Assoc.get? tag (ofContent content).fields)).outcome =
      .ok ((outermost content tag).head?.bind fun e => shown html (served e.children)) := by
  rw [get?_fields content htag]
  exact formatField_map hhtml (isPlainContent_of_mem_head? hcontent)

/-- A parameter of a member shows the first element of its tag and name. -/
theorem outcome_parameter (hhtml : ∀ f, (formatFragment r f).outcome = .ok (html f))
    (hcontent : IsPlainContent content) (name : Text) :
    (formatField r (Assoc.get? name (ofContent content).parameters)).outcome =
      .ok ((named? content "param".toList name).bind fun e => shown html (served e.children)) := by
  rw [get?_parameters]
  exact formatField_map hhtml (isPlainContent_of_mem_named? hcontent)

/-- A type parameter of a member shows the first element of its tag and name. -/
theorem outcome_typeParameter (hhtml : ∀ f, (formatFragment r f).outcome = .ok (html f))
    (hcontent : IsPlainContent content) (name : Text) :
    (formatField r (Assoc.get? name (ofContent content).typeParameters)).outcome =
      .ok ((named? content "typeparam".toList name).bind
        fun e => shown html (served e.children)) := by
  rw [get?_typeParameters]
  exact formatField_map hhtml (isPlainContent_of_mem_named? hcontent)

/-- The examples of a member show the elements of their tag, in order. -/
theorem outcome_examples (hhtml : ∀ f, (formatFragment r f).outcome = .ok (html f))
    (hcontent : IsPlainContent content) :
    (Recorded.each (fun raw => formatField r (some raw)) (ofContent content).examples).outcome =
      .ok ((outermost content "example".toList).map fun e => shown html (served e.children)) := by
  rw [examples_ofContent, Recorded.each_map]
  refine Recorded.outcome_each ?_
  intro e he
  exact formatField_markupOf hhtml
    (isPlainContent_of_mem hcontent (mem_elements_of_mem_outermost he))

/-- What the comment of a member shows, for content that can be read and a source that always
answers: each field the first element of its tag, the examples in order, each name the first element
that has it. What is shown of an element is its content with the line breaks of its text unified,
which is the content itself exactly when the text has no carriage return. -/
theorem build_shows {raw : Text} (hraw : readContent? raw = some content) (s : Surroundings)
    {source : Option (Text → Recorded Failure (Option Text))}
    (hsource : ∀ load ∈ source, ∀ id, ∃ code, (load id).outcome = .ok code)
    (keyword : Option (Text → Option Text)) :
    let p := (ofContent content).provider raw s
    ∃ html : Fragment → Text,
      (∀ f, (formatFragment ⟨some p.resolve, source, keyword⟩ f).outcome = .ok (html f)) ∧
      ∃ c, (p.build source keyword).outcome = .ok c ∧
        let show? := fun e : Forest.Element QName => shown html (served e.children)
        c.summary = (outermost content "summary".toList).head?.bind show? ∧
        c.remarks = (outermost content "remarks".toList).head?.bind show? ∧
        c.returns = (outermost content "returns".toList).head?.bind show? ∧
        c.examples = (outermost content "example".toList).filterMap show? ∧
        c.parameters =
          (Assoc.distinct (s.parameterNames.getD (namesOf content "param".toList))).map
            (fun name => (name, (named? content "param".toList name).bind show?)) ∧
        c.typeParameters =
          (Assoc.distinct (s.typeParameterNames.getD (namesOf content "typeparam".toList))).map
            (fun name => (name, (named? content "typeparam".toList name).bind show?)) ∧
        ∀ e ∈ content.elements,
          readContent? (writeContent e.children) = some (served e.children) ∧
          (served e.children = e.children ↔ e.children.Forall (· ≠ '\r') fun _ _ => True) := by
  intro p
  have hcontent : IsPlainContent content := Xml.readContent?_isContent hraw
  have hnever : (p.resolvers source keyword).NeverFails := hsource
  rcases Classical.axiomOfChoice (formatFragment_succeeds hnever) with ⟨html, hhtml⟩
  have hparameters := outcome_formatNamed fun name (_ : name ∈ p.parameterNames) =>
    outcome_parameter hhtml hcontent name
  have htypeParameters := outcome_formatNamed fun name (_ : name ∈ p.typeParameterNames) =>
    outcome_typeParameter hhtml hcontent name
  have hexceptions : ∃ exceptions, (formatNamed (p.resolvers source keyword)
      (Assoc.distinct p.exceptionTypes)
      fun type => some (Text.joinLines (p.exceptionTexts type))).outcome = .ok exceptions :=
    formatNamed_succeeds fun type _ =>
      formatField_succeeds hhtml (readContent?_exceptionTexts hcontent type)
  rcases hexceptions with ⟨exceptions, hexceptions⟩
  rcases seeAlsosOfMarkup_succeeds hhtml hraw with ⟨seeAlsos, hseeAlsos⟩
  rw [← keys_parameters, ← keys_typeParameters]
  refine ⟨html, hhtml, ⟨_, _, _, _, _, exceptions, seeAlsos, _⟩,
    Provider.outcome_build hexceptions (outcome_examples hhtml hcontent)
      (outcome_field hhtml hcontent (by decide)) (outcome_field hhtml hcontent (by decide))
      (outcome_field hhtml hcontent (by decide)) hparameters htypeParameters hseeAlsos
      (List.filterMap_map ..).symm,
    rfl, rfl, rfl, rfl, rfl, rfl, ?_⟩
  intro e he
  exact ⟨readContent?_markupOf (isPlainContent_of_mem hcontent he),
    Xml.mapText_unifyBreaks_eq_self_iff _⟩

/-- A carriage return in a summary, given by number, is shown as a line feed. -/
theorem build_shows_return :
    let raw := "<summary>a&#13;b</summary>".toList
    let content : Forest QName :=
      .element ⟨none, "summary".toList⟩ [] (.text "a\rb".toList .nil) .nil
    readContent? raw = some content ∧
      ∃ c, (((ofContent content).provider raw ⟨[], none, none⟩).build none none).outcome = .ok c ∧
        c.summary = some "a\nb".toList := by
  intro raw content
  have hraw : readContent? raw = some content := by decide +kernel
  have hsource : ∀ load ∈ (none : Option (Text → Recorded Failure (Option Text))),
      ∀ id, ∃ code, (load id).outcome = .ok code := by simp
  rcases build_shows hraw ⟨[], none, none⟩ hsource none with ⟨html, hhtml, c, hc, hsummary, _⟩
  have htext : html (.text "a\nb".toList .nil) = "a\nb".toList :=
    (Except.ok.inj (hhtml (.text "a\nb".toList .nil))).symm
  refine ⟨hraw, c, hc, ?_⟩
  rw [hsummary]
  exact congrArg some htext

end Member
end DocMarkup
