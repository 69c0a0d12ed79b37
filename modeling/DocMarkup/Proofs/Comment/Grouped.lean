import DocMarkup.Proofs.Comment.Joined
import Mathlib.Data.List.Perm.Basic

/-!
# Groups of a member

A member has three rules for elements that repeat: of several parameters of one name the first
counts, the texts of one exception are collected under its uid, and examples are all kept. Whatever
the rule, an element is taken up once, at its place, and only the outermost elements are.

Main definitions:

- {lit}`Member.tags`: the names and attributes of the outermost elements.
- {lit}`Shows`: what a field of a comment shows of a markup.

Main results:

- Theorem {lit}`Member.get?_exceptions`: the texts of an exception are those of its elements.
- Theorem {lit}`flatMap_filter_perm`: elements under distinct keys are the elements that have one.
- Theorem {lit}`Member.provider_groups`: what a member's provider holds, and what is built of it.
-/

namespace DocMarkup

open Xml (QName readContent?)

/-! ## Elements under keys -/

/-- The members of a list under each of several distinct keys are the members that have one of these
keys, each as often as it is listed. -/
theorem flatMap_filter_perm {κ β : Type} [DecidableEq κ] (key? : β → Option κ) {keys : List κ}
    (hkeys : keys.Nodup) (l : List β) :
    (keys.flatMap fun key => l.filter fun b => key? b = some key).Perm
      (l.filter fun b => ∃ key ∈ keys, key? b = some key) := by
  induction keys with
  | nil => simp
  | cons key keys ih =>
    rcases List.nodup_cons.1 hkeys with ⟨hnotMem, hrest⟩
    let own b := decide (key? b = some key)
    let any b := decide (∃ k ∈ key :: keys, key? b = some k)
    have hown : l.filter own = (l.filter any).filter own := by
      rw [List.filter_filter]
      congr 1
      funext b
      by_cases hb : key? b = some key
      · simp [own, any, hb]
      · simp [own, hb]
    -- the other keys are distinct from this one, so their members are those it leaves
    have hothers : (l.filter fun b => ∃ k ∈ keys, key? b = some k) =
        (l.filter any).filter fun b => !own b := by
      rw [List.filter_filter]
      congr 1
      funext b
      by_cases hb : key? b = some key
      · simp [own, hb, hnotMem]
      · simp [own, any, hb]
    rw [List.flatMap_cons]
    refine ((ih hrest).append_left _).trans ?_
    rw [hothers]
    change (l.filter own ++ _).Perm (l.filter any)
    rw [hown]
    exact List.filter_append_perm own (l.filter any)

namespace Member

variable {content other : Forest QName}

/-! ## Exceptions -/

/-- The texts of an exception are joined by those of the elements of its type, in order. -/
theorem get?_foldl_addException (type : Text) (elements : List (Forest.Element QName))
    (groups : List (Text × List Text)) :
    (Assoc.get? type (elements.foldl addException groups)).getD [] =
      (Assoc.get? type groups).getD [] ++
        (elements.filter fun e => exceptionOf? e = some type).map markupOf := by
  induction elements generalizing groups with
  | nil => simp
  | cons e elements ih =>
    rw [List.foldl_cons, ih, List.filter_cons, addException]
    cases hkey : exceptionOf? e with
    | none => simp
    | some type' =>
      by_cases htype : type' = type
      · simp [addToGroup, Assoc.get?_insert, htype]
      · simp [addToGroup, Assoc.get?_insert, htype]

/-- The texts of an exception are the inner markup of the elements of its type, in order. -/
theorem get?_exceptions (content : Forest QName) (type : Text) :
    (Assoc.get? type (ofContent content).exceptions).getD [] =
      (content.elements.filter fun e => exceptionOf? e = some type).map markupOf := by
  rw [ofContent, foldl_add]
  exact get?_foldl_addException type content.elements []

/-- The types of exceptions are those that elements describe, in the order of their first one. -/
theorem keys_exceptions (content : Forest QName) :
    (ofContent content).exceptions.map Prod.fst =
      Assoc.distinct (content.elements.filterMap exceptionOf?) := by
  rw [ofContent, foldl_add]
  refine Assoc.keys_foldl ?_ ?_ content.elements
  · intro groups e hkey
    rw [addException, hkey]
  · intro groups e type hkey
    rw [addException, hkey]
    exact Assoc.keys_insert

/-- The texts of all exceptions are those of the elements that describe one, each under one type. -/
theorem flatMap_exceptionTexts_perm (content : Forest QName) :
    ((content.elements.filterMap exceptionOf?).eraseDups.flatMap fun type =>
        (content.elements.filter fun e => exceptionOf? e = some type).map markupOf).Perm
      ((content.elements.filter fun e => (exceptionOf? e).isSome).map markupOf) := by
  have hnodup := Assoc.nodup_distinct (content.elements.filterMap exceptionOf?)
  rw [Assoc.distinct_eq_eraseDups] at hnodup
  have hkeys := (flatMap_filter_perm exceptionOf? hnodup content.elements).map markupOf
  rw [List.map_flatMap] at hkeys
  have hall : (content.elements.filter fun e => ∃ key ∈ (content.elements.filterMap
        exceptionOf?).eraseDups, exceptionOf? e = some key) =
      content.elements.filter fun e => (exceptionOf? e).isSome := by
    refine List.filter_congr fun e he => ?_
    cases hkey : exceptionOf? e with
    | none => simp
    | some type =>
      have hmem : type ∈ (content.elements.filterMap exceptionOf?).eraseDups :=
        List.mem_eraseDups.2 (List.mem_filterMap.2 ⟨e, he, hkey⟩)
      exact decide_eq_true ⟨type, hmem, rfl⟩
  rwa [hall] at hkeys

/-! ## Outermost elements -/

/-- The names and attributes of the outermost elements. -/
def tags (content : Forest QName) : List (QName × List (QName × Text)) :=
  content.elements.map fun e => (e.name, e.attributes)

/-- What is selected of outermost elements by their names and attributes is as many elements in
contents that differ within these elements only. -/
theorem length_filter_of_tags {q : Forest.Element QName → Bool}
    (hq : ∀ e, q e = q ⟨e.name, e.attributes, .nil⟩) (h : tags other = tags content) :
    (other.elements.filter q).length = (content.elements.filter q).length := by
  let onTag (tag : QName × List (QName × Text)) := q ⟨tag.1, tag.2, .nil⟩
  have hall : ∀ content : Forest QName,
      (content.elements.filter q).length = ((tags content).filter onTag).length := by
    intro content
    rw [tags, List.filter_map, List.length_map]
    congr 2
    exact funext hq
  rw [hall, hall, h]

/-- What the outermost elements give by their names and attributes is the same in contents that
differ within these elements only. -/
theorem filterMap_of_tags {key? : Forest.Element QName → Option Text}
    (hkey : ∀ e, key? e = key? ⟨e.name, e.attributes, .nil⟩) (h : tags other = tags content) :
    other.elements.filterMap key? = content.elements.filterMap key? := by
  let onTag (tag : QName × List (QName × Text)) := key? ⟨tag.1, tag.2, .nil⟩
  have hall : ∀ content : Forest QName,
      content.elements.filterMap key? = (tags content).filterMap onTag := by
    intro content
    rw [tags, List.filterMap_map]
    congr 1
    exact funext hkey
  rw [hall, hall, h]

end Member

/-! ## Comments -/

/-- What a field of a comment shows of a markup: nothing when there is none or it is empty, and its
rendering otherwise. -/
def Shows (r : Resolvers Failure) (markup : Option Text) (field : Option Text) : Prop :=
  if markup = none ∨ markup = some [] then field = none
  else ∃ raw html, markup = some raw ∧ (formatMarkup r raw).outcome = .ok html ∧ field = some html

/-- A field that is formatted shows its markup. -/
theorem shows_of_formatField {r : Resolvers Failure} {markup field : Option Text}
    (h : (formatField r markup).outcome = .ok field) : Shows r markup field := by
  match markup with
  | none => cases h; simp [Shows]
  | some [] => cases h; simp [Shows]
  | some (first :: rest) =>
    rcases Recorded.outcome_map_eq_ok h with ⟨html, hhtml, rfl⟩
    simp [Shows, hhtml]

/-- Named fields that are formatted are the distinct names, each with what is shown of its markup. -/
theorem shows_of_formatNamed {r : Resolvers Failure} {names : List Text}
    {text : Text → Option Text} {fields : List (Text × Option Text)}
    (h : (formatNamed r names text).outcome = .ok fields) :
    ∃ value : Text → Option Text, fields = (names.eraseDups.map fun name => (name, value name)) ∧
      ∀ name ∈ names, Shows r (text name) (value name) := by
  rcases exists_of_formatNamed h with ⟨value, hvalue, rfl⟩
  rw [Assoc.distinct_eq_eraseDups]
  exact ⟨value, rfl, fun name hname => shows_of_formatField (hvalue name hname)⟩

namespace Member

variable {content : Forest QName}

section Providers

variable (content : Forest QName) (raw : Text) (s : Surroundings)

/-- The names of parameters are the declared ones, or else those of the elements of their tag. -/
theorem parameterNames_ofContent :
    ((ofContent content).provider raw s).parameterNames =
      s.parameterNames.getD (content.elements.filterMap (keyOf? "param".toList)).eraseDups := by
  rw [← Assoc.distinct_eq_eraseDups, ← namesOf, ← keys_parameters]
  rfl

/-- The names of type parameters are the declared ones, or else those of the elements of their
tag. -/
theorem typeParameterNames_ofContent :
    ((ofContent content).provider raw s).typeParameterNames =
      s.typeParameterNames.getD
        (content.elements.filterMap (keyOf? "typeparam".toList)).eraseDups := by
  rw [← Assoc.distinct_eq_eraseDups, ← namesOf, ← keys_typeParameters]
  rfl

/-- The types of exceptions are those that elements describe. -/
theorem exceptionTypes_ofContent :
    ((ofContent content).provider raw s).exceptionTypes =
      (content.elements.filterMap exceptionOf?).eraseDups := by
  rw [← Assoc.distinct_eq_eraseDups, ← keys_exceptions]
  rfl

/-- The texts of an exception are those of its elements. -/
theorem exceptionTexts_ofContent (type : Text) :
    ((ofContent content).provider raw s).exceptionTexts type =
      (content.elements.filter fun e => exceptionOf? e = some type).map markupOf :=
  get?_exceptions content type

/-- Exceptions that are formatted are the types, each once. -/
theorem keys_formatNamed_exceptions {r : Resolvers Failure} {text : Text → Option Text}
    {fields : List (Text × Option Text)}
    (h : (formatNamed r (Assoc.distinct ((ofContent content).provider raw s).exceptionTypes)
      text).outcome = .ok fields) :
    fields.map Prod.fst = ((ofContent content).provider raw s).exceptionTypes := by
  rcases shows_of_formatNamed h with ⟨value, rfl, _⟩
  have hnodup := Assoc.nodup_distinct (content.elements.filterMap exceptionOf?)
  rw [List.map_map, exceptionTypes_ofContent, ← Assoc.distinct_eq_eraseDups,
    ← Assoc.distinct_eq_eraseDups, Assoc.distinct_of_nodup hnodup,
    Assoc.distinct_of_nodup hnodup]
  exact List.map_id _

end Providers

/-- A member's provider loses, repeats and mixes up no element, for markup that can be read and
whatever names are declared.

The names of parameters are the declared ones, or else those of the outermost elements of their tag,
each once; so are those of type parameters. The types of exceptions are the uids that outermost
elements give, each once; the texts of a type are those of its elements in order, and the texts of
all types are those of all elements with a type. The examples are all the elements of their tag.
Content that differs within its outermost elements only has the same names and types, and as many
texts.

A comment is built when the source always answers. Whenever one is built, its parameters are the
distinct names, each with what is shown of the first element that has it, and its exceptions are the
types. -/
theorem provider_groups {raw : Text} (hraw : readContent? raw = some content) (s : Surroundings) :
    let p := (ofContent content).provider raw s
    p.parameterNames =
      s.parameterNames.getD (content.elements.filterMap (keyOf? "param".toList)).eraseDups ∧
    p.typeParameterNames =
      s.typeParameterNames.getD
        (content.elements.filterMap (keyOf? "typeparam".toList)).eraseDups ∧
    p.exceptionTypes = (content.elements.filterMap exceptionOf?).eraseDups ∧
    (∀ type, p.exceptionTexts type =
      (content.elements.filter fun e => exceptionOf? e = some type).map markupOf) ∧
    (p.exceptionTypes.flatMap p.exceptionTexts).Perm
      ((content.elements.filter fun e => (exceptionOf? e).isSome).map markupOf) ∧
    p.examples = (outermost content "example".toList).map markupOf ∧
    (∀ (other : Forest QName) (raw' : Text), tags other = tags content →
      let p' := (ofContent other).provider raw' s
      p'.parameterNames = p.parameterNames ∧ p'.typeParameterNames = p.typeParameterNames ∧
      p'.exceptionTypes = p.exceptionTypes ∧ p'.examples.length = p.examples.length ∧
      ∀ type, (p'.exceptionTexts type).length = (p.exceptionTexts type).length) ∧
    ∀ (source : Option (Text → Recorded Failure (Option Text)))
      (keyword : Option (Text → Option Text)),
      ((∀ load ∈ source, ∀ id, ∃ code, (load id).outcome = .ok code) →
        ∃ c, (p.build source keyword).outcome = .ok c) ∧
      ∀ c, (p.build source keyword).outcome = .ok c →
        (∃ value : Text → Option Text,
          c.parameters = p.parameterNames.eraseDups.map (fun name => (name, value name)) ∧
          ∀ name ∈ p.parameterNames, Shows (p.resolvers source keyword)
            ((named? content "param".toList name).map markupOf) (value name)) ∧
        (∃ value : Text → Option Text,
          c.typeParameters = p.typeParameterNames.eraseDups.map (fun name => (name, value name)) ∧
          ∀ name ∈ p.typeParameterNames, Shows (p.resolvers source keyword)
            ((named? content "typeparam".toList name).map markupOf) (value name)) ∧
        c.exceptions.map Prod.fst = p.exceptionTypes := by
  intro p
  refine ⟨parameterNames_ofContent content raw s, typeParameterNames_ofContent content raw s,
    exceptionTypes_ofContent content raw s, exceptionTexts_ofContent content raw s, ?_,
    examples_ofContent content, ?_, ?_⟩
  · rw [exceptionTypes_ofContent, funext (exceptionTexts_ofContent content raw s)]
    exact flatMap_exceptionTexts_perm content
  · intro other raw' htags p'
    refine ⟨?_, ?_, ?_, ?_, fun type => ?_⟩
    · rw [parameterNames_ofContent, parameterNames_ofContent,
        filterMap_of_tags (fun _ => rfl) htags]
    · rw [typeParameterNames_ofContent, typeParameterNames_ofContent,
        filterMap_of_tags (fun _ => rfl) htags]
    · rw [exceptionTypes_ofContent, exceptionTypes_ofContent,
        filterMap_of_tags (fun _ => rfl) htags]
    · change (ofContent other).examples.length = (ofContent content).examples.length
      rw [examples_ofContent, examples_ofContent, List.length_map, List.length_map]
      exact length_filter_of_tags (fun _ => rfl) htags
    · rw [exceptionTexts_ofContent, exceptionTexts_ofContent, List.length_map, List.length_map]
      exact length_filter_of_tags (fun _ => rfl) htags
  · intro source keyword
    refine ⟨fun hsource => (provider_isReadable hraw s).build_succeeds hsource keyword, ?_⟩
    intro c hc
    have hbuilds := Provider.builds_of_outcome hc
    refine ⟨?_, ?_, keys_formatNamed_exceptions content raw s hbuilds.exceptions⟩
    · rcases shows_of_formatNamed hbuilds.parameters with ⟨value, hfields, hshows⟩
      refine ⟨value, hfields, fun name hname => ?_⟩
      rw [← get?_parameters]
      exact hshows name hname
    · rcases shows_of_formatNamed hbuilds.typeParameters with ⟨value, hfields, hshows⟩
      refine ⟨value, hfields, fun name hname => ?_⟩
      rw [← get?_typeParameters]
      exact hshows name hname

/-- A parameter that is described twice and declared twice, one described in another element only,
and one type of exception in two spellings. -/
theorem provider_groups_repeated :
    let raw := ("<param name='b'>1</param><exception cref='T:E'>x</exception>" ++
      "<summary><param name='q'>0</param></summary><param name='b'>2</param>" ++
      "<exception cref='E'>y</exception>").toList
    let named (tag key value text : String) (children rest : Forest QName) :=
      Forest.element ⟨none, tag.toList⟩ [(⟨none, key.toList⟩, value.toList)]
        (.text text.toList children) rest
    let content := named "param" "name" "b" "1" .nil <| named "exception" "cref" "T:E" "x" .nil <|
      .element ⟨none, "summary".toList⟩ [] (named "param" "name" "q" "0" .nil .nil) <|
      named "param" "name" "b" "2" .nil <| named "exception" "cref" "E" "y" .nil .nil
    let p := (ofContent content).provider raw
      ⟨[], some ["q".toList, "b".toList, "b".toList], none⟩
    readContent? raw = some content ∧ p.exceptionTypes = ["E".toList] ∧
      p.exceptionTexts "E".toList = ["x".toList, "y".toList] ∧
      ∃ c, (p.build none none).outcome = .ok c ∧
        c.parameters = [("q".toList, none), ("b".toList, some "1".toList)] := by
  intro raw named content p
  have hraw : readContent? raw = some content := by decide +kernel
  rcases provider_groups hraw ⟨[], some ["q".toList, "b".toList, "b".toList], none⟩ with
    ⟨_, _, htypes, htexts, _, _, _, hcomments⟩
  rcases hcomments none none with ⟨hsucceeds, hbuilt⟩
  rcases hsucceeds (by simp) with ⟨c, hc⟩
  rcases hbuilt c hc with ⟨⟨value, hparameters, hshows⟩, _, _⟩
  have hq : value "q".toList = none := by
    have hnone : (named? content "param".toList "q".toList).map markupOf = none := by
      decide +kernel
    have hshown := hshows "q".toList (by decide)
    rw [hnone] at hshown
    simpa [Shows] using hshown
  have hb : value "b".toList = some "1".toList := by
    have hfirst : (named? content "param".toList "b".toList).map markupOf =
        some "1".toList := by decide +kernel
    have hmarkup : (formatMarkup (p.resolvers none none) "1".toList).outcome.toOption =
        some "1".toList := by decide +kernel
    have hshown := hshows "b".toList (by decide)
    rw [hfirst, Shows, if_neg (by decide)] at hshown
    rcases hshown with ⟨raw, html, hmarkup', hhtml, hvalue⟩
    obtain rfl : "1".toList = raw := Option.some.inj hmarkup'
    rw [hvalue, Except.ok.inj (hhtml.symm.trans (eq_ok_of_toOption hmarkup))]
  refine ⟨hraw, htypes.trans (by decide +kernel), (htexts _).trans (by decide +kernel), c, hc, ?_⟩
  rw [hparameters]
  change ["q".toList, "b".toList].map _ = _
  rw [List.map_cons, List.map_cons, hq, hb]
  rfl

end Member
end DocMarkup
