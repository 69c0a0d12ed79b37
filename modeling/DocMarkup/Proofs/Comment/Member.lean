import DocMarkup.Comment.Member
import DocMarkup.Proofs.Assoc
import DocMarkup.Proofs.Xml.RoundTrip

/-!
# Fields of a member

A member is filled element by element. Adding an element touches one group only, so each group is
described by the elements of its tag: a field by the first one, the examples by all of them, the
parameters by the first one of each name. All that is kept can be read back.

Main definitions:

- {lit}`Member.outermost`: the outermost elements of a tag.
- {lit}`Member.named?`: the first outermost element of a tag that has a name.

Main results:

- Theorem {lit}`Member.get?_fields`: a field is the first element of its tag.
- Theorem {lit}`Member.examples_ofContent`: the examples are the elements of their tag, in order.
- Theorem {lit}`Member.get?_parameters` and {lit}`Member.get?_typeParameters`: a parameter is the
  first element of its tag and name.
- Theorem {lit}`Member.mem_exceptions`: the texts of an exception are inner markup of elements.
-/

namespace DocMarkup
namespace Member

open Xml (QName readContent? writeContent)

variable {m : Member} {e : Forest.Element QName} {content : Forest QName}

/-! ## Elements by tag -/

/-- An element of a tag, in no namespace. -/
def IsTagged (tag : Text) (e : Forest.Element QName) : Prop := e.name = ⟨none, tag⟩

instance (tag : Text) (e : Forest.Element QName) : Decidable (IsTagged tag e) :=
  inferInstanceAs (Decidable (e.name = ⟨none, tag⟩))

/-- The outermost elements of a tag. -/
def outermost (content : Forest QName) (tag : Text) : List (Forest.Element QName) :=
  content.elements.filter fun e => IsTagged tag e

/-- The name that an element of a tag gives. -/
def keyOf? (tag : Text) (e : Forest.Element QName) : Option Text :=
  if IsTagged tag e then attribute? e "name" else none

/-- The first outermost element of a tag that has a name. -/
def named? (content : Forest QName) (tag name : Text) : Option (Forest.Element QName) :=
  content.elements.find? fun e => keyOf? tag e = some name

/-- The names that the outermost elements of a tag give, each once. -/
def namesOf (content : Forest QName) (tag : Text) : List Text :=
  Assoc.distinct (content.elements.filterMap (keyOf? tag))

/-- The tags of elements that are grouped. -/
def groupTags : List Text :=
  ["example".toList, "param".toList, "typeparam".toList, "exception".toList]

/-- The tag of an element that is a field. -/
def fieldOf? (e : Forest.Element QName) : Option Text :=
  if e.name.space = none ∧ e.name.localPart ∉ groupTags then some e.name.localPart else none

/-- The inner markup of an element. -/
def markupOf (e : Forest.Element QName) : Text := writeContent e.children

/-! ## One element -/

/-- The type of the exception that an element describes. -/
def exceptionOf? (e : Forest.Element QName) : Option Text :=
  if IsTagged "exception".toList e then (attribute? e "cref").map uidOf else none

/-- An exception under its type, if the element describes one. -/
def addException (groups : List (Text × List Text)) (e : Forest.Element QName) :
    List (Text × List Text) :=
  match exceptionOf? e with
  | some type => addToGroup type (markupOf e) groups
  | none => groups

/-- Every group of a member takes up an element on its own. -/
theorem add_eq (m : Member) (e : Forest.Element QName) :
    add m e =
      { fields := Assoc.addNew (fieldOf? e) (markupOf e) m.fields
        parameters := Assoc.addNew (keyOf? "param".toList e) (markupOf e) m.parameters
        typeParameters := Assoc.addNew (keyOf? "typeparam".toList e) (markupOf e) m.typeParameters
        exceptions := addException m.exceptions e
        examples := if IsTagged "example".toList e then m.examples ++ [markupOf e]
          else m.examples } := by
  rcases e with ⟨⟨space, tag⟩, attributes, children⟩
  cases space with
  | some space => simp [add, fieldOf?, keyOf?, addException, exceptionOf?, IsTagged, Assoc.addNew]
  | none =>
    by_cases hexample : tag = "example".toList
    · subst hexample
      simp [add, fieldOf?, keyOf?, addException, exceptionOf?, IsTagged, Assoc.addNew, groupTags,
        markupOf]
    · by_cases hparam : tag = "param".toList
      · subst hparam
        cases hname : attribute? ⟨⟨none, "param".toList⟩, attributes, children⟩ "name" <;>
          simp_all [add, fieldOf?, keyOf?, addException, exceptionOf?, IsTagged, Assoc.addNew,
            groupTags, markupOf]
      · by_cases htype : tag = "typeparam".toList
        · subst htype
          cases hname : attribute? ⟨⟨none, "typeparam".toList⟩, attributes, children⟩ "name" <;>
            simp_all [add, fieldOf?, keyOf?, addException, exceptionOf?, IsTagged, Assoc.addNew,
              groupTags, markupOf]
        · by_cases hexception : tag = "exception".toList
          · subst hexception
            cases hcref : attribute? ⟨⟨none, "exception".toList⟩, attributes, children⟩ "cref" <;>
              simp_all [add, fieldOf?, keyOf?, addException, exceptionOf?, IsTagged, Assoc.addNew,
                groupTags, markupOf]
          · have hgroup : tag ∉ groupTags := by
              simp only [groupTags, List.mem_cons, List.not_mem_nil, or_false, not_or]
              exact ⟨hexample, hparam, htype, hexception⟩
            simp only [add, fieldOf?, keyOf?, addException, exceptionOf?, IsTagged, Assoc.addNew,
              markupOf, QName.mk.injEq, true_and, Option.isSome_none, Bool.false_eq_true, if_false,
              hexample, hparam, htype, hexception, hgroup, not_false_eq_true, and_self, if_true]

/-- Every group of a member takes up the elements on its own. -/
theorem foldl_add (elements : List (Forest.Element QName)) (m : Member) :
    elements.foldl add m =
      { fields := Assoc.collect fieldOf? markupOf m.fields elements
        parameters := Assoc.collect (keyOf? "param".toList) markupOf m.parameters elements
        typeParameters :=
          Assoc.collect (keyOf? "typeparam".toList) markupOf m.typeParameters elements
        exceptions := elements.foldl addException m.exceptions
        examples := m.examples ++
          (elements.filter fun e => IsTagged "example".toList e).map markupOf } := by
  induction elements generalizing m with
  | nil => simp [Assoc.collect]
  | cons e elements ih =>
    have hexamples : (if IsTagged "example".toList e then m.examples ++ [markupOf e]
          else m.examples) ++
            (elements.filter fun e => IsTagged "example".toList e).map markupOf =
        m.examples ++
          ((e :: elements).filter fun e => IsTagged "example".toList e).map markupOf := by
      by_cases hexample : IsTagged "example".toList e
      · simp only [hexample, if_true, List.filter_cons, decide_true, List.map_cons,
          List.append_assoc, List.singleton_append]
      · simp only [hexample, if_false, List.filter_cons, decide_false, Bool.false_eq_true]
    rw [List.foldl_cons, ih, add_eq, ← hexamples]
    rfl

/-! ## The fields of a member -/

/-- A field is the first element of its tag. -/
theorem get?_fields (content : Forest QName) {tag : Text} (htag : tag ∉ groupTags) :
    Assoc.get? tag (ofContent content).fields =
      ((outermost content tag).head?).map markupOf := by
  have hkey : (fun e => decide (fieldOf? e = some tag)) = fun e => decide (IsTagged tag e) := by
    funext e
    rcases e with ⟨⟨space, name⟩, attributes, children⟩
    by_cases hname : name = tag
    · subst hname
      simp [fieldOf?, IsTagged, htag]
    · simp [fieldOf?, IsTagged, hname]
  rw [ofContent, foldl_add, Assoc.get?_collect, hkey, outermost, List.head?_filter]
  rfl

/-- The examples are the elements of their tag, in order. -/
theorem examples_ofContent (content : Forest QName) :
    (ofContent content).examples = (outermost content "example".toList).map markupOf := by
  rw [ofContent, foldl_add]
  rfl

/-- A parameter is the first element of its tag and name. -/
theorem get?_parameters (content : Forest QName) (name : Text) :
    Assoc.get? name (ofContent content).parameters =
      (named? content "param".toList name).map markupOf := by
  rw [ofContent, foldl_add, Assoc.get?_collect]
  rfl

/-- The documented parameters are those that the elements of their tag name. -/
theorem keys_parameters (content : Forest QName) :
    (ofContent content).parameters.map Prod.fst = namesOf content "param".toList := by
  rw [ofContent, foldl_add]
  exact Assoc.keys_collect _ _ _

/-- A type parameter is the first element of its tag and name. -/
theorem get?_typeParameters (content : Forest QName) (name : Text) :
    Assoc.get? name (ofContent content).typeParameters =
      (named? content "typeparam".toList name).map markupOf := by
  rw [ofContent, foldl_add, Assoc.get?_collect]
  rfl

/-- The documented type parameters are those that the elements of their tag name. -/
theorem keys_typeParameters (content : Forest QName) :
    (ofContent content).typeParameters.map Prod.fst = namesOf content "typeparam".toList := by
  rw [ofContent, foldl_add]
  exact Assoc.keys_collect _ _ _

/-! ## What is kept -/

/-- What holds of every text of the groups holds when an element has joined them. -/
theorem forall_addException {q : Text → Prop} {groups : List (Text × List Text)}
    {e : Forest.Element QName} (hgroups : ∀ g ∈ groups, ∀ t ∈ g.2, q t) (he : q (markupOf e)) :
    ∀ g ∈ addException groups e, ∀ t ∈ g.2, q t := by
  intro g hg t ht
  unfold addException at hg
  cases hkey : exceptionOf? e with
  | none =>
    rw [hkey] at hg
    exact hgroups g hg t ht
  | some type =>
    rw [hkey] at hg
    rcases Assoc.mem_insert hg with hvalue | hmem
    · rw [hvalue] at ht
      rcases List.mem_append.1 ht with hold | hnew
      · cases hget : Assoc.get? type groups with
        | none => simp [hget] at hold
        | some texts =>
          rw [hget, Option.getD_some] at hold
          exact hgroups (type, texts) (Assoc.mem_of_get? hget) t hold
      · rw [List.mem_singleton.1 hnew]
        exact he
    · exact hgroups g hmem t ht

/-- What holds of every text of the groups holds when more elements have joined them. -/
theorem forall_foldl_addException {q : Text → Prop} {elements : List (Forest.Element QName)}
    {groups : List (Text × List Text)} (hgroups : ∀ g ∈ groups, ∀ t ∈ g.2, q t)
    (helements : ∀ e ∈ elements, q (markupOf e)) :
    ∀ g ∈ elements.foldl addException groups, ∀ t ∈ g.2, q t := by
  induction elements generalizing groups with
  | nil => exact hgroups
  | cons e elements ih =>
    rcases List.forall_mem_cons.1 helements with ⟨he, hrest⟩
    exact ih (forall_addException hgroups he) hrest

/-- Every text of an exception is the inner markup of an element. -/
theorem mem_exceptions {content : Forest QName} {group : Text × List Text}
    (hgroup : group ∈ (ofContent content).exceptions) {text : Text} (htext : text ∈ group.2) :
    ∃ e ∈ content.elements, text = markupOf e := by
  have hnone : ∀ g ∈ ([] : List (Text × List Text)), ∀ t ∈ g.2,
      ∃ e ∈ content.elements, t = markupOf e := by simp
  rw [ofContent, foldl_add] at hgroup
  exact forall_foldl_addException hnone (fun e he => ⟨e, he, rfl⟩) group hgroup text htext

end Member
end DocMarkup
