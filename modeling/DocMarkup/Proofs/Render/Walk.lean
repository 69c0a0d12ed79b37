import DocMarkup.Proofs.Region.Missing
import DocMarkup.Render
import Mathlib.Data.List.Perm.Subperm

/-!
# The walk of a rendering

A rendering visits elements, siblings from left to right and an element before what is in it. What
it asks and reports when it comes to an element is decided by that element alone. Some elements hide
what is in them: a listing that is loaded, and a link that shows nothing. A list hides all but its
items; in front of these a table shows the content of its first header, wherever that stands.

Main definitions:

- {lit}`Referent`: what a link is to.
- {lit}`Walk.question?`, {lit}`Walk.load?`, {lit}`Walk.missing?`: what comes with a visit.
- {lit}`Walk.visits`: the elements that are visited, in order.

Main results:

- Theorem {lit}`Walk.visits_subperm`: no element is visited twice.
-/

namespace DocMarkup

open Forest (Element)

/-! ## Links -/

/-- What a link is to. -/
inductive Referent where
  | address
  | keyword (word : Text)
  | unbound
  | symbol (cref : Text)
  | nothing
  deriving DecidableEq

namespace Referent

variable {ε : Type} (r : Resolvers ε)

/-- The symbol that the attributes of a link name. -/
def ofReference (attributes : List (Text × Text)) : Referent :=
  match attribute? attributes "cref" with
  | none => .nothing
  | some cref => if unboundMark <+: cref then .unbound else .symbol cref

/-- What the attributes of a link name, where keywords are recognized or not. -/
def ofAttributes (keywords : Bool) (attributes : List (Text × Text)) : Referent :=
  if (nonEmptyAttribute? attributes "href").isSome then .address
  else
    match keywords, attribute? attributes "langword" with
    | true, some word => .keyword word
    | _, _ => ofReference attributes

/-- Whether a link shows anything. -/
def isShown : Referent → Bool
  | .symbol _ => r.reference.isSome
  | .nothing => false
  | _ => true

/-- What is asked for a link. -/
def question? : Referent → Option Question
  | .keyword word => r.keyword.map fun _ => .keyword word
  | .symbol cref => r.reference.map fun _ => .reference cref
  | _ => none

end Referent

namespace Walk

variable {ε : Type} (r : Resolvers ε)

/-! ## Visits -/

/-- The source that a listing names. -/
def source? (e : Element Text) : Option Text :=
  if Kind.of e.name = .code then attribute? e.attributes "source" else none

/-- What a link is to. -/
def referent? (e : Element Text) : Option Referent :=
  match Kind.of e.name with
  | .see => some (.ofAttributes true e.attributes)
  | .seeAlso => some (.ofAttributes false e.attributes)
  | _ => none

/-- What is asked for an element: the source of a listing, or what a link is to. -/
def question? (e : Element Text) : Option Question :=
  match source? e with
  | some id => r.source.map fun _ => .source id
  | none => (referent? e).bind (·.question? r)

/-- The attempt to load the source of a listing. -/
def load? (e : Element Text) : Option (Recorded ε (Option Text)) :=
  (source? e).bind fun id => r.source.map fun load => load id

/-- What the attempt to load the source of a listing leaves behind. -/
def loading (e : Element Text) : Trace := ((load? r e).map Recorded.trace).getD .nil

/-- The failure to load the source of a listing. -/
def loadFailure? (e : Element Text) : Option ε := (load? r e).bind fun load => failure? load.outcome

/-- The text of the source of a listing, when it is available. -/
def loaded? (e : Element Text) : Option Text :=
  (load? r e).bind fun load => load.outcome.toOption.join

/-- The report about the region of a listing. -/
def missing? (e : Element Text) : Option Notice := do
  let id ← source? e
  Region.missing? id (attribute? e.attributes "region") (loaded? r e)

/-! ## Walks -/

/-- An element with the elements that are visited in it. -/
structure Node where
  element : Element Text
  inside : List (Element Text)

/-- A visit to an element and those in it. -/
def Node.visits (n : Node) : List (Element Text) := n.element :: n.inside

/-- The visits to some nodes. -/
def everything (below : List Node) : List (Element Text) := below.flatMap Node.visits

/-- The visits to the items among some nodes. -/
def items (below : List Node) : List (Element Text) :=
  everything (below.filter fun n => n.element.name = "item".toList)

/-- The visits inside the first list header among some nodes. -/
def head (below : List Node) : List (Element Text) :=
  ((below.find? fun n => n.element.name = "listheader".toList).map Node.inside).getD []

/-- The visits inside an element, given its children. -/
def inside (e : Element Text) (below : List Node) : List (Element Text) :=
  match Kind.of e.name with
  | .code => if (source? e).isSome then [] else everything below
  | .list =>
    if attribute? e.attributes "type" = some "table".toList then head below ++ items below
    else items below
  | .see | .seeAlso => if (referent? e).any (·.isShown r) then everything below else []
  | _ => everything below

/-- The elements of the outermost level with what is visited in them. -/
def nodes : Fragment → List Node
  | .nil => []
  | .text _ rest => nodes rest
  | .element tag attributes children rest =>
    ⟨⟨tag, attributes, children⟩, inside r ⟨tag, attributes, children⟩ (nodes children)⟩ ::
      nodes rest

/-- The elements of a fragment that are visited, in order. -/
def visits (f : Fragment) : List (Element Text) := everything (nodes r f)

/-! ## Nodes in front -/

variable {r} {n : Node} {below : List Node}

/-- A header in front is the first one. -/
theorem head_cons_of_header (hheader : n.element.name = "listheader".toList) :
    head (n :: below) = n.inside := by
  rw [head, List.find?_cons, decide_eq_true hheader]
  rfl

/-- The first header is behind any other node. -/
theorem head_cons_of_ne (hheader : n.element.name ≠ "listheader".toList) :
    head (n :: below) = head below := by
  rw [head, List.find?_cons_of_neg (by rwa [decide_eq_true_eq])]
  rfl

/-- An item in front is visited before the other ones. -/
theorem items_cons_of_item (hitem : n.element.name = "item".toList) :
    items (n :: below) = n.visits ++ items below := by
  rw [items, List.filter_cons, if_pos (decide_eq_true hitem)]
  rfl

/-- Any other node in front is no item. -/
theorem items_cons_of_ne (hitem : n.element.name ≠ "item".toList) :
    items (n :: below) = items below := by
  rw [items, List.filter_cons_of_neg (by rwa [decide_eq_true_eq])]
  rfl

/-! ## Every visit is to another element -/

/-- Items are visited among other nodes. -/
theorem items_subperm (below : List Node) : (items below).Subperm (everything below) := by
  induction below with
  | nil => exact List.Subperm.refl _
  | cons n below ih =>
    by_cases hitem : n.element.name = "item".toList
    · rw [items_cons_of_item hitem]
      exact (List.subperm_append_left _).2 ih
    · rw [items_cons_of_ne hitem]
      exact ih.trans (List.sublist_append_right _ _).subperm

/-- The header of a table is another node than its items. -/
theorem head_append_items_subperm (below : List Node) :
    (head below ++ items below).Subperm (everything below) := by
  induction below with
  | nil => exact List.Subperm.refl _
  | cons n below ih =>
    by_cases hheader : n.element.name = "listheader".toList
    · -- the header is no item, so it is not visited again among them
      have hitem : n.element.name ≠ "item".toList := by
        rw [hheader]
        decide
      rw [head_cons_of_header hheader, items_cons_of_ne hitem]
      exact ((List.subperm_append_left _).2 (items_subperm below)).cons_right _
    · rw [head_cons_of_ne hheader]
      by_cases hitem : n.element.name = "item".toList
      · rw [items_cons_of_item hitem, ← List.append_assoc]
        have hswap : (head below ++ n.visits ++ items below).Perm
            (n.visits ++ (head below ++ items below)) := by
          rw [← List.append_assoc]
          exact List.perm_append_comm.append_right _
        exact hswap.subperm.trans ((List.subperm_append_left _).2 ih)
      · rw [items_cons_of_ne hitem]
        exact ih.trans (List.sublist_append_right _ _).subperm

/-- What is visited in an element is visited among its children. -/
theorem inside_subperm (e : Element Text) (below : List Node) :
    (inside r e below).Subperm (everything below) := by
  unfold inside
  split
  · split
    · exact List.nil_subperm
    · exact List.Subperm.refl _
  · split
    · exact head_append_items_subperm below
    · exact items_subperm below
  · split
    · exact List.Subperm.refl _
    · exact List.nil_subperm
  · split
    · exact List.Subperm.refl _
    · exact List.nil_subperm
  · exact List.Subperm.refl _

/-- No element is visited twice. -/
theorem visits_subperm (f : Fragment) : (visits r f).Subperm f.descendants := by
  induction f with
  | nil => exact List.Subperm.refl _
  | text run rest ih => exact ih
  | element tag attributes children rest ihChildren ihRest =>
    have hinside := (inside_subperm (r := r) ⟨tag, attributes, children⟩ _).trans ihChildren
    exact (List.subperm_cons _).2 (hinside.append ihRest)

/-- The header of a table is visited first, and what is in a listing that is loaded is not. -/
example :
    let r : Resolvers Unit := ⟨some fun id => (id, none), some fun _ => .pure none, none⟩
    let see (cref : String) : Fragment → Fragment :=
      .element "see".toList [("cref".toList, cref.toList)] .nil
    let f : Fragment := .element "list".toList [("type".toList, "table".toList)]
      (.element "item".toList [] (see "a" (see "!:b" .nil)) (see "c"
        (.element "listheader".toList [] (.element "code".toList [("source".toList, "d".toList)]
          (see "e" .nil) .nil) .nil))) .nil
    (visits r f).filterMap (question? r) = [.source "d".toList, .reference "a".toList] := by
  decide

end Walk
end DocMarkup
