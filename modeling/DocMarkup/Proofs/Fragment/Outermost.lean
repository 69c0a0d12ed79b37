import DocMarkup.Fragment.SeeAlso

/-!
# Outermost elements

An element is outermost of its name when it lies in no other element of that name. The walk for
see-also elements does not look into one that it has found, and it looks into every other element,
whatever its kind; so it finds the outermost ones, in document order.

Main definitions:

- {lit}`Forest.located`: every element, together with what it lies in.
- {lit}`Forest.outermost`: the outermost elements of a name.

Main results:

- Theorem {lit}`Forest.map_snd_located`: the elements are located in document order.
- Theorem {lit}`seeAlsoElements_eq_outermost`: the walk finds the outermost see-also elements.
-/

namespace DocMarkup

namespace Forest

variable {ν : Type}

/-- Every element of a forest, an element before its descendants, with the names of the elements
that it lies in: those of `above`, which the whole forest lies in, and the others in front of
them. -/
def located (above : List ν) : Forest ν → List (List ν × Element ν)
  | .nil => []
  | .text _ rest => located above rest
  | .element name attributes children rest =>
    (above, ⟨name, attributes, children⟩) ::
      (located (name :: above) children ++ located above rest)

/-- The elements are located in document order. -/
theorem map_snd_located (above : List ν) (f : Forest ν) :
    (f.located above).map Prod.snd = f.descendants := by
  induction f generalizing above with
  | nil => rfl
  | text run rest ih => exact ih above
  | element name attributes children rest ihChildren ihRest =>
    simp only [located, descendants, List.map_cons, List.map_append, ihChildren, ihRest]

variable [DecidableEq ν]

/-- Whether an element is the outermost one of a name. -/
def IsOutermost (name : ν) (e : List ν × Element ν) : Prop := e.2.name = name ∧ name ∉ e.1

instance (name : ν) (e : List ν × Element ν) : Decidable (IsOutermost name e) :=
  inferInstanceAs (Decidable (_ ∧ _))

/-- The elements of a name that lie in no other one of that name, in document order. -/
def outermost (name : ν) (f : Forest ν) : List (Element ν) :=
  ((f.located []).filter fun e => IsOutermost name e).map Prod.snd

/-- Inside an element of a name nothing is outermost of that name. -/
theorem filter_located_of_mem {name : ν} {above : List ν} (habove : name ∈ above) (f : Forest ν) :
    ((f.located above).filter fun e => IsOutermost name e) = [] := by
  induction f generalizing above with
  | nil => rfl
  | text run rest ih => exact ih habove
  | element tag attributes children rest ihChildren ihRest =>
    have hinside := ihChildren (List.mem_cons_of_mem tag habove)
    have hhere : ¬IsOutermost name (above, ⟨tag, attributes, children⟩) := fun h => h.2 habove
    rw [located, List.filter_cons, if_neg (mt of_decide_eq_true hhere), List.filter_append, hinside,
      ihRest habove, List.append_nil]

end Forest

open Forest (IsOutermost located)

/-- Outside of see-also elements, the walk finds the outermost ones. -/
theorem map_filter_located {above : List Text} (habove : "seealso".toList ∉ above) (f : Fragment) :
    ((f.located above).filter fun e => IsOutermost "seealso".toList e).map Prod.snd =
      seeAlsoElements f := by
  induction f generalizing above with
  | nil => rfl
  | text run rest ih => exact ih habove
  | element tag attributes children rest ihChildren ihRest =>
    rw [located, seeAlsoElements]
    by_cases htag : tag = "seealso".toList
    · have hhere : IsOutermost "seealso".toList (above, ⟨tag, attributes, children⟩) :=
        ⟨htag, habove⟩
      have hinside : "seealso".toList ∈ tag :: above := htag ▸ List.mem_cons_self
      rw [if_pos htag, List.filter_cons, if_pos (decide_eq_true hhere), List.filter_append,
        Forest.filter_located_of_mem hinside, List.nil_append, List.map_cons, ihRest habove]
    · have hhere : ¬IsOutermost "seealso".toList (above, ⟨tag, attributes, children⟩) :=
        fun h => htag h.1
      have hinside : "seealso".toList ∉ tag :: above := by
        intro hmem
        exact (List.mem_cons.1 hmem).elim (fun h => htag h.symm) habove
      rw [if_neg htag, List.filter_cons, if_neg (mt of_decide_eq_true hhere), List.filter_append,
        List.map_append, ihChildren hinside, ihRest habove]

/-- The walk finds the outermost see-also elements. -/
theorem seeAlsoElements_eq_outermost (f : Fragment) :
    seeAlsoElements f = f.outermost "seealso".toList :=
  (map_filter_located List.not_mem_nil f).symm

/-- A see-also element that the walk finds is an element. -/
theorem Fragment.mem_descendants_of_mem_seeAlsoElements {f : Fragment} {e : Forest.Element Text}
    (he : e ∈ seeAlsoElements f) : e ∈ f.descendants := by
  rw [seeAlsoElements_eq_outermost] at he
  rcases List.mem_map.1 he with ⟨found, hfound, rfl⟩
  rw [← Forest.map_snd_located []]
  exact List.mem_map_of_mem (List.mem_filter.1 hfound).1

end DocMarkup
