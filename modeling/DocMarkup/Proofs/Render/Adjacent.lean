import DocMarkup.Proofs.Forest
import DocMarkup.Proofs.Trace.Laws
import DocMarkup.Render

/-!
# Fragments side by side

The nodes of a fragment are rendered one after another and each on its own, and a run of text is
spelled character by character. So two fragments side by side are rendered one after the other, even
when the text that ends the first one and the text that begins the second one become one run.

Main results:

- Theorem {lit}`Fragment.ofContent_meet`: namespaces are dropped from contents side by side apart.
- Theorem {lit}`formatFragment_meet`: fragments side by side are rendered one after the other.
-/

namespace DocMarkup

/-! ## Namespaces -/

namespace Fragment

/-- A character in front stays when namespaces are dropped. -/
theorem ofContent_consChar (c : Char) (f : Forest Xml.QName) :
    ofContent (f.consChar c) = (ofContent f).consChar c := by
  cases f <;> rfl

/-- A run in front stays when namespaces are dropped. -/
theorem ofContent_consChars (run : Text) (f : Forest Xml.QName) :
    ofContent (f.consChars run) = (ofContent f).consChars run := by
  induction run with
  | nil => rfl
  | cons c run ih => exact (ofContent_consChar c _).trans (congrArg (Forest.consChar c) ih)

/-- Namespaces are dropped from contents side by side apart. -/
theorem ofContent_meet (f g : Forest Xml.QName) :
    ofContent (f.meet g) = (ofContent f).meet (ofContent g) := by
  induction f with
  | nil => rfl
  | text run rest ih => exact (ofContent_consChars run _).trans (congrArg (Forest.consChars run) ih)
  | element name attributes children rest _ ih =>
    exact congrArg (Forest.element _ _ (ofContent children)) ih

end Fragment

/-! ## Rendering -/

variable {ε : Type} (r : Resolvers ε)

/-- A run of text is rendered in front of the rest. -/
theorem render_text (run : Text) (rest : Fragment) :
    render r (.text run rest) = (Html.run run ++ ·) <$> render r rest := by
  simp only [render, renderNodes, Recorded.pure_eq, bind_pure_comp, Functor.map_map]
  rfl

/-- An element is rendered in front of the rest. -/
theorem render_element (tag : Text) (attributes : List (Text × Text))
    (children rest : Fragment) :
    render r (.element tag attributes children rest) =
      renderElement r attributes
        { isEmpty := children.isEmpty
          whole := fun _ => Html.concat <$> renderNodes r children
          items := fun _ => renderItems r children
          head := fun _ => renderHead r children
          cells := fun _ => renderCells r children } tag >>= fun here =>
      (here ++ ·) <$> render r rest := by
  simp only [render, renderNodes, Recorded.pure_eq, bind_pure_comp, map_bind, Functor.map_map]
  rfl

/-- Of no node nothing is spelled. -/
theorem formatFragment_nil : formatFragment r .nil = pure [] := by
  simp only [formatFragment, render, renderNodes, Recorded.pure_eq, map_pure]
  rfl

/-- A run of text is spelled in front of the rest. -/
theorem formatFragment_text (run : Text) (rest : Fragment) :
    formatFragment r (.text run rest) = (Html.escapeText run ++ ·) <$> formatFragment r rest := by
  simp only [formatFragment, render_text, Functor.map_map]
  rfl

/-- An element is rendered and spelled in front of the rest. -/
theorem formatFragment_element (tag : Text) (attributes : List (Text × Text))
    (children rest : Fragment) :
    formatFragment r (.element tag attributes children rest) =
      renderElement r attributes
        { isEmpty := children.isEmpty
          whole := fun _ => Html.concat <$> renderNodes r children
          items := fun _ => renderItems r children
          head := fun _ => renderHead r children
          cells := fun _ => renderCells r children } tag >>= fun here =>
      (Html.print here ++ ·) <$> formatFragment r rest := by
  simp only [formatFragment, render_element, map_bind, Functor.map_map, Html.print_append]

/-- A character in front is spelled in front. -/
theorem formatFragment_consChar (c : Char) (f : Fragment) :
    formatFragment r (f.consChar c) = (Html.escapeTextChar c ++ ·) <$> formatFragment r f := by
  have hrun : ∀ run, Html.escapeText (c :: run) = Html.escapeTextChar c ++ Html.escapeText run :=
    fun _ => List.flatMap_cons
  have halone : ∀ rest, formatFragment r (.text [c] rest) =
      (Html.escapeTextChar c ++ ·) <$> formatFragment r rest := by
    intro rest
    rw [formatFragment_text, hrun, Html.escapeText, List.flatMap_nil, List.append_nil]
  cases f with
  | nil => exact halone .nil
  | element tag attributes children rest => exact halone (.element tag attributes children rest)
  | text run rest =>
    simp only [Forest.consChar, formatFragment_text, hrun, Functor.map_map, List.append_assoc]

/-- A run in front is spelled in front. -/
theorem formatFragment_consChars (run : Text) (f : Fragment) :
    formatFragment r (f.consChars run) = (Html.escapeText run ++ ·) <$> formatFragment r f := by
  induction run with
  | nil => simp [Forest.consChars, Html.escapeText]
  | cons c run ih =>
    calc formatFragment r ((f.consChars run).consChar c)
        = (Html.escapeTextChar c ++ ·) <$> (Html.escapeText run ++ ·) <$> formatFragment r f := by
          rw [formatFragment_consChar, ih]
      _ = (Html.escapeText (c :: run) ++ ·) <$> formatFragment r f := by
          simp only [Functor.map_map, Html.escapeText, List.flatMap_cons, List.append_assoc]

/-- Fragments side by side are rendered one after the other, and what they are spelled is put side
by side. -/
theorem formatFragment_meet (f g : Fragment) :
    formatFragment r (f.meet g) =
      formatFragment r f >>= fun a => (a ++ ·) <$> formatFragment r g := by
  induction f with
  | nil => simp [Forest.meet, formatFragment_nil]
  | text run rest ih =>
    show formatFragment r ((rest.meet g).consChars run) = _
    rw [formatFragment_consChars, ih, formatFragment_text]
    simp only [map_bind, bind_map_left, Functor.map_map, List.append_assoc]
  | element tag attributes children rest _ ih =>
    show formatFragment r (.element tag attributes children (rest.meet g)) = _
    simp only [formatFragment_element, ih, map_bind, bind_assoc, bind_map_left, Functor.map_map,
      List.append_assoc]

end DocMarkup
