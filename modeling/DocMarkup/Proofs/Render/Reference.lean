import DocMarkup.Proofs.Trace.Laws
import DocMarkup.Render

/-!
# References without content

An element that refers to a symbol and has no content shows the name of the symbol, wherever it
stands: as a link when the symbol has an address, and as a span otherwise.

Main definitions:

- {lit}`RefersTo`: the attributes of an element that refers to a symbol.

Main results:

- Theorem {lit}`renderNodes_see`: how a reference is rendered among other nodes.
- Theorem {lit}`outcome_formatFragment_see`: how a reference that stands alone is spelled.
-/

namespace DocMarkup

/-- The attributes of an element that refers to a symbol: it has a reference that is not marked as
unbound, and no address or keyword, which would go first. -/
structure RefersTo (attributes : List (Text × Text)) (cref : Text) : Prop where
  symbol : attribute? attributes "cref" = some cref
  bound : Text.after? unboundMark cref = none
  href : nonEmptyAttribute? attributes "href" = none
  langword : attribute? attributes "langword" = none

variable {ε : Type} {r : Resolvers ε} {attributes : List (Text × Text)} {cref : Text}
  {resolve : Text → Text × Option Text}

/-- A reference without content asks for its symbol, and shows the name of the symbol as a link to
its address or as a span. -/
theorem renderNodes_see (hr : r.reference = some resolve) (h : RefersTo attributes cref)
    (rest : Fragment) :
    let xref : List (String × Text) := [("class", "xref".toList)]
    renderNodes r (.element "see".toList attributes .nil rest) = (do
      Recorded.ask (.reference cref)
      let others ← renderNodes r rest
      Recorded.pure (linkOrSpan xref xref (resolve cref).2 (.run (resolve cref).1) :: others)) := by
  intro xref
  have hkind : Kind.of "see".toList = .see := by decide
  have hsee : ∀ parts : Parts ε, parts.isEmpty = true → renderSee r attributes parts true = (do
      Recorded.ask (.reference cref)
      Recorded.pure (linkOrSpan xref xref (resolve cref).2 (.run (resolve cref).1))) := by
    intro parts hparts
    unfold renderSee renderReference Parts.orText
    simp only [h.href, h.langword, h.symbol, h.bound, hr, hparts, if_true]
    rfl
  rw [renderNodes, renderElement, hkind]
  dsimp only
  rw [hsee _ rfl]
  rfl

/-- A reference that stands alone is spelled as its link or its span. -/
theorem outcome_formatFragment_see (hr : r.reference = some resolve) (h : RefersTo attributes cref) :
    let xref : List (String × Text) := [("class", "xref".toList)]
    (formatFragment r (.element "see".toList attributes .nil .nil)).outcome =
      .ok (linkOrSpan xref xref (resolve cref).2 (.run (resolve cref).1)).print := by
  intro xref
  rw [formatFragment, render, renderNodes_see hr h]
  show Except.ok (Html.print (_ ++ Html.nil)) = _
  rw [Html.print_append, Html.print, List.append_nil]

end DocMarkup
