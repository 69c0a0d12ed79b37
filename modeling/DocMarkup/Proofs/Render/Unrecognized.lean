import DocMarkup.Comment.Build
import DocMarkup.Proofs.Fragment.Bare
import DocMarkup.Proofs.Render.Adjacent
import DocMarkup.Proofs.Xml.RoundTrip

/-!
# Markup outside the vocabulary

Elements whose tags are not recognized pass through with their content. So markup that has no other
ones is rendered to its own tree, without attributes, whatever the resolvers are; and what is spelled
is markup again, which is parsed to that tree. Only carriage returns, which are spelled as they are,
are read as line feeds.

Main definitions:

- {lit}`Html.ofFragment`: a fragment as HTML, its attributes left out.

Main results:

- Theorem {lit}`render_unrecognized`: a fragment without recognized tags passes through.
- Theorem {lit}`Fragment.IsBare.parse?_print`: the spelling of a bare fragment is parsed to it.
- Theorem {lit}`formatMarkup_unrecognized`: the round trip of markup without recognized tags.
-/

namespace DocMarkup

open Text (unifyBreaks)
open Xml (IsFence Spells)

/-! ## Fragments that pass through -/

namespace Html

/-- A fragment as HTML, its attributes left out. -/
def ofFragment : Fragment → Html
  | .nil => .nil
  | .text run rest => .text .plain run (ofFragment rest)
  | .element tag _ children rest => .element tag [] (ofFragment children) (ofFragment rest)

/-- Attributes are left out. -/
theorem ofFragment_withoutAttributes (f : Fragment) :
    ofFragment f.withoutAttributes = ofFragment f := by
  induction f with
  | nil => rfl
  | text run rest ih => simp only [Forest.withoutAttributes, ofFragment, ih]
  | element tag attributes children rest ihChildren ihRest =>
    simp only [Forest.withoutAttributes, ofFragment, ihChildren, ihRest]

end Html

/-- An element whose tag is not recognized passes through with its content. -/
theorem renderElement_unrecognized {ε : Type} (r : Resolvers ε) {tag : Text}
    (htag : Kind.of tag = .unknown) (attributes : List (Text × Text)) {parts : Parts ε}
    {content : Html} (hwhole : parts.whole () = pure content) :
    renderElement r attributes parts tag = pure (.element tag [] content .nil) := by
  simp only [renderElement, htag, hwhole, map_pure]

/-- A fragment without recognized tags passes through, and nothing is asked. -/
theorem render_unrecognized {ε : Type} (r : Resolvers ε) {onChar : Char → Prop} {f : Fragment}
    (hf : f.Forall onChar fun tag _ => Kind.of tag = .unknown) :
    render r f = pure (Html.ofFragment f) := by
  induction f with
  | nil =>
    simp only [render, renderNodes, Recorded.pure_eq, map_pure]
    rfl
  | text run rest ih =>
    rw [render_text, ih hf.2, map_pure]
    rfl
  | element tag attributes children rest ihChildren ihRest =>
    rcases hf with ⟨htag, hchildren, hrest⟩
    rw [render_element, renderElement_unrecognized r htag attributes (ihChildren hchildren),
      ihRest hrest, pure_bind, map_pure]
    rfl

/-! ## The spelling of bare fragments -/

/-- A fragment that does not begin with text is spelled as a fence. -/
theorem Html.isFence_print {f : Fragment} (hf : f.startsWithText = false) {t : Text}
    (ht : IsFence t) : IsFence (print (ofFragment f) ++ t) := by
  cases f with
  | nil => exact ht
  | text run rest => cases hf
  | element tag attributes children rest => exact Xml.isFence_tag _

/-- HTML spells the fragment that it shows, with unified line breaks. -/
theorem Fragment.IsBare.spells_print {f : Fragment} (hf : f.IsBare) :
    Spells (Html.print (Html.ofFragment f)) (f.mapText unifyBreaks) := by
  rcases hf with ⟨hsound, hmerged⟩
  induction f with
  | nil => exact .nil
  | text run rest ih =>
    rcases hmerged with ⟨hne, hstarts, hmerged⟩
    exact .text hsound.1 hne (ih hsound.2 hmerged)
      ((Forest.startsWithText_mapText _ rest).trans hstarts) (Html.isFence_print hstarts)
  | element tag attributes children rest ihChildren ihRest =>
    rcases hsound with ⟨⟨htag, rfl⟩, hchildren, hrest⟩
    have hspells := Spells.element (.plain htag) (List.forall_mem_nil _)
      (ihChildren hchildren hmerged.1) (ihRest hrest hmerged.2)
    have hprint : Html.print (Html.ofFragment (.element tag [] children rest)) =
        '<' :: (tag ++ (Xml.spellAttributes [] ++ '>' :: (Html.print (Html.ofFragment children) ++
          '<' :: '/' :: (tag ++ '>' :: Html.print (Html.ofFragment rest))))) := by
      simp [Html.ofFragment, Html.print, Html.printAttributes, Xml.spellAttributes]
    exact hprint ▸ hspells

/-- The spelling of a bare fragment is parsed to the fragment, with unified line breaks. -/
theorem Fragment.IsBare.parse?_print {f : Fragment} (hf : f.IsBare) :
    Fragment.parse? (Html.print (Html.ofFragment f)) = some (f.mapText unifyBreaks) := by
  have hunified : Fragment.IsBare (f.mapText unifyBreaks) :=
    hf.mapText (fun _ => Xml.isRun_unifyBreaks) fun _ => Text.unifyBreaks_ne_nil
  rcases hunified.expand? with ⟨content, hcontent, hfragment⟩
  rw [Fragment.parse?, hf.spells_print.readContent?_eq hcontent, Option.map_some, hfragment]

/-! ## The round trip -/

/-- Markup without recognized tags is spelled as what passes through. -/
theorem formatMarkup_eq_print {raw : Text} {f : Fragment} (hraw : Fragment.parse? raw = some f)
    {onChar : Char → Prop} (hf : f.Forall onChar fun tag _ => Kind.of tag = .unknown)
    (r : Resolvers Failure) : formatMarkup r raw = .pure (Html.print (Html.ofFragment f)) := by
  rw [formatMarkup, parseMarkup, hraw]
  show formatFragment r f = _
  rw [formatFragment, render_unrecognized r hf, map_pure]
  rfl

/-- Markup without recognized tags and carriage returns is rendered to markup that is parsed to the
same tree without its attributes, and that is rendered to itself. Nothing is asked or reported, and
nothing depends on the resolvers. -/
theorem formatMarkup_unrecognized {raw : Text} {f : Fragment} (hraw : Fragment.parse? raw = some f)
    (hf : f.Forall (· ≠ '\r') fun tag _ => Kind.of tag = .unknown) (r r' : Resolvers Failure) :
    ∃ html, formatMarkup r raw = .pure html ∧ Fragment.parse? html = some f.withoutAttributes ∧
      formatMarkup r' html = .pure html := by
  have hbare := Fragment.parse?_isBare hraw
  have hparse : Fragment.parse? (Html.print (Html.ofFragment f)) = some f.withoutAttributes := by
    have hunified : f.withoutAttributes.mapText unifyBreaks = f.withoutAttributes :=
      (Xml.mapText_unifyBreaks_eq_self_iff _).2 (hf.withoutAttributes fun _ _ _ => trivial)
    rw [← Html.ofFragment_withoutAttributes, hbare.parse?_print, hunified]
  have hagain := formatMarkup_eq_print hparse (hf.withoutAttributes fun _ _ htag => htag) r'
  rw [Html.ofFragment_withoutAttributes] at hagain
  exact ⟨_, formatMarkup_eq_print hraw hf r, hparse, hagain⟩

/-- Namespaces, attributes, comments and sections go; text that they divide is one run again, and an
empty element stays empty. -/
theorem formatMarkup_unrecognized_namespaced :
    let raw := ("a&lt;<!-- b --><![CDATA[>&]]><p:Para xmlns:p='u' p:k='v'>]]&gt;<x/>&#x85;</p:Para>" ++
      "<Code source='c'>\"</Code>").toList
    let f : Fragment :=
      .text "a<>&".toList (.element "Para".toList [("k".toList, "v".toList)]
        (.text "]]>".toList (.element "x".toList [] .nil (.text "\x85".toList .nil)))
      (.element "Code".toList [("source".toList, "c".toList)] (.text "\"".toList .nil) .nil))
    let html := "a&lt;&gt;&amp;<Para>]]&gt;<x></x>\x85</Para><Code>\"</Code>".toList
    Fragment.parse? raw = some f ∧
      (f.Forall (· ≠ '\r') fun tag _ => Kind.of tag = .unknown) ∧
      formatMarkup ⟨none, none, none⟩ raw = .pure html ∧
      Fragment.parse? html = some f.withoutAttributes ∧
      formatMarkup ⟨none, none, none⟩ html = .pure html := by
  intro raw f html
  have hraw : Fragment.parse? raw = some f := by decide +kernel
  have hrun {run : Text} (hreturn : '\r' ∉ run) : ∀ c ∈ run, c ≠ '\r' :=
    fun c hc h => hreturn (h ▸ hc)
  have hf : f.Forall (· ≠ '\r') fun tag _ => Kind.of tag = .unknown :=
    ⟨hrun (by decide), by decide, ⟨hrun (by decide), by decide, trivial, hrun (by decide), trivial⟩,
      by decide, ⟨hrun (by decide), trivial⟩, trivial⟩
  rcases formatMarkup_unrecognized hraw hf ⟨none, none, none⟩ ⟨none, none, none⟩ with
    ⟨found, hfound, hparse, hagain⟩
  have hoption : (formatMarkup ⟨none, none, none⟩ raw).outcome.toOption = some html := by
    decide +kernel
  obtain rfl : found = html := by
    rw [hfound] at hoption
    exact Option.some.inj hoption
  exact ⟨hraw, hf, hfound, hparse, hagain⟩

end DocMarkup
