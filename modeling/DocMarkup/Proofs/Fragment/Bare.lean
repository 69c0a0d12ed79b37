import DocMarkup.Fragment.Basic
import DocMarkup.Proofs.Xml.Content

/-!
# Bare fragments

A fragment is bare when no element has attributes. Its names are then plain and in no namespace, so
it is a raw forest as well, and reading its names changes nothing.

Main definitions:

- {lit}`Forest.withoutAttributes`: a forest with all attributes removed.
- {lit}`Fragment.IsBare`: a merged fragment of plain tags without attributes.

Main results:

- Theorem {lit}`Fragment.parse?_isBare`: what is parsed is bare without its attributes.
- Theorem {lit}`Fragment.IsBare.expand?`: the names of a bare fragment mean themselves.
-/

namespace DocMarkup

open Xml (CharRule QName isChar isPlainName)

/-! ## Attributes removed -/

namespace Forest

variable {ν : Type} {onChar : Char → Prop} {onTag onTag' : ν → List (ν × Text) → Prop} {f : Forest ν}

/-- A forest with all attributes removed. -/
def withoutAttributes : Forest ν → Forest ν
  | .nil => .nil
  | .text run rest => .text run (withoutAttributes rest)
  | .element name _ children rest =>
    .element name [] (withoutAttributes children) (withoutAttributes rest)

/-- Text is in front or not, with or without attributes. -/
theorem startsWithText_withoutAttributes (f : Forest ν) :
    f.withoutAttributes.startsWithText = f.startsWithText := by
  cases f <;> rfl

/-- A forest stays merged when attributes are removed. -/
theorem IsMerged.withoutAttributes (hf : f.IsMerged) : f.withoutAttributes.IsMerged := by
  induction f with
  | nil => trivial
  | text run rest ih =>
    exact ⟨hf.1, (startsWithText_withoutAttributes rest).trans hf.2.1, ih hf.2.2⟩
  | element name attributes children rest ihChildren ihRest =>
    exact ⟨ihChildren hf.1, ihRest hf.2⟩

/-- What holds everywhere holds when attributes are removed, as far as it is about other things. -/
theorem Forall.withoutAttributes (hf : f.Forall onChar onTag)
    (htag : ∀ name attributes, onTag name attributes → onTag' name []) :
    f.withoutAttributes.Forall onChar onTag' := by
  induction f with
  | nil => trivial
  | text run rest ih => exact ⟨hf.1, ih hf.2⟩
  | element name attributes children rest ihChildren ihRest =>
    exact ⟨htag name attributes hf.1, ihChildren hf.2.1, ihRest hf.2.2⟩

end Forest

/-! ## Bare fragments -/

namespace Fragment

/-- A merged fragment of plain tags without attributes, and of characters that markup may hold. -/
structure IsBare (f : Fragment) : Prop where
  sound : f.Forall (isChar · = true) fun tag attributes =>
    isPlainName .standard tag = true ∧ attributes = []
  merged : f.IsMerged

/-- Text is in front or not, in a namespace or in none. -/
theorem startsWithText_ofContent (f : Forest QName) :
    (ofContent f).startsWithText = f.startsWithText := by
  cases f <;> rfl

/-- A merged content is a merged fragment. -/
theorem ofContent_isMerged {f : Forest QName} (hf : f.IsMerged) : (ofContent f).IsMerged := by
  induction f with
  | nil => trivial
  | text run rest ih =>
    exact ⟨hf.1, (startsWithText_ofContent rest).trans hf.2.1, ih hf.2.2⟩
  | element name attributes children rest ihChildren ihRest =>
    exact ⟨ihChildren hf.1, ihRest hf.2⟩

/-- Sound content is a fragment of plain tags and sound characters. -/
theorem forall_ofContent {f : Forest QName}
    (hf : f.Forall (isChar · = true)
      (Xml.IsSoundElement fun name => isPlainName .standard name = true)) :
    (ofContent f).Forall (isChar · = true) fun tag _ => isPlainName .standard tag = true := by
  induction f with
  | nil => trivial
  | text run rest ih => exact ⟨hf.1, ih hf.2⟩
  | element name attributes children rest ihChildren ihRest =>
    exact ⟨hf.1.soundName.1, ihChildren hf.2.1, ihRest hf.2.2⟩

/-- What is parsed is bare without its attributes. -/
theorem parse?_isBare {raw : Text} {f : Fragment} (h : Fragment.parse? raw = some f) :
    IsBare f.withoutAttributes := by
  rcases Option.map_eq_some_iff.1 h with ⟨content, hcontent, rfl⟩
  rcases Xml.readContent?_isContent hcontent with ⟨hsound, hmerged⟩
  exact
    { sound := (forall_ofContent hsound).withoutAttributes fun _ _ htag => ⟨htag, rfl⟩
      merged := (ofContent_isMerged hmerged).withoutAttributes }

/-- A bare fragment stays bare when its text is replaced by text of the same kind. -/
theorem IsBare.mapText {f : Fragment} (hf : f.IsBare) {replace : Text → Text}
    (hrun : ∀ run, Xml.IsRun run → Xml.IsRun (replace run))
    (hne : ∀ run, run ≠ [] → replace run ≠ []) : IsBare (f.mapText replace) where
  sound := hf.sound.mapText hrun
  merged := hf.merged.mapText hne

/-- A plain name means itself where nothing is declared. -/
theorem elementName?_initial {tag : Text} (htag : isPlainName .standard tag = true) :
    Xml.Bindings.initial.elementName? tag = some ⟨none, tag⟩ := by
  simp only [Xml.Bindings.elementName?, Xml.cutName_plain CharRule.standard_isLawful htag]
  rfl

/-- The names of a bare fragment mean themselves. -/
theorem IsBare.expand? {f : Fragment} (hf : f.IsBare) :
    ∃ content, Xml.expand? .initial f = some content ∧ ofContent content = f := by
  replace hf := hf.sound
  induction f with
  | nil => exact ⟨.nil, rfl, rfl⟩
  | text run rest ih =>
    rcases ih hf.2 with ⟨content, hcontent, hrest⟩
    refine ⟨.text run content, ?_, congrArg (Forest.text run) hrest⟩
    show Forest.text run <$> Xml.expand? .initial rest = _
    rw [hcontent]
    rfl
  | element tag attributes children rest ihChildren ihRest =>
    rcases hf with ⟨⟨htag, rfl⟩, hchildren, hrest⟩
    rcases ihChildren hchildren with ⟨inside, hinside, rfl⟩
    rcases ihRest hrest with ⟨behind, hbehind, rfl⟩
    refine ⟨.element ⟨none, tag⟩ [] inside behind, ?_, rfl⟩
    exact Xml.expand?_element.2 ⟨.initial, ⟨none, tag⟩, [], inside, behind, List.nodup_nil, rfl,
      elementName?_initial htag, rfl, List.nodup_nil, hinside, hbehind, rfl⟩

end Fragment
end DocMarkup
