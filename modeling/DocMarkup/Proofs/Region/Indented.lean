import DocMarkup.Proofs.Text.Indent
import DocMarkup.Proofs.Text.Lines
import DocMarkup.Region.Extract

/-!
# Regions of indented sources

Blanks in front of a line change neither the marker that it is nor where its own text begins. So the
scan for a region takes the same steps through a source that is indented further as a whole, and the
lines that it takes are indented further by the same blanks, which are taken away again with the
common indentation.

Main results:

- Theorems {lit}`MarkerStyle.startName?_append` and {lit}`MarkerStyle.isEnd_append`: the markers of
  an indented line.
- Theorems {lit}`Region.afterStart?_map_append` and {lit}`Region.captured_map_append`: the scan of an
  indented source.
- Theorem {lit}`Region.extract_indented`: a region does not show how far its source is indented.
-/

namespace DocMarkup

open Text (isBlank IsLine terminated)

section Scan

variable {indent : Text} (hindent : ∀ c ∈ indent, isBlank c = true)

include hindent

/-- Blanks in front of a line do not change the name of the region that it opens. -/
theorem MarkerStyle.startName?_append (style : MarkerStyle) (line : Text) :
    style.startName? (indent ++ line) = style.startName? line := by
  cases style with
  | directive => simp only [startName?, directiveRest?, Text.trimStart_append hindent]
  | comment => simp only [startName?, commentRest?, Text.trimStart_append hindent]

/-- Blanks in front of a line do not change whether it closes a region. -/
theorem MarkerStyle.isEnd_append (style : MarkerStyle) (line : Text) :
    style.isEnd (indent ++ line) = style.isEnd line := by
  cases style with
  | directive => simp only [isEnd, directiveRest?, Text.trimStart_append hindent]
  | comment => simp only [isEnd, commentRest?, Text.trimStart_append hindent]

namespace Region

/-- The first start line of a name stands at the same place when all lines are indented further. -/
theorem afterStart?_map_append (style : MarkerStyle) (name : Text) (lines : List Text) :
    afterStart? style name (lines.map (indent ++ ·)) =
      (afterStart? style name lines).map fun rest => rest.map (indent ++ ·) := by
  induction lines with
  | nil => rfl
  | cons line lines ih =>
    rw [List.map_cons, afterStart?, afterStart?, MarkerStyle.startName?_append hindent, ih]
    by_cases hname : style.startName? line = some name
    · rw [if_pos hname, if_pos hname]
      rfl
    · rw [if_neg hname, if_neg hname]

/-- The same lines are taken when all lines are indented further, at every depth. -/
theorem captured_map_append (style : MarkerStyle) (depth : Nat) (lines : List Text) :
    captured style depth (lines.map (indent ++ ·)) =
      (captured style depth lines).map (indent ++ ·) := by
  induction lines generalizing depth with
  | nil => simp [captured]
  | cons line lines ih =>
    simp only [List.map_cons, captured, MarkerStyle.startName?_append hindent,
      MarkerStyle.isEnd_append hindent]
    by_cases hstart : (style.startName? line).isSome
    · rw [if_pos hstart, if_pos hstart, ih, List.map_cons]
    · rw [if_neg hstart, if_neg hstart]
      cases hend : style.isEnd line with
      | false => simp [ih]
      | true =>
        cases depth with
        | zero => simp
        | succ depth => simp [ih]

end Region
end Scan

namespace Region

/-- A region does not show how far its source is indented: it is the same text, with the same
notice if it is missing, when the same blanks are put in front of every line. -/
theorem extract_indented {ε : Type} {indent : Text} (hblank : ∀ c ∈ indent, isBlank c = true)
    (hindent : IsLine indent) {lines : List Text} (hlines : ∀ line ∈ lines, IsLine line)
    (source : Text) {name : Text} (hname : name ≠ []) :
    (extract source (some name) (terminated (lines.map (indent ++ ·))) : Recorded ε Text) =
      extract source (some name) (terminated lines) := by
  have hindented : ∀ line ∈ lines.map (indent ++ ·), IsLine line := by
    intro line hline
    rcases List.mem_map.1 hline with ⟨own, hown, rfl⟩
    exact hindent.append (hlines own hown)
  cases name with
  | nil => exact absurd rfl hname
  | cons c name =>
    simp only [extract]
    rw [Text.lines_terminated hindented, Text.lines_terminated hlines,
      afterStart?_map_append hblank]
    cases afterStart? (MarkerStyle.forSource source) (c :: name) lines with
    | none => rfl
    | some rest =>
      simp only [Option.map_some]
      rw [captured_map_append hblank, Text.dedent_map_append hblank]

/-- A nested region between comments, a blank line in it, and an indentation of a tab, an
ideographic space and a form feed. -/
theorem extract_indented_nested :
    let indent := "\t\u3000\x0c".toList
    let lines := ["<!-- <R> -->".toList, " <a>".toList, [], "  <!-- <S> -->".toList,
      "\t<!-- </S> -->".toList, " </a>".toList, "<!-- </R> -->".toList, "b".toList]
    (∀ c ∈ indent, isBlank c = true) ∧ IsLine indent ∧ (∀ line ∈ lines, IsLine line) ∧
      (extract "a.XML".toList (some "R".toList) (terminated (lines.map (indent ++ ·))) :
          Recorded Unit Text) =
        extract "a.XML".toList (some "R".toList) (terminated lines) ∧
      (extract "a.XML".toList (some "R".toList) (terminated lines) : Recorded Unit Text) =
        ⟨.nil, .ok "<a>\n\n <!-- <S> -->\n</a>\n".toList⟩ := by
  intro indent lines
  have hblank : ∀ c ∈ indent, isBlank c = true := List.all_eq_true.1 (by decide)
  have hindent : IsLine indent := by decide
  have hlines : ∀ line ∈ lines, IsLine line := by decide
  refine ⟨hblank, hindent, hlines,
    extract_indented hblank hindent hlines "a.XML".toList (by decide), ?_⟩
  rfl

end Region
end DocMarkup
