import DocMarkup.Proofs.Region.Selection
import DocMarkup.Proofs.Text.Dedent
import DocMarkup.Proofs.Text.LineEnd

/-!
# Regions and line ends

The scan for a region sees lines and no breaks, so the breaks that end the lines of a source do not
matter to it. What it gives is written with line feeds alone, one for each line that it captures.

Main definitions:

- {lit}`Region.capturedLines`: the lines that are captured for a region of a source.

Main results:

- Theorem {lit}`Region.extract_eq_of_lines`: a region depends on the lines of its source alone.
- Theorem {lit}`Region.outcome_extract`: the text of a region is the captured lines, dedented.
- Theorem {lit}`Region.extract_line_ends`: a region does not show how the lines of its source are
  ended, and its own lines are ended by line feeds.
-/

namespace DocMarkup
namespace Region

open Text (IsLine Layout LineEnd terminated)

variable {ε : Type}

/-- The lines that are captured for a region of a source; none when no line opens it. -/
def capturedLines (source name code : Text) : List Text :=
  let style := MarkerStyle.forSource source
  ((afterStart? style name (Text.lines code)).map (captured style 0)).getD []

/-- Captured lines are lines of the source. -/
theorem mem_lines_of_mem_capturedLines {source name code line : Text}
    (hline : line ∈ capturedLines source name code) : line ∈ Text.lines code := by
  simp only [capturedLines, afterStart?_eq_drop, Option.map_map] at hline
  cases hstart : startIndex? (.forSource source) name (Text.lines code) with
  | none => simp [hstart] at hline
  | some i =>
    have hmem : line ∈ captured (.forSource source) 0 ((Text.lines code).drop (i + 1)) := by
      simpa [hstart] using hline
    rw [captured_eq_take_filter] at hmem
    exact List.mem_of_mem_drop (List.mem_of_mem_take (List.mem_of_mem_filter hmem))

/-- A region depends on the lines of its source alone. -/
theorem extract_eq_of_lines {name code code' : Text} (hname : name ≠ [])
    (hlines : Text.lines code = Text.lines code') (source : Text) :
    (extract source (some name) code : Recorded ε Text) = extract source (some name) code' := by
  cases name with
  | nil => exact absurd rfl hname
  | cons c name => simp only [extract, hlines]

/-- The text of a region is the lines that are captured for it, dedented. -/
theorem outcome_extract {name : Text} (hname : name ≠ []) (source code : Text) :
    (extract source (some name) code : Recorded ε Text).outcome =
      .ok (Text.dedent (capturedLines source name code)) := by
  cases name with
  | nil => exact absurd rfl hname
  | cons c name =>
    simp only [extract, capturedLines]
    cases afterStart? (.forSource source) (c :: name) (Text.lines code) <;> rfl

/-- A region does not show which breaks end the lines of its source: it is the same text, with the
same notice if it is missing, when a line feed ends every line. Its own text has no carriage return,
and one line feed for each captured line, of which the last one ends it. -/
theorem extract_line_ends {name : Text} (hname : name ≠ []) (source : Text) :
    (∀ layout : Layout, (extract source (some name) layout.text : Recorded ε Text) =
      extract source (some name) (terminated layout.lines)) ∧
    ∀ code, ∃ text, (extract source (some name) code : Recorded ε Text).outcome = .ok text ∧
      '\r' ∉ text ∧ (text = [] ∨ text.getLast? = some '\n') ∧
      text.count '\n' = (capturedLines source name code).length := by
  refine ⟨fun layout => ?_, fun code => ?_⟩
  · have hsame : Text.lines layout.text = Text.lines (terminated layout.lines) :=
      layout.lines_text.trans (Text.lines_terminated layout.isLine).symm
    exact extract_eq_of_lines hname hsame source
  · have hisLine : ∀ line ∈ capturedLines source name code, IsLine line := fun line hline =>
      Text.isLine_of_mem_lines code line (mem_lines_of_mem_capturedLines hline)
    exact ⟨_, outcome_extract hname source code, Text.dedent_breaks hisLine⟩

/-- An empty line between CRLF and CR, a form feed inside a line, and a last line that nothing
ends. -/
theorem extract_line_ends_mixed :
    let layout : Layout :=
      { ended := [("#region R".toList, .carriageReturn), ([], .returnFeed), ([], .carriageReturn),
          (" a\x0cb".toList, .feed)]
        last := some "  c".toList
        isLine := by decide
        apart := by decide
        last_ne_nil := by decide }
    "R".toList ≠ [] ∧ layout.text = "#region R\r\r\n\r a\x0cb\n  c".toList ∧
      (extract "a.cs".toList (some "R".toList) layout.text : Recorded Unit Text) =
        extract "a.cs".toList (some "R".toList) (terminated layout.lines) ∧
      (extract "a.cs".toList (some "R".toList) layout.text : Recorded Unit Text) =
        ⟨.nil, .ok "\n\na\x0cb\n c\n".toList⟩ := by
  intro layout
  have hname : "R".toList ≠ [] := by decide
  exact ⟨hname, rfl, (extract_line_ends hname "a.cs".toList).1 layout, rfl⟩

end Region
end DocMarkup
