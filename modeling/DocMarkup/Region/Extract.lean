import DocMarkup.Region.Marker
import DocMarkup.Text.Indent
import DocMarkup.Text.Lines
import DocMarkup.Trace

/-!
# Extraction of regions

A region begins after the first start line of its name and reaches to the end line that answers it,
or to the end of the file. Regions inside it count by depth alone, whatever their names. Its lines
lose their common indentation; its end lines are left out.

Main definitions:

- {lit}`Region.afterStart?`: the lines after the start line of a name.
- {lit}`Region.captured`: the lines of the region that is open at the beginning.
- {lit}`Region.extract`: a region of a source text, with a notice when it is missing.
-/

namespace DocMarkup
namespace Region

/-- The lines after the first start line of a name. -/
def afterStart? (style : MarkerStyle) (name : Text) : List Text → Option (List Text)
  | [] => none
  | line :: rest =>
    if style.startName? line = some name then some rest else afterStart? style name rest

/-- The lines of the region that is open at the beginning, with `depth` regions open inside it. -/
def captured (style : MarkerStyle) : Nat → List Text → List Text
  | _, [] => []
  | depth, line :: rest =>
    if (style.startName? line).isSome then line :: captured style (depth + 1) rest
    else if style.isEnd line then
      match depth with
      | 0 => []
      | depth + 1 => captured style depth rest
    else line :: captured style depth rest

/-- The text of a region, or the whole text when no region is asked for. -/
def extract {ε : Type} (source : Text) (region : Option Text) (code : Text) : Recorded ε Text :=
  match region with
  | none | some [] => .pure code
  | some name =>
    let style := MarkerStyle.forSource source
    match afterStart? style name (Text.lines code) with
    | some lines => .pure (Text.dedent (captured style 0 lines))
    | none => do
      .report (.regionMissing name source)
      .pure []

end Region
end DocMarkup
