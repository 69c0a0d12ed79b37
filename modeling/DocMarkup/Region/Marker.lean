import DocMarkup.File.Path
import DocMarkup.Text.Blank

/-!
# Region markers

A region of a source file stands between a start line, which carries its name, and an end line.
Source code marks regions by directives, markup by comments; the extension of the file decides. A
text that is given as a line may hold line feeds: then the marker must fit on what is in front of a
last one.

Main definitions:

- {lit}`MarkerStyle`: directives or comments.
- {lit}`MarkerStyle.forSource`: the style of a source file.
- {lit}`MarkerStyle.startName?`: the name of the region that a line opens.
- {lit}`MarkerStyle.isEnd`: whether a line closes a region.
-/

namespace DocMarkup

/-- How the regions of a source file are marked. -/
inductive MarkerStyle where
  | directive
  | comment
  deriving DecidableEq

namespace MarkerStyle

open Text

/-- The extensions of files whose regions are marked by comments. -/
def commentExtensions : List Text :=
  ["xml".toList, "xaml".toList, "html".toList, "cshtml".toList, "vbhtml".toList]

/-- The marker style of a source file, by its extension in any case. -/
def forSource (source : Text) : MarkerStyle :=
  if commentExtensions.contains (Text.lower (Path.extension source)) then comment else directive

/-- A text without a last line feed, when no other line feed is left. -/
def oneLine? (s : Text) : Option Text :=
  let line := if s.getLast? = some '\n' then s.dropLast else s
  if line.contains '\n' then none else some line

/-- What follows a directive and the blanks after it, when the line ends there. -/
def directiveRest? (directive line : Text) : Option Text := do
  let rest ← after? directive (trimStart line)
  oneLine? (trimStart rest)

/-- What stands between an opening angle bracket and the closing one in front of the end of the
comment, given what follows the opening one. -/
def bracketed? (s : Text) : Option Text := do
  let line := if s.getLast? = some '\n' then s.dropLast else s
  let inner ← after? ">--".toList line.reverse
  match inner.dropWhile isBlank with
  | '>' :: body => if body.contains '\n' then none else some body.reverse
  | _ => none

/-- What follows the opening angle bracket inside a comment that begins the line. -/
def commentRest? (line : Text) : Option Text := do
  let rest ← after? "<!--".toList (trimStart line)
  after? ['<'] (trimStart rest)

/-- The name of the region that a line opens. -/
def startName? : MarkerStyle → Text → Option Text
  | directive, line => (directiveRest? "#region".toList line).map trim
  | comment, line => do
    let body ← (commentRest? line).bind bracketed?
    match body with
    | [] => none
    | c :: _ => if c = '/' ∨ isBlank c then none else some (trim body)

/-- Whether a line closes a region. -/
def isEnd : MarkerStyle → Text → Bool
  | directive, line => (directiveRest? "#endregion".toList line).isSome
  | comment, line => (((commentRest? line).bind (after? ['/'])).bind bracketed?).isSome

end MarkerStyle
end DocMarkup
