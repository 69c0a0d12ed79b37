import DocMarkup.Text.Blank

/-!
# Lines

A text is cut into lines at its line breaks. Which characters break a line is a parameter; CR
followed by LF is one break, and a break at the very end opens no further line.

Main definitions:

- {lit}`Text.linesAt`: the lines for a given class of breaks.
- {lit}`Text.lines`: the lines of source code, broken at CR, LF and CRLF only.
- {lit}`Text.allLines`: the lines at every line boundary of Unicode.
- {lit}`Text.unifyBreaks`: CRLF and CR replaced by LF.
-/

namespace DocMarkup
namespace Text

/-- A character in front of the first line. -/
def consLine (c : Char) : List Text → List Text
  | [] => [[c]]
  | line :: lines => (c :: line) :: lines

/-- The lines of a text, broken at the characters of `isBreak` and at CRLF. -/
def linesAt (isBreak : Char → Bool) : Text → List Text
  | [] => []
  | '\r' :: '\n' :: rest => [] :: linesAt isBreak rest
  | c :: rest =>
    if isBreak c then [] :: linesAt isBreak rest else consLine c (linesAt isBreak rest)

/-- CR and LF, the breaks of source code. -/
def isCodeBreak (c : Char) : Bool := c == '\n' || c == '\r'

/-- The lines of source code. -/
def lines : Text → List Text := linesAt isCodeBreak

/-- Every line boundary of Unicode: CR, LF, VT, FF, the separators U+001C to U+001E, NEL, LS, PS. -/
def isLineBoundary (c : Char) : Bool :=
  inRanges [(0x0A, 0x0D), (0x1C, 0x1E), (0x85, 0x85), (0x2028, 0x2029)] c.toNat

/-- The lines at every line boundary of Unicode. -/
def allLines : Text → List Text := linesAt isLineBoundary

/-- Lines joined by single line feeds. -/
def joinLines (lines : List Text) : Text := ['\n'].intercalate lines

/-- A text whose CRLF and CR have become LF. -/
def unifyBreaks : Text → Text
  | [] => []
  | '\r' :: '\n' :: rest => '\n' :: unifyBreaks rest
  | c :: rest => (if c = '\r' then '\n' else c) :: unifyBreaks rest

end Text
end DocMarkup
