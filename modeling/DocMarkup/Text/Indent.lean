import DocMarkup.Text.Blank

/-!
# Common indentation

Captured lines lose the indentation that all their non-blank lines share.

Main definitions:

- {lit}`Text.indentation`: the number of blanks a line begins with.
- {lit}`Text.commonIndentation`: the smallest indentation of the non-blank lines.
- {lit}`Text.dedent`: the lines without it, each ended by a line feed.
-/

namespace DocMarkup
namespace Text

/-- The number of blanks that a line begins with. -/
def indentation (line : Text) : Nat := (line.takeWhile isBlank).length

/-- The smallest indentation of the lines that are not blank; zero when all are. -/
def commonIndentation (lines : List Text) : Nat :=
  (((lines.filter fun line => !isBlankLine line).map indentation).min?).getD 0

/-- A line without its first `width` characters and with its line feed; a blank line is empty. -/
def dedentLine (width : Nat) (line : Text) : Text :=
  if isBlankLine line then ['\n'] else line.drop width ++ ['\n']

/-- The lines without their common indentation. -/
def dedent (lines : List Text) : Text :=
  lines.flatMap (dedentLine (commonIndentation lines))

end Text
end DocMarkup
