import DocMarkup.Text.Basic

/-!
# Reading positions

A cursor is the rest of a text with the position where it begins. A line ends at LF, NEL, LS, PS and
at a CR that no LF follows; a byte order mark takes no column.

Main definitions:

- {lit}`Yaml.Cursor`: the rest of a text and its position.
- {lit}`Yaml.Cursor.advance`: the cursor some characters further on.
- {lit}`Yaml.Cursor.takeWhile`: the run of characters of a class, and the cursor behind it.
- {lit}`Yaml.Cursor.lineBreak?`: the line break at the cursor.
-/

namespace DocMarkup
namespace Yaml

/-- The rest of a text and its position. -/
structure Cursor where
  rest : Text
  index : Nat
  line : Nat
  column : Nat

/-! ## Classes of characters -/

/-- A line break. -/
def isBreak (c : Char) : Bool :=
  c == '\n' || c == '\r' || c.toNat == 0x85 || c.toNat == 0x2028 || c.toNat == 0x2029

/-- A character that may stand in a name: an ASCII letter or digit, a hyphen, an underscore. -/
def isNameChar (c : Char) : Bool := Text.isLetter c || Text.isDigit c || c == '-' || c == '_'

/-- The end of the text, a line break or a space. -/
def endsWord : Option Char → Bool
  | none => true
  | some c => isBreak c || c == ' '

/-- The end of the text, a line break, a space or a tab. -/
def isBlankOrEnd : Option Char → Bool
  | none => true
  | some c => isBreak c || c == ' ' || c == '\t'

namespace Cursor

/-- The cursor at the beginning of a text. -/
def start (s : Text) : Cursor := ⟨s, 0, 0, 0⟩

/-- The character at the cursor. -/
def peek (c : Cursor) : Option Char := c.rest.head?

/-- The character some places behind the cursor. -/
def peekAt (c : Cursor) (n : Nat) : Option Char := c.rest[n]?

/-- Whether the rest begins with a text. -/
def startsWith (c : Cursor) (head : Text) : Bool := head.isPrefixOf c.rest

/-- The cursor one character further on. -/
def next (c : Cursor) : Cursor :=
  match c.rest with
  | [] => c
  | ch :: rest =>
    if isBreak ch && !(ch == '\r' && rest.head? == some '\n') then
      ⟨rest, c.index + 1, c.line + 1, 0⟩
    else if ch.toNat == 0xFEFF then ⟨rest, c.index + 1, c.line, c.column⟩
    else ⟨rest, c.index + 1, c.line, c.column + 1⟩

/-- The cursor some characters further on. -/
def advance : Nat → Cursor → Cursor
  | 0, c => c
  | n + 1, c => advance n c.next

/-- The run of characters of a class at the cursor, and the cursor behind it. -/
def takeWhile (p : Char → Bool) (c : Cursor) : Text × Cursor :=
  let run := c.rest.takeWhile p
  (run, c.advance run.length)

/-- The cursor behind the run of characters of a class. -/
def skipWhile (p : Char → Bool) (c : Cursor) : Cursor := (c.takeWhile p).2

/-- The cursor behind the spaces. -/
def skipSpaces (c : Cursor) : Cursor := c.skipWhile (· == ' ')

/-- The cursor behind a comment that begins there. -/
def skipComment (c : Cursor) : Cursor :=
  if c.peek == some '#' then c.skipWhile (!isBreak ·) else c

/-- The line break at the cursor, as it counts in a scalar, and the cursor behind it. LS and PS
stand for themselves, the others for LF. -/
def lineBreak? (c : Cursor) : Option (Char × Cursor) :=
  match c.rest with
  | [] => none
  | '\r' :: '\n' :: _ => some ('\n', c.advance 2)
  | ch :: _ =>
    if isBreak ch then
      some (if ch.toNat == 0x2028 || ch.toNat == 0x2029 then ch else '\n', c.next)
    else none

/-- Whether a document mark stands at the cursor. -/
def atMark (c : Cursor) (mark : Text) : Bool :=
  c.startsWith mark && isBlankOrEnd (c.peekAt 3)

/-- Whether the mark of a document's beginning or end stands at the cursor. -/
def atDocumentMark (c : Cursor) : Bool := c.atMark "---".toList || c.atMark "...".toList

end Cursor
end Yaml
end DocMarkup
