import DocMarkup.Yaml.Fault
import DocMarkup.Yaml.Scalar.Plain

/-!
# Block scalars

A block scalar is a header and the lines that are indented under it. Its line breaks are kept, or
folded into spaces between lines of text; what becomes of the breaks at its end is a choice of the
header.

Main definitions:

- {lit}`Yaml.Chomping`: what becomes of the breaks at the end.
- {lit}`Yaml.blockHeader`: the header of a block scalar.
- {lit}`Yaml.readBlock`: the block scalar at a cursor.
-/

namespace DocMarkup
namespace Yaml

/-- What becomes of the line breaks at the end: none is left, one, or all of them. -/
inductive Chomping where
  | strip
  | clip
  | keep
  deriving DecidableEq

/-- The chomping that a sign means. -/
def chompingOf? : Option Char → Option Chomping
  | some '+' => some .keep
  | some '-' => some .strip
  | _ => none

/-- The indentation that a digit gives; zero is none. -/
def incrementOf? : Option Char → Except Fault (Option Nat)
  | some c =>
    if c = '0' then .error .malformed
    else .ok (if Text.isDigit c then some (Text.digitValue c) else none)
  | none => .ok none

/-- The signs of the header of a block scalar, in either order. -/
def blockSigns (c : Cursor) : Except Fault (Chomping × Option Nat × Cursor) :=
  match chompingOf? c.peek with
  | some chomping => do
    let c := c.next
    let increment ← incrementOf? c.peek
    .ok (chomping, increment, if increment.isSome then c.next else c)
  | none => do
    let increment ← incrementOf? c.peek
    if increment.isSome then
      let c := c.next
      match chompingOf? c.peek with
      | some chomping => .ok (chomping, increment, c.next)
      | none => .ok (.clip, increment, c)
    else .ok (.clip, none, c)

/-- The end of a line on which only a comment may stand. -/
def restOfLine (c : Cursor) : Except Fault Cursor :=
  let c := c.skipSpaces.skipComment
  match c.lineBreak? with
  | some (_, c) => .ok c
  | none => if c.rest = [] then .ok c else .error .malformed

/-- The header of a block scalar at a cursor behind its indicator, up to the end of its line. -/
def blockHeader (c : Cursor) : Except Fault (Chomping × Option Nat × Cursor) := do
  let (chomping, increment, c) ← blockSigns c
  if endsWord c.peek then
    let c ← restOfLine c
    .ok (chomping, increment, c)
  else .error .malformed

/-- The breaks of the empty lines in front of the first line of text, and the deepest
indentation. -/
def blockIndentation : Nat → Text → Nat → Cursor → Text × Nat × Cursor
  | 0, breaks, deepest, c => (breaks, deepest, c)
  | fuel + 1, breaks, deepest, c =>
    let c := c.skipSpaces
    let deepest := max deepest c.column
    match c.lineBreak? with
    | none => (breaks, deepest, c)
    | some (ch, c) => blockIndentation fuel (breaks ++ [ch]) deepest c

/-- The cursor behind spaces, at most up to a column. -/
def skipIndentation (indent : Nat) (c : Cursor) : Cursor :=
  c.advance (((c.rest.take (indent - c.column)).takeWhile (· == ' ')).length)

/-- The breaks of the empty lines at a cursor, for a known indentation. -/
def blockBreaks (indent : Nat) : Nat → Text → Cursor → Text × Cursor
  | 0, breaks, c => (breaks, c)
  | fuel + 1, breaks, c =>
    let c := skipIndentation indent c
    match c.lineBreak? with
    | none => (breaks, c)
    | some (ch, c) => blockBreaks indent fuel (breaks ++ [ch]) c

/-- Whether a space or a tab stands at the cursor. -/
def beginsWithSpace (c : Cursor) : Bool := c.peek == some ' ' || c.peek == some '\t'

/-- The lines of a block scalar of which `value` has been read, with the breaks of the empty lines
behind it: the value, the last line break, and the breaks behind that. -/
def blockLines (folded : Bool) (indent : Nat) :
    Nat → Text → Text → Cursor → Text × Text × Text × Cursor
  | 0, value, breaks, c => (value, [], breaks, c)
  | fuel + 1, value, breaks, c =>
    let spaced := beginsWithSpace c
    let (run, c) := c.takeWhile (!isBreak ·)
    let value := value ++ breaks ++ run
    let (lineBreak, c) : Text × Cursor :=
      match c.lineBreak? with
      | some (ch, c) => ([ch], c)
      | none => ([], c)
    let (breaks, c) := blockBreaks indent (c.rest.length + 1) [] c
    if c.column = indent ∧ c.rest ≠ [] then
      let between :=
        if folded && lineBreak == ['\n'] && !spaced && !beginsWithSpace c then
          (if breaks = [] then [' '] else [])
        else lineBreak
      blockLines folded indent fuel (value ++ between) breaks c
    else (value, lineBreak, breaks, c)

/-- The block scalar at a cursor, under a collection with the given indentation. -/
def readBlock (folded : Bool) (parent : Int) (c : Cursor) : Except Fault (Text × Cursor) := do
  let (chomping, increment, c) ← blockHeader c.next
  let least := (max (parent + 1) 1).toNat
  let (indent, breaks, c) : Nat × Text × Cursor :=
    match increment with
    | none =>
      let (breaks, deepest, c) := blockIndentation (c.rest.length + 1) [] 0 c
      (max least deepest, breaks, c)
    | some increment =>
      let indent := least + increment - 1
      let (breaks, c) := blockBreaks indent (c.rest.length + 1) [] c
      (indent, breaks, c)
  let (value, lineBreak, breaks, c) :=
    if c.column = indent ∧ c.rest ≠ [] then
      blockLines folded indent (c.rest.length + 1) [] breaks c
    else ([], [], breaks, c)
  let tail := match chomping with
    | .strip => []
    | .clip => lineBreak
    | .keep => lineBreak ++ breaks
  .ok (value ++ tail, c)

end Yaml
end DocMarkup
