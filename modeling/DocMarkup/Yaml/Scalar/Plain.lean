import DocMarkup.Yaml.Cursor

/-!
# Plain scalars

A scalar without quotes reaches to a comment, to a mark that has a meaning where it stands, or to a
line that is indented less. A single line break inside it counts as a space.

Main definitions:

- {lit}`Yaml.plainRun`: the part of a plain scalar without white space.
- {lit}`Yaml.Plain`: a plain scalar, and whether a line ended behind it.
- {lit}`Yaml.readPlain`: the plain scalar at a cursor.
-/

namespace DocMarkup
namespace Yaml

/-- A mark with a meaning inside brackets. -/
def isFlowMark (c : Char) : Bool := c == ',' || c == '[' || c == ']' || c == '\x7b' || c == '\x7d'

/-- Whether a plain scalar ends in front of a character, given the one after it. -/
def endsPlain (inFlow : Bool) (c : Char) (after : Option Char) : Bool :=
  isBlankOrEnd (some c) ||
    (c == ':' && (isBlankOrEnd after || (inFlow && after.any isFlowMark))) ||
    (inFlow && (isFlowMark c || c == '?'))

/-- The part of a plain scalar up to white space or to its end. -/
def plainRun (inFlow : Bool) : Text → Text
  | [] => []
  | c :: rest => if endsPlain inFlow c rest.head? then [] else c :: plainRun inFlow rest

/-- The breaks of the empty lines at a cursor; nothing when a document mark follows one of them. -/
def emptyLines : Nat → Text → Cursor → Option Text × Cursor
  | 0, breaks, c => (some breaks, c)
  | fuel + 1, breaks, c =>
    let c := c.skipSpaces
    match c.lineBreak? with
    | none => (some breaks, c)
    | some (ch, c) =>
      if c.atDocumentMark then (none, c) else emptyLines fuel (breaks ++ [ch]) c

/-- A line break as it counts between two parts of a scalar, given the breaks of the empty lines
after it: a single one is a space, and in front of empty lines it counts nothing. -/
def foldBreak (ch : Char) (breaks : Text) : Text :=
  if ch ≠ '\n' then ch :: breaks else if breaks = [] then [' '] else breaks

/-- The white space at a cursor as it counts inside a plain scalar, and whether a line ended there.
In front of a document mark it is nothing. -/
def plainSpace (c : Cursor) : Option Text × Bool × Cursor :=
  let (spaces, c) := c.takeWhile (· == ' ')
  match c.lineBreak? with
  | none => (some spaces, false, c)
  | some (ch, c) =>
    if c.atDocumentMark then (none, true, c)
    else
      let (breaks, c) := emptyLines c.rest.length [] c
      (breaks.map (foldBreak ch), true, c)

/-- A plain scalar, whether a line ended behind it, and the cursor there. -/
structure Plain where
  value : Text
  lineEnded : Bool
  cursor : Cursor

/-- A plain scalar of which `value` has been read, with white space `space` behind it. -/
def plainFrom (inFlow : Bool) (indent : Int) : Nat → Text → Text → Bool → Cursor → Plain
  | 0, value, _, lineEnded, c => ⟨value, lineEnded, c⟩
  | fuel + 1, value, space, lineEnded, c =>
    let run := plainRun inFlow c.rest
    if run = [] ∨ c.peek = some '#' then ⟨value, lineEnded, c⟩
    else
      let value := value ++ space ++ run
      let (space, lineEnded, c) := plainSpace (c.advance run.length)
      match space with
      | none | some [] => ⟨value, lineEnded, c⟩
      | some space =>
        if !inFlow && (c.column : Int) < indent then ⟨value, lineEnded, c⟩
        else plainFrom inFlow indent fuel value space lineEnded c

/-- The plain scalar at a cursor. Outside brackets its lines are indented by more than `indent`. -/
def readPlain (inFlow : Bool) (indent : Int) (c : Cursor) : Plain :=
  plainFrom inFlow (indent + 1) c.rest.length [] [] false c

end Yaml
end DocMarkup
