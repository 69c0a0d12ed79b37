import DocMarkup.Yaml.Scalar.Block
import DocMarkup.Yaml.Scalar.Quoted
import DocMarkup.Yaml.Token

/-!
# Layout

The tokens of a text are found from left to right together with the marks of block collections,
which are nowhere written: a collection begins where a line is indented deeper than the one around
it, and ends where a line is indented less. That a scalar is a key is known only at the colon behind
it, so the places where a key may begin are remembered, one for each depth of brackets.

Main definitions:

- {lit}`Yaml.KeyPlace`: a place where a key may begin.
- {lit}`Yaml.Layout`: what has been found so far.
- {lit}`Yaml.Layout.step`: the next token with the marks in front of it.
- {lit}`Yaml.Layout.settled`: the tokens that nothing can be put in front of any more.
- {lit}`Yaml.layout`: the tokens of a text, up to a fault if there is one.
-/

namespace DocMarkup
namespace Yaml

/-- A place where a key may begin, with the number of tokens in front of it. A required key stands
at the indentation of a block mapping, where nothing but a key may begin. -/
structure KeyPlace where
  level : Nat
  count : Nat
  required : Bool
  index : Nat
  line : Nat
  column : Nat

/-- What has been found so far: the tokens, the last one first, and the state of the layout. -/
structure Layout where
  cursor : Cursor
  tokens : List Token
  level : Nat
  indent : Int
  outerIndents : List Int
  mayBeginKey : Bool
  keys : List KeyPlace

namespace Layout

/-- The layout at the beginning of a text. A byte order mark there is passed over. -/
def start (s : Text) : Layout where
  cursor :=
    let c := Cursor.start s
    if c.peek.any (·.toNat == 0xFEFF) then c.next else c
  tokens := []
  level := 0
  indent := -1
  outerIndents := []
  mayBeginKey := true
  keys := []

/-- The layout with one more token. -/
def emit (l : Layout) (t : Token) : Layout := { l with tokens := t :: l.tokens }

/-- The layout with a token put behind the first `count` ones. -/
def emitBehind (l : Layout) (count : Nat) (t : Token) : Layout :=
  let later := l.tokens.length - count
  { l with tokens := l.tokens.take later ++ t :: l.tokens.drop later }

/-! ## Keys -/

/-- The place where a key of the current level may begin. -/
def key? (l : Layout) : Option KeyPlace := l.keys.find? (·.level = l.level)

/-- The layout without that place; a required key must not be given up. -/
def dropKey (l : Layout) : Except Fault Layout :=
  if l.key?.any (·.required) then .error .malformed
  else .ok { l with keys := l.keys.filter (·.level ≠ l.level) }

/-- The layout with the cursor as the place of a key, when one may begin there. -/
def saveKey (l : Layout) : Except Fault Layout :=
  if l.mayBeginKey then do
    let l ← l.dropKey
    let place : KeyPlace :=
      { level := l.level, count := l.tokens.length
        required := l.level == 0 && l.indent == l.cursor.column
        index := l.cursor.index, line := l.cursor.line, column := l.cursor.column }
    .ok { l with keys := place :: l.keys }
  else .ok l

/-- Whether a key that begins at a place must have ended: it has one line and at most 1024
characters. -/
def isStale (l : Layout) (k : KeyPlace) : Bool :=
  k.line != l.cursor.line || 1024 < l.cursor.index - k.index

/-- The layout without the places of keys that must have ended. -/
def dropStaleKeys (l : Layout) : Except Fault Layout :=
  if l.keys.any fun k => l.isStale k && k.required then .error .malformed
  else .ok { l with keys := l.keys.filter fun k => !l.isStale k }

/-! ## Indentation -/

/-- The block collections that are indented deeper than a column, closed. -/
def closeBlocks (column : Int) : Nat → Layout → Layout
  | 0, l => l
  | fuel + 1, l =>
    if column < l.indent then
      closeBlocks column fuel
        ({ l with indent := l.outerIndents.headD (-1), outerIndents := l.outerIndents.tail }.emit
          .blockEnd)
    else l

/-- The layout with the deeper block collections closed, unless it is inside brackets. -/
def unwind (l : Layout) (column : Int) : Layout :=
  if l.level = 0 then closeBlocks column (l.outerIndents.length + 1) l else l

/-- Whether a block collection begins at a column, and the layout with its indentation. -/
def deepen (l : Layout) (column : Nat) : Bool × Layout :=
  if l.indent < column then
    (true, { l with indent := column, outerIndents := l.indent :: l.outerIndents })
  else (false, l)

/-! ## White space -/

/-- The cursor in front of the next token. Behind a line break outside brackets a key may begin. -/
def skipToToken : Nat → Layout → Layout
  | 0, l => l
  | fuel + 1, l =>
    let c := l.cursor.skipSpaces.skipComment
    match c.lineBreak? with
    | none => { l with cursor := c }
    | some (_, c) =>
      skipToToken fuel { l with cursor := c, mayBeginKey := l.mayBeginKey || l.level == 0 }

/-! ## Tokens -/

/-- The layout behind a mark of some characters. -/
def pass (l : Layout) (width : Nat) (t : Token) : Layout :=
  { l with cursor := l.cursor.advance width }.emit t

/-- A mark of a document. -/
def documentMark (l : Layout) (t : Token) : Except Fault Layout := do
  let l ← (l.unwind (-1)).dropKey
  .ok ({ l with mayBeginKey := false }.pass 3 t)

/-- A directive. -/
def directive (l : Layout) : Except Fault Layout := do
  let l ← (l.unwind (-1)).dropKey
  let (d, c) ← readDirective l.cursor
  .ok ({ l with mayBeginKey := false, cursor := c }.emit (.directive d))

/-- The end of the text. -/
def finish (l : Layout) : Except Fault Layout := do
  let l ← (l.unwind (-1)).dropKey
  .ok (l.emit .streamEnd)

/-- An opening bracket. -/
def openFlow (l : Layout) (t : Token) : Except Fault Layout := do
  let l ← l.saveKey
  .ok ({ l with level := l.level + 1, mayBeginKey := true }.pass 1 t)

/-- A closing bracket, which must answer an opening one. -/
def closeFlow (l : Layout) (t : Token) : Except Fault Layout := do
  let l ← l.dropKey
  match l.level with
  | 0 => .error .malformed
  | level + 1 => .ok ({ l with level := level, mayBeginKey := false }.pass 1 t)

/-- A comma inside brackets. -/
def flowEntry (l : Layout) : Except Fault Layout := do
  let l ← { l with mayBeginKey := true }.dropKey
  .ok (l.pass 1 .flowEntry)

/-- The layout with a block collection begun at the cursor, where one may begin. -/
def beginBlock (l : Layout) (t : Token) : Except Fault Layout :=
  if l.level ≠ 0 then .ok l
  else if !l.mayBeginKey then .error .malformed
  else
    let (begins, l) := l.deepen l.cursor.column
    .ok (if begins then l.emit t else l)

/-- The mark of an entry of a block sequence. -/
def blockEntry (l : Layout) : Except Fault Layout := do
  let l ← l.beginBlock .blockSequenceStart
  let l ← { l with mayBeginKey := true }.dropKey
  .ok (l.pass 1 .blockEntry)

/-- The mark of a key. -/
def explicitKey (l : Layout) : Except Fault Layout := do
  let l ← l.beginBlock .blockMappingStart
  let l ← { l with mayBeginKey := l.level == 0 }.dropKey
  .ok (l.pass 1 .key)

/-- The mark of a value. What stands at the place of a key has been one, and may have begun a
mapping. -/
def value (l : Layout) : Except Fault Layout :=
  match l.key? with
  | some k =>
    let l := { l with keys := l.keys.filter (·.level ≠ l.level) }.emitBehind k.count .key
    let (begins, deeper) := l.deepen k.column
    let l := if l.level == 0 && begins then deeper.emitBehind k.count .blockMappingStart else l
    .ok ({ l with mayBeginKey := false }.pass 1 .value)
  | none => do
    let l ← l.beginBlock .blockMappingStart
    let l ← { l with mayBeginKey := l.level == 0 }.dropKey
    .ok (l.pass 1 .value)

/-- An anchor or an alias. -/
def reference (l : Layout) (make : Text → Token) : Except Fault Layout := do
  let l ← l.saveKey
  let (name, c) ← readAnchorName l.cursor
  .ok ({ l with mayBeginKey := false, cursor := c }.emit (make name))

/-- A tag. -/
def tag (l : Layout) : Except Fault Layout := do
  let l ← l.saveKey
  let (handle, suffix, c) ← readTag l.cursor
  .ok ({ l with mayBeginKey := false, cursor := c }.emit (.tag handle suffix))

/-- A block scalar. -/
def blockScalar (l : Layout) (folded : Bool) : Except Fault Layout := do
  let l ← { l with mayBeginKey := true }.dropKey
  let (content, c) ← readBlock folded l.indent l.cursor
  .ok ({ l with cursor := c }.emit (.scalar false content))

/-- A quoted scalar. -/
def quotedScalar (l : Layout) : Except Fault Layout := do
  let l ← l.saveKey
  let (content, c) ← readQuoted l.cursor
  .ok ({ l with mayBeginKey := false, cursor := c }.emit (.scalar false content))

/-- A plain scalar. -/
def plainScalar (l : Layout) : Except Fault Layout := do
  let l ← l.saveKey
  let plain := readPlain (l.level != 0) l.indent l.cursor
  .ok ({ l with mayBeginKey := plain.lineEnded, cursor := plain.cursor }.emit
    (.scalar true plain.value))

/-- The marks that no plain scalar begins with. -/
def indicators : Text := "-?:,[]\x7b\x7d#&*!|>'\"%@\x60".toList

/-- Whether a plain scalar begins with a character, given the one after it. -/
def beginsPlain (l : Layout) (c : Char) (after : Option Char) : Bool :=
  !(isBlankOrEnd (some c) || indicators.contains c) ||
    (!isBlankOrEnd after && (c == '-' || (l.level == 0 && (c == '?' || c == ':'))))

/-- The token at the cursor, which stands in front of one. -/
def token (l : Layout) (c : Char) (after : Option Char) : Except Fault Layout :=
  let blank := isBlankOrEnd after
  let inFlow := l.level != 0
  if c = '%' ∧ l.cursor.column = 0 then l.directive
  else if l.cursor.column = 0 ∧ l.cursor.atMark "---".toList then l.documentMark .documentStart
  else if l.cursor.column = 0 ∧ l.cursor.atMark "...".toList then l.documentMark .documentEnd
  else if c = '[' then l.openFlow .flowSequenceStart
  else if c = '\x7b' then l.openFlow .flowMappingStart
  else if c = ']' then l.closeFlow .flowSequenceEnd
  else if c = '\x7d' then l.closeFlow .flowMappingEnd
  else if c = ',' then l.flowEntry
  else if c = '-' ∧ blank then l.blockEntry
  else if c = '?' ∧ (inFlow ∨ blank) then l.explicitKey
  else if c = ':' ∧ (inFlow ∨ blank) then l.value
  else if c = '*' then l.reference .alias
  else if c = '&' then l.reference .anchor
  else if c = '!' then l.tag
  else if c = '|' ∧ !inFlow then l.blockScalar false
  else if c = '>' ∧ !inFlow then l.blockScalar true
  else if c = '\'' ∨ c = '"' then l.quotedScalar
  else if l.beginsPlain c after then l.plainScalar
  else .error .malformed

/-- The next token with the marks in front of it, and whether the text has ended. -/
def step (l : Layout) : Except Fault (Layout × Bool) := do
  let l ← (skipToToken (l.cursor.rest.length + 1) l).dropStaleKeys
  let l := l.unwind l.cursor.column
  match l.cursor.rest with
  | [] => return (← l.finish, true)
  | c :: rest => return (← l.token c rest.head?, false)

/-- The number of tokens that nothing can be put in front of any more: those before the first place
where a key may still begin. -/
def settledCount (l : Layout) : Nat :=
  ((l.keys.filter fun k => k.required || !l.isStale k).map (·.count)).foldl min l.tokens.length

/-- The tokens that nothing can be put in front of any more. -/
def settled (l : Layout) : List Token := l.tokens.reverse.take l.settledCount

/-- The tokens found in at most `fuel` steps, and the fault that ended the work, if any. In front of
a fault only settled tokens count. -/
def run : Nat → Layout → List Token × Option Fault
  | 0, l => (l.settled, some .malformed)
  | fuel + 1, l =>
    match l.step with
    | .error e => (l.settled, some e)
    | .ok (l, true) => (l.tokens.reverse, none)
    | .ok (l, false) => run fuel l

end Layout

/-- The tokens of a text, up to a fault if there is one. Every step but the last takes a
character. -/
def layout (s : Text) : List Token × Option Fault := (Layout.start s).run (s.length + 1)

end Yaml
end DocMarkup
