import DocMarkup.Number.Read
import DocMarkup.Yaml.Cursor
import DocMarkup.Yaml.Fault

/-!
# Tokens of YAML

The tokens of a YAML text, and those among them that consist of a mark and a name: anchors and
aliases, tags, and directives.

Main definitions:

- {lit}`Yaml.Token`: the tokens.
- {lit}`Yaml.readAnchorName`, {lit}`Yaml.readTag`, {lit}`Yaml.readDirective`: tokens with names.
-/

namespace DocMarkup
namespace Yaml

/-- A directive: a version, a tag handle with its prefix, or one that is not known. -/
inductive Directive where
  | version (major : Nat)
  | handle (name expansion : Text)
  | other

/-- A token. The marks of block collections are found from the indentation. -/
inductive Token where
  | directive (d : Directive)
  | documentStart
  | documentEnd
  | streamEnd
  | blockSequenceStart
  | blockMappingStart
  | blockEnd
  | flowSequenceStart
  | flowSequenceEnd
  | flowMappingStart
  | flowMappingEnd
  | blockEntry
  | flowEntry
  | key
  | value
  | alias (name : Text)
  | anchor (name : Text)
  | tag (handle : Option Text) (suffix : Text)
  | scalar (isPlain : Bool) (content : Text)

/-! ## Anchors and aliases -/

/-- What may follow the name of an anchor or alias. -/
def endsAnchor (c : Option Char) : Bool :=
  isBlankOrEnd c || c.any fun c => "?:,]\x7d%@\x60".toList.contains c

/-- The name of an anchor or alias at a cursor on its mark. -/
def readAnchorName (c : Cursor) : Except Fault (Text × Cursor) :=
  let (name, c) := c.next.takeWhile isNameChar
  if name ≠ [] ∧ endsAnchor c.peek then .ok (name, c) else .error .malformed

/-! ## Tags -/

/-- A character that may stand in a tag, a percent sign included. -/
def isTagChar (c : Char) : Bool :=
  Text.isLetter c || Text.isDigit c || "-;/?:@&=+$,_.!~*'()[]%".toList.contains c

/-- The bytes of a run of escaped bytes, and what follows it. -/
def escapedBytes : Nat → Text → Except Fault (List UInt8 × Text)
  | 0, s => .ok ([], s)
  | fuel + 1, s =>
    match s with
    | '%' :: a :: b :: rest =>
      if Text.isHexDigit a ∧ Text.isHexDigit b then do
        let (others, rest) ← escapedBytes fuel rest
        .ok (UInt8.ofNat (Text.toNat 16 Text.digitValue [a, b]) :: others, rest)
      else .error .malformed
    | '%' :: _ => .error .malformed
    | _ => .ok ([], s)

/-- The text of a run of bytes in UTF-8. -/
def textOfBytes (bytes : List UInt8) : Except Fault Text :=
  match String.fromUTF8? ⟨bytes.toArray⟩ with
  | some s => .ok s.toList
  | none => .error .malformed

/-- The text of a tag with its escaped bytes decoded, and what follows it. -/
def tagText : Nat → Text → Except Fault (Text × Text)
  | 0, s => .ok ([], s)
  | fuel + 1, s =>
    match s with
    | [] => .ok ([], [])
    | c :: rest =>
      if !isTagChar c then .ok ([], s)
      else if c = '%' then do
        let (bytes, rest) ← escapedBytes s.length s
        let decoded ← textOfBytes bytes
        let (more, rest) ← tagText fuel rest
        .ok (decoded ++ more, rest)
      else do
        let (more, rest) ← tagText fuel rest
        .ok (c :: more, rest)

/-- The text of a tag at a cursor; it must not be empty. -/
def readTagText (c : Cursor) : Except Fault (Text × Cursor) := do
  let (text, rest) ← tagText c.rest.length c.rest
  let length := c.rest.length - rest.length
  if length = 0 then .error .malformed else .ok (text, c.advance length)

/-- The handle at a cursor: an exclamation mark, or a name between two of them. -/
def readHandle (c : Cursor) : Except Fault (Text × Cursor) :=
  match c.rest with
  | '!' :: rest =>
    if rest.head? = some ' ' then .ok (['!'], c.next)
    else
      let name := rest.takeWhile isNameChar
      match rest.dropWhile isNameChar with
      | '!' :: _ => .ok ('!' :: name ++ ['!'], c.advance (name.length + 2))
      | _ => .error .malformed
  | _ => .error .malformed

/-- Whether a second exclamation mark follows before the end of the word. -/
def hasSecondMark (rest : Text) : Bool :=
  (rest.dropWhile fun c => !(endsWord (some c) || c == '!')).head? == some '!'

/-- The tag at a cursor: a whole tag in angle brackets, a lone mark, or a handle with a suffix. -/
def readTag (c : Cursor) : Except Fault (Option Text × Text × Cursor) := do
  let (handle, suffix, c) ← show Except Fault (Option Text × Text × Cursor) from
    match c.peekAt 1 with
    | some '<' => do
      let (suffix, c) ← readTagText (c.advance 2)
      if c.peek = some '>' then .ok (none, suffix, c.next) else .error .malformed
    | after =>
      if isBlankOrEnd after then .ok (none, ['!'], c.next)
      else do
        let (handle, c) ←
          if hasSecondMark (c.rest.drop 1) then readHandle c else .ok (['!'], c.next)
        let (suffix, c) ← readTagText c
        .ok (some handle, suffix, c)
  if endsWord c.peek then .ok (handle, suffix, c) else .error .malformed

/-! ## Directives -/

/-- A number at a cursor. -/
def readNumber (c : Cursor) : Except Fault (Nat × Cursor) :=
  let (digits, c) := c.takeWhile Text.isDigit
  if digits = [] then .error .malformed
  else if Number.maxDigits < digits.length then .error .number
  else .ok (Text.toNat 10 Text.digitValue digits, c)

/-- The version at a cursor: two numbers with a dot between them. -/
def readVersion (c : Cursor) : Except Fault (Directive × Cursor) := do
  let (major, c) ← readNumber c.skipSpaces
  if c.peek = some '.' then
    let (_, c) ← readNumber c.next
    if endsWord c.peek then .ok (.version major, c) else .error .malformed
  else .error .malformed

/-- The handle and its expansion at a cursor. -/
def readHandleDirective (c : Cursor) : Except Fault (Directive × Cursor) := do
  let (name, c) ← readHandle c.skipSpaces
  if c.peek = some ' ' then
    let (expansion, c) ← readTagText c.skipSpaces
    if endsWord c.peek then .ok (.handle name expansion, c) else .error .malformed
  else .error .malformed

/-- The directive at a cursor on its mark, up to the end of its line. -/
def readDirective (c : Cursor) : Except Fault (Directive × Cursor) := do
  let (name, c) := c.next.takeWhile isNameChar
  if name = [] ∨ !endsWord c.peek then .error .malformed
  else
    let (directive, c) ←
      if name = "YAML".toList then readVersion c
      else if name = "TAG".toList then readHandleDirective c
      else .ok (.other, c.skipWhile (!isBreak ·))
    let c := c.skipSpaces.skipComment
    match c.lineBreak? with
    | some (_, c) => .ok (directive, c)
    | none => if c.rest = [] then .ok (directive, c) else .error .malformed

end Yaml
end DocMarkup
