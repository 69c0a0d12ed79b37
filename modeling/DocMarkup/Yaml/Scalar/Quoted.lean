import DocMarkup.Yaml.Fault
import DocMarkup.Yaml.Scalar.Plain

/-!
# Quoted scalars

In single quotes only the quote is written twice; in double quotes a backslash begins an escape.
Line breaks count as in plain scalars, and a document mark must not stand at the beginning of a
line.

Main definitions:

- {lit}`Yaml.escapedChar?`, {lit}`Yaml.escapeWidth?`: the escapes of one letter and of numbers.
- {lit}`Yaml.readQuoted`: the quoted scalar at a cursor.
-/

namespace DocMarkup
namespace Yaml

/-- The character of an escape of one letter. -/
def escapedChar? (c : Char) : Option Char :=
  match c with
  | '0' => some '\x00'
  | 'a' => some '\x07'
  | 'b' => some '\x08'
  | 't' => some '\t'
  | '\t' => some '\t'
  | 'n' => some '\n'
  | 'v' => some '\x0b'
  | 'f' => some '\x0c'
  | 'r' => some '\r'
  | 'e' => some '\x1b'
  | ' ' => some ' '
  | '"' => some '"'
  | '\\' => some '\\'
  | '/' => some '/'
  | 'N' => some '\u0085'
  | '_' => some '\u00a0'
  | 'L' => some '\u2028'
  | 'P' => some '\u2029'
  | _ => none

/-- The number of digits of an escape that gives a code point. -/
def escapeWidth? (c : Char) : Option Nat :=
  match c with
  | 'x' => some 2
  | 'u' => some 4
  | 'U' => some 8
  | _ => none

/-- The breaks of the empty lines at a cursor inside quotes. -/
def quotedEmptyLines : Nat → Text → Cursor → Except Fault (Text × Cursor)
  | 0, breaks, c => .ok (breaks, c)
  | fuel + 1, breaks, c =>
    if c.atDocumentMark then .error .malformed
    else
      let c := c.skipWhile fun ch => ch == ' ' || ch == '\t'
      match c.lineBreak? with
      | none => .ok (breaks, c)
      | some (ch, c) => quotedEmptyLines fuel (breaks ++ [ch]) c

/-- The white space at a cursor as it counts inside quotes. -/
def quotedSpace (c : Cursor) : Except Fault (Text × Cursor) :=
  let (spaces, c) := c.takeWhile fun ch => ch == ' ' || ch == '\t'
  match c.rest with
  | [] => .error .malformed
  | _ =>
    match c.lineBreak? with
    | none => .ok (spaces, c)
    | some (ch, c) => do
      let (breaks, c) ← quotedEmptyLines (c.rest.length + 1) [] c
      .ok (foldBreak ch breaks, c)

/-- The character that a run of hexadecimal digits gives. -/
def codePoint (digits : Text) : Except Fault Char :=
  let n := Text.toNat 16 Text.digitValue digits
  if n < 0x110000 then .ok (Char.ofNat n)
  else .error (if n < Nat.pow 2 31 then .codePoint else .wideCodePoint)

/-- The escape at a cursor behind its backslash. -/
def readEscape (c : Cursor) : Except Fault (Text × Cursor) :=
  match c.rest with
  | [] => .error .malformed
  | ch :: rest =>
    match escapedChar? ch, escapeWidth? ch with
    | some escaped, _ => .ok ([escaped], c.next)
    | none, some width => do
      let digits := rest.take width
      if digits.length = width ∧ digits.all Text.isHexDigit then
        let escaped ← codePoint digits
        .ok ([escaped], c.advance (width + 1))
      else .error .malformed
    | none, none =>
      match c.lineBreak? with
      | none => .error .malformed
      | some (_, c) => quotedEmptyLines (c.rest.length + 1) [] c

/-- A quoted scalar of which `value` has been read. -/
def quotedFrom (quote : Char) : Nat → Text → Cursor → Except Fault (Text × Cursor)
  | 0, _, _ => .error .malformed
  | fuel + 1, value, c =>
    match c.rest with
    | [] => .error .malformed
    | ch :: rest =>
      if ch = quote then
        if quote = '\'' ∧ rest.head? = some '\'' then
          quotedFrom quote fuel (value ++ ['\'']) (c.advance 2)
        else .ok (value, c.next)
      else if ch = '\\' ∧ quote = '"' then do
        let (escaped, c) ← readEscape c.next
        quotedFrom quote fuel (value ++ escaped) c
      else if isBlankOrEnd (some ch) then do
        let (space, c) ← quotedSpace c
        quotedFrom quote fuel (value ++ space) c
      else
        let (run, c) := c.takeWhile fun ch =>
          !(isBlankOrEnd (some ch) || ch == '\'' || ch == '"' || ch == '\\')
        if run = [] then quotedFrom quote fuel (value ++ [ch]) c.next
        else quotedFrom quote fuel (value ++ run) c

/-- The quoted scalar at a cursor. -/
def readQuoted (c : Cursor) : Except Fault (Text × Cursor) :=
  match c.rest with
  | [] => .error .malformed
  | quote :: rest => quotedFrom quote (rest.length + 1) [] c.next

end Yaml
end DocMarkup
