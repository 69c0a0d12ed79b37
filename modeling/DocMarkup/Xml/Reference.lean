import DocMarkup.Assoc
import DocMarkup.Xml.Char

/-!
# References and attribute values

A reference stands between an ampersand and a semicolon. It names a character by number, one of the
five predefined characters, or a general entity that a document type may declare. An attribute value
is a run of characters and entity references; white space written out in it has become a space, a
whole line end a single one, while a referenced character stays as it is.

Main definitions:

- {lit}`Xml.Piece`: a character, or an entity still to be replaced.
- {lit}`Xml.reference?`: the piece that the body of a reference stands for.
- {lit}`Xml.valuePieces?`: the pieces of an attribute value.
- {lit}`Xml.plainName?`: a name without a colon at the head of a text.
-/

namespace DocMarkup
namespace Xml

/-- A character, or a reference to the general entity of that name. -/
inductive Piece where
  | char (c : Char)
  | entity (name : Text)
  deriving DecidableEq

/-! ## Names -/

/-- The name without a colon that a text begins with, and what follows it. -/
def plainName? (rule : CharRule) : Text → Option (Text × Text)
  | [] => none
  | c :: rest =>
    if rule.start c then some (c :: rest.takeWhile rule.more, rest.dropWhile rule.more) else none

/-- A text that is a name without a colon and nothing else. -/
def isPlainName (rule : CharRule) : Text → Bool
  | [] => false
  | c :: rest => rule.start c && rest.all rule.more

/-- The name that a text begins with, one colon allowed between two plain names. -/
def qualifiedName? (rule : CharRule) (s : Text) : Option (Text × Text) := do
  let (first, rest) ← plainName? rule s
  match rest with
  | ':' :: rest =>
    let (second, rest) ← plainName? rule rest
    some (first ++ ':' :: second, rest)
  | _ => some (first, rest)

/-! ## References -/

/-- The character of a code point that a document may hold. -/
def charOf? (n : Nat) : Option Char :=
  let c := Char.ofNat n
  if isChar c then some c else none

/-- The five characters that have names without being declared. -/
def predefined : List (Text × Char) :=
  [("lt".toList, '<'), ("gt".toList, '>'), ("amp".toList, '&'), ("quot".toList, '"'),
   ("apos".toList, '\'')]

/-- The piece that a reference stands for, given what is between its ampersand and semicolon. -/
def reference? (rule : CharRule) : Text → Option Piece
  | '#' :: 'x' :: digits =>
    if digits ≠ [] ∧ digits.all Text.isHexDigit then
      (charOf? (Text.toNat 16 Text.digitValue digits)).map .char
    else none
  | '#' :: digits =>
    if digits ≠ [] ∧ digits.all Text.isDigit then
      (charOf? (Text.toNat 10 Text.digitValue digits)).map .char
    else none
  | name =>
    if isPlainName rule name then
      match Assoc.get? name predefined with
      | some c => some (.char c)
      | none => some (.entity name)
    else none

/-! ## Attribute values -/

/-- The pieces of white space: a plain space for each of its characters. -/
def blankPieces (run : Text) : List Piece := run.map fun _ => .char ' '

mutual

/-- The pieces of an attribute value, given without its quotes. -/
def valuePieces? (rule : CharRule) : Text → Option (List Piece)
  | [] => some []
  | '<' :: _ => none
  | '&' :: rest => valueReference? rule [] rest
  | '\r' :: '\n' :: rest =>
    (blankPieces (rule.lineEnd ['\r', '\n']) ++ ·) <$> valuePieces? rule rest
  | c :: rest =>
    if isSpace c then (.char ' ' :: ·) <$> valuePieces? rule rest
    else if isChar c then (.char c :: ·) <$> valuePieces? rule rest
    else none

/-- The pieces of an attribute value from inside a reference whose body began with `body`. -/
def valueReference? (rule : CharRule) (body : Text) : Text → Option (List Piece)
  | [] => none
  | ';' :: rest => do
    let piece ← reference? rule body
    (piece :: ·) <$> valuePieces? rule rest
  | c :: rest => valueReference? rule (body ++ [c]) rest

end

/-- The quoted attribute value that a text begins with, and what follows it. -/
def quotedValue? (rule : CharRule) : Text → Option (List Piece × Text)
  | [] => none
  | quote :: rest =>
    if quote = '"' ∨ quote = '\'' then
      match rest.dropWhile (· != quote) with
      | [] => none
      | _ :: after => do
        let pieces ← valuePieces? rule (rest.takeWhile (· != quote))
        some (pieces, after)
    else none

end Xml
end DocMarkup
