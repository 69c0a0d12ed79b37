import DocMarkup.Xml.Coding
import DocMarkup.Xml.Content
import DocMarkup.Xml.Doctype

/-!
# Documents

A document is a heading, a document type, and one element, with comments and instructions between
them. Each of the first two may be left out.

Main definitions:

- {lit}`Xml.Heading`: the encoding that a document names, and whether it stands alone.
- {lit}`Xml.heading?`: the heading that a text begins with.
- {lit}`Xml.rootOfText?`: the element of a text behind its heading.
- {lit}`Xml.readDocument`: the element of some bytes.
-/

namespace DocMarkup
namespace Xml

/-! ## Headings -/

/-- The encoding that a document names, and whether it stands alone. -/
structure Heading where
  encoding : Option Text
  standsAlone : Bool

/-- A character of a value in a heading. -/
def isHeadingChar (c : Char) : Bool :=
  Text.isLetter c || Text.isDigit c || c == '.' || c == '-' || c == '_'

/-- The value in quotes that a text begins with, and what follows it. -/
def headingValue? : Text → Option (Text × Text)
  | [] => none
  | quote :: rest =>
    let value := rest.takeWhile isHeadingChar
    if quote = '"' ∨ quote = '\'' then
      match rest.dropWhile isHeadingChar with
      | c :: after => if c = quote then some (value, after) else none
      | [] => none
    else none

/-- The names and values of a heading, each behind space, for a text of at most `fuel` of them. -/
def headingFields? : Nat → Text → Option (List (Text × Text))
  | 0, _ => none
  | fuel + 1, s =>
    match s.dropWhile isSpace with
    | [] => some []
    | t =>
      if t.length = s.length then none
      else do
        let name := t.takeWhile Text.isLetter
        match (t.dropWhile Text.isLetter).dropWhile isSpace with
        | '=' :: rest =>
          let (value, rest) ← headingValue? (rest.dropWhile isSpace)
          ((name, value) :: ·) <$> headingFields? fuel rest
        | _ => none

/-- Whether a document stands alone, by the word that says so. -/
def standsAlone? (word : Text) : Option Bool :=
  if word = "yes".toList then some true else if word = "no".toList then some false else none

/-- The heading of a list of fields: a version, and then an encoding, and whether the document
stands alone. -/
def headingOfFields? (fields : List (Text × Text)) : Option Heading :=
  match fields with
  | (version, _) :: rest =>
    if version ≠ "version".toList then none
    else
      match rest with
      | [] => some ⟨none, false⟩
      | [(name, value)] =>
        if name = "encoding".toList ∧ value.head?.any Text.isLetter then some ⟨some value, false⟩
        else if name = "standalone".toList then (fun b => ⟨none, b⟩) <$> standsAlone? value
        else none
      | [(name, value), (last, word)] =>
        if name = "encoding".toList ∧ value.head?.any Text.isLetter ∧
            last = "standalone".toList then
          (fun b => ⟨some value, b⟩) <$> standsAlone? word
        else none
      | _ => none
  | [] => none

/-- How a heading begins; a space or the end of the heading must follow. -/
def headingMark : Text := "<?xml".toList

/-- The heading that a text begins with, if there is one, and its length; nothing when it is
malformed. -/
def heading? (s : Text) : Option (Heading × Nat) :=
  match Text.after? headingMark s with
  | none => some (⟨none, false⟩, 0)
  | some rest =>
    if rest.head?.any fun c => isSpace c || c == '?' then
      let body := rest.takeWhile (· != '?')
      match rest.dropWhile (· != '?') with
      | '?' :: '>' :: _ => do
        let fields ← headingFields? (body.length + 1) body
        let heading ← headingOfFields? fields
        some (heading, headingMark.length + body.length + 2)
      | _ => none
    else some (⟨none, false⟩, 0)

/-! ## Elements -/

/-- The depth of open elements behind some tokens. -/
def depthAfter (depth : Nat) : List Token → Nat
  | [] => depth
  | .startTag _ _ :: rest => depthAfter (depth + 1) rest
  | .endTag _ :: rest => depthAfter (depth - 1) rest
  | _ :: rest => depthAfter depth rest

/-- The tokens of the element that a text begins with, and what follows it, inside `depth` open
elements and for a text of at most `fuel` constructs. -/
def elementTokens? (rule : CharRule) : Nat → Nat → Text → Option (List Token × Text)
  | 0, _, _ => none
  | fuel + 1, depth, s => do
    let (tokens, rest) ← step? rule s
    let depth := depthAfter depth tokens
    if depth = 0 then some (tokens, rest)
    else
      let (others, rest) ← elementTokens? rule fuel depth rest
      some (tokens ++ others, rest)

/-- What follows comments, instructions and space, for a text of at most `fuel` of them. -/
def afterMiscellany? (rule : CharRule) : Nat → Text → Option Text
  | 0, _ => none
  | fuel + 1, s =>
    match s.dropWhile isSpace with
    | '<' :: '?' :: rest => afterInstruction? rule rest >>= afterMiscellany? rule fuel
    | '<' :: '!' :: '-' :: '-' :: rest => afterComment? rest >>= afterMiscellany? rule fuel
    | rest => some rest

/-- The declarations of a document type that a text begins with, if there is one, and what follows
it and the comments and instructions behind it. -/
def doctype? (rule : CharRule) (pieceSize : Option Nat) (standsAlone : Bool) (s : Text) :
    Option (Declarations × Text) :=
  match Text.after? "<!DOCTYPE".toList s with
  | none => some (.none, s)
  | some rest => do
    let (declarations, rest) ← Doctype.read? rule pieceSize standsAlone rest
    let rest ← afterMiscellany? rule (rest.length + 1) rest
    some (declarations, rest)

/-- The one element of a text behind its heading, as a forest. -/
def rootOfText? (rule : CharRule) (pieceSize : Option Nat) (standsAlone : Bool) (s : Text) :
    Option (Forest QName) := do
  let rest ← afterMiscellany? rule (s.length + 1) s
  let (declarations, rest) ← doctype? rule pieceSize standsAlone rest
  if rest.head? = some '<' then
    let (tokens, rest) ← elementTokens? rule rest.length 0 rest
    let rest ← afterMiscellany? rule (rest.length + 1) rest
    if rest = [] then
      let events ← declarations.events? tokens
      let raw ← rawForest? events
      let root ← expand? .initial raw
      match root with
      | .element name attributes children .nil => some (.element name attributes children .nil)
      | _ => none
    else none
  else none

/-! ## Bytes -/

/-- The one element of some bytes, as a forest. -/
def readDocument (bytes : Bytes) : Except DocumentFault (Forest QName) :=
  let (coding, bytes) := Coding.detect bytes
  match heading? (coding.decode bytes) with
  | none => .error .malformed
  | some (heading, length) => do
    let named ← match heading.encoding with
      | none => .ok coding
      | some name => coding.change name
    let rest := named.decode (bytes.drop (coding.width * length))
    (rootOfText? named.charRule named.pieceSize? heading.standsAlone rest).elim (.error .malformed)
      .ok

end Xml
end DocMarkup
