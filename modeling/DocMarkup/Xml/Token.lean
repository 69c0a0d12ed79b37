import DocMarkup.Xml.Reference

/-!
# Tokens of content

Content is read from left to right, one construct at a time: a character, a reference, a section of
literal text, a tag, a comment or an instruction. Comments and instructions leave no token, an empty
element leaves two.

Main definitions:

- {lit}`Xml.Token`: what one construct contributes.
- {lit}`Xml.charTokens`: the tokens of characters that are read one by one.
- {lit}`Xml.step?`: the construct that a text begins with.
- {lit}`Xml.tokens?`: the tokens of a whole text.
-/

namespace DocMarkup
namespace Xml

/-- What one construct of content contributes. -/
inductive Token where
  | piece (p : Piece)
  | literal (run : Text)
  | startTag (name : Text) (attributes : List (Text × List Piece))
  | endTag (name : Text)
  deriving DecidableEq

/-- The tokens of characters that are read one by one. -/
def charTokens (run : Text) : List Token := run.map fun c => .piece (.char c)

/-! ## Comments, instructions and sections -/

/-- What follows a comment, given what follows its opening mark. -/
def afterComment? : Text → Option Text
  | '-' :: '-' :: rest =>
    match rest with
    | '>' :: after => some after
    | _ => none
  | c :: rest => if isChar c then afterComment? rest else none
  | [] => none

/-- What follows the closing mark of an instruction. -/
def afterInstructionBody? : Text → Option Text
  | '?' :: '>' :: rest => some rest
  | c :: rest => if isChar c then afterInstructionBody? rest else none
  | [] => none

/-- What follows an instruction, given what follows its opening mark. The target is a plain name
other than `xml` in any case. -/
def afterInstruction? (rule : CharRule) (s : Text) : Option Text := do
  let (target, rest) ← plainName? rule s
  if Text.lower target = "xml".toList then none
  else match rest with
    | '?' :: '>' :: after => some after
    | c :: after => if isSpace c then afterInstructionBody? after else none
    | [] => none

/-- The text of a literal section and what follows it, given what follows its opening mark. -/
def sectionBody? (rule : CharRule) : Text → Option (Text × Text)
  | ']' :: ']' :: '>' :: rest => some ([], rest)
  | '\r' :: '\n' :: rest =>
    (fun (run, after) => (rule.lineEnd ['\r', '\n'] ++ run, after)) <$> sectionBody? rule rest
  | c :: rest =>
    if c = '\r' then
      (fun (run, after) => (rule.lineEnd ['\r'] ++ run, after)) <$> sectionBody? rule rest
    else if isChar c then (fun (run, after) => (c :: run, after)) <$> sectionBody? rule rest
    else none
  | [] => none

/-! ## Tags -/

/-- The attributes of a start tag up to the mark that closes it. Each is preceded by space. -/
def attributes? (rule : CharRule) : Nat → Text → Option (List (Text × List Piece) × Text)
  | 0, _ => none
  | fuel + 1, s =>
    match s.dropWhile isSpace with
    | '>' :: rest => some ([], '>' :: rest)
    | '/' :: rest => some ([], '/' :: rest)
    | t =>
      if s.length = t.length then none
      else do
        let (name, rest) ← qualifiedName? rule t
        match rest.dropWhile isSpace with
        | '=' :: rest =>
          let (value, rest) ← quotedValue? rule (rest.dropWhile isSpace)
          let (others, rest) ← attributes? rule fuel rest
          some ((name, value) :: others, rest)
        | _ => none

/-- The tokens of a start tag and what follows it, given what follows its angle bracket. -/
def startTag? (rule : CharRule) (s : Text) : Option (List Token × Text) := do
  let (name, rest) ← qualifiedName? rule s
  let (attributes, rest) ← attributes? rule s.length rest
  match rest with
  | '>' :: after => some ([.startTag name attributes], after)
  | '/' :: '>' :: after => some ([.startTag name attributes, .endTag name], after)
  | _ => none

/-- The token of an end tag and what follows it, given what follows its opening mark. -/
def endTag? (rule : CharRule) (s : Text) : Option (List Token × Text) := do
  let (name, rest) ← qualifiedName? rule s
  match rest.dropWhile isSpace with
  | '>' :: after => some ([.endTag name], after)
  | _ => none

/-! ## Content -/

/-- The tokens of the construct that a text begins with, and what follows it. -/
def step? (rule : CharRule) : Text → Option (List Token × Text)
  | [] => none
  | '<' :: '/' :: rest => endTag? rule rest
  | '<' :: '!' :: rest =>
    match rest with
    | '-' :: '-' :: rest => (fun after => ([], after)) <$> afterComment? rest
    | '[' :: 'C' :: 'D' :: 'A' :: 'T' :: 'A' :: '[' :: rest =>
      (fun (run, after) => ([.literal run], after)) <$> sectionBody? rule rest
    | _ => none
  | '<' :: '?' :: rest => (fun after => ([], after)) <$> afterInstruction? rule rest
  | '<' :: rest => startTag? rule rest
  | '&' :: rest =>
    match rest.dropWhile (· != ';') with
    | [] => none
    | _ :: after => do
      let piece ← reference? rule (rest.takeWhile (· != ';'))
      some ([.piece piece], after)
  | ']' :: ']' :: '>' :: _ => none
  | '\r' :: '\n' :: rest => some (charTokens (rule.lineEnd ['\r', '\n']), rest)
  | c :: rest =>
    if c = '\r' then some (charTokens (rule.lineEnd ['\r']), rest)
    else if isChar c then some ([.piece (.char c)], rest)
    else none

/-- The tokens of a text in at most `fuel` constructs. -/
def tokensWithin? (rule : CharRule) : Nat → Text → Option (List Token)
  | _, [] => some []
  | 0, _ :: _ => none
  | fuel + 1, c :: rest => do
    let (tokens, after) ← step? rule (c :: rest)
    (tokens ++ ·) <$> tokensWithin? rule fuel after

/-- The tokens of a text. Every construct takes a character, so the length of the text is enough. -/
def tokens? (rule : CharRule) (s : Text) : Option (List Token) := tokensWithin? rule s.length s

end Xml
end DocMarkup
