import DocMarkup.Xml.Reference

/-!
# Tokens of markup declarations

Between its keyword and its closing bracket a markup declaration is a run of names, literals and
marks. White space separates them and means nothing else.

Main definitions:

- {lit}`Xml.DeclarationToken`: the tokens.
- {lit}`Xml.declarationToken?`: the token that a text begins with.
- {lit}`Xml.declarationTokens?`: the tokens up to a mark that ends them.
-/

namespace DocMarkup
namespace Xml

/-- What kind of name a run of name characters and colons is. -/
inductive NameForm where
  | plain
  | prefixed
  /-- A run that no element or attribute could have as its name. -/
  | token
  deriving DecidableEq

/-- A token of a markup declaration. Behind a name or a group may stand a mark of repetition. -/
inductive DeclarationToken where
  | name (form : NameForm) (s : Text) (isRepeated : Bool)
  | pound (s : Text)
  | literal (s : Text)
  | percent
  | openGroup
  | closeGroup (repetition : Option Char)
  | choice
  | sequence
  | openSubset
  | close
  deriving DecidableEq

/-- A mark of repetition. -/
def isRepetition (c : Char) : Bool := c == '+' || c == '*' || c == '?'

/-- The form of a run of name characters and colons. -/
def nameForm (rule : CharRule) (run : Text) : NameForm :=
  if !(run.head?.any rule.start) then .token
  else
    match run.dropWhile (· != ':') with
    | [] => .plain
    | [_] => .token
    | _ :: rest => if rest.contains ':' then .token else .prefixed

/-- What may follow a name in a declaration. -/
def endsName (c : Char) : Bool := isSpace c || ">),|[%".toList.contains c

/-- The name that a text begins with, and what follows it. -/
def nameToken? (rule : CharRule) (s : Text) : Option (DeclarationToken × Text) :=
  let isNamePart := fun c => rule.more c || c == ':'
  let run := s.takeWhile isNamePart
  let form := nameForm rule run
  if run = [] then none
  else
    match s.dropWhile isNamePart with
    | [] => none
    | c :: rest =>
      if endsName c then some (.name form run false, c :: rest)
      else if isRepetition c ∧ form ≠ .token then some (.name form run true, rest)
      else none

/-- The name behind a number sign, and what follows it. -/
def poundToken? (rule : CharRule) (s : Text) : Option (DeclarationToken × Text) := do
  let (name, rest) ← plainName? rule s
  if rest.head?.any fun c => isSpace c || ")>%|".toList.contains c then some (.pound name, rest)
  else none

/-- The literal behind a quote, and what follows it. -/
def literalToken? (quote : Char) (s : Text) : Option (DeclarationToken × Text) :=
  let content := s.takeWhile (· != quote)
  let rest := (s.dropWhile (· != quote)).drop 1
  if content.all isChar ∧ rest.head?.any fun c => isSpace c || ">%[".toList.contains c then
    some (.literal content, rest)
  else none

/-- The end of a group with its mark of repetition, and what follows it. -/
def closeGroupToken? : Text → Option (DeclarationToken × Text)
  | [] => none
  | c :: rest =>
    if isRepetition c then some (.closeGroup (some c), rest)
    else if isSpace c || ">,|)".toList.contains c then some (.closeGroup none, c :: rest)
    else none

/-- The token that a text begins with, and what follows it. A percent sign stands alone. -/
def declarationToken? (rule : CharRule) : Text → Option (DeclarationToken × Text)
  | [] => none
  | '"' :: rest => literalToken? '"' rest
  | '\'' :: rest => literalToken? '\'' rest
  | '#' :: rest => poundToken? rule rest
  | '%' :: rest => if rest.head?.any isSpace then some (.percent, rest) else none
  | '(' :: rest => some (.openGroup, rest)
  | ')' :: rest => closeGroupToken? rest
  | '|' :: rest => some (.choice, rest)
  | ',' :: rest => some (.sequence, rest)
  | '[' :: rest => some (.openSubset, rest)
  | '>' :: rest => some (.close, rest)
  | s => nameToken? rule s

/-- The tokens up to the first one that ends a declaration or opens a subset, that one, and what
follows it, for a text of at most `fuel` tokens. -/
def declarationTokensWithin? (rule : CharRule) :
    Nat → Text → Option (List DeclarationToken × DeclarationToken × Text)
  | 0, _ => none
  | fuel + 1, s => do
    let (token, rest) ← declarationToken? rule (s.dropWhile isSpace)
    if token = .close ∨ token = .openSubset then some ([], token, rest)
    else
      let (tokens, last, rest) ← declarationTokensWithin? rule fuel rest
      some (token :: tokens, last, rest)

/-- The tokens up to the first one that ends a declaration or opens a subset, that one, and what
follows it. Space must come first. -/
def declarationTokens? (rule : CharRule) (s : Text) :
    Option (List DeclarationToken × DeclarationToken × Text) :=
  if s.head?.any isSpace then declarationTokensWithin? rule s.length s else none

end Xml
end DocMarkup
