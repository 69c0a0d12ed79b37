import DocMarkup.Yaml.Kind
import DocMarkup.Yaml.Moment

/-!
# Spellings

Without a written tag a plain scalar is null, a truth value, a number or a moment when it is spelled
as one, and text otherwise.

Main definitions:

- {lit}`Yaml.isTruthWord`, {lit}`Yaml.isIntSpelling`, {lit}`Yaml.isFloatSpelling`: the spellings.
- {lit}`Yaml.implicitKind`: the kind of a plain scalar.
-/

namespace DocMarkup
namespace Yaml

/-- The spellings of null. -/
def nullWords : List Text :=
  [[], ['~'], "null".toList, "Null".toList, "NULL".toList]

/-- The truth value of each word, in lower case. -/
def truthWords : List (Text × Bool) :=
  [("yes".toList, true), ("no".toList, false), ("true".toList, true), ("false".toList, false),
   ("on".toList, true), ("off".toList, false)]

/-- A word in one case, or with a capital at its head. -/
def isCasedWord (s : Text) : Bool :=
  match s with
  | [] => false
  | c :: rest =>
    s == Text.lower s || s == s.map Char.toUpper || s == c.toUpper :: Text.lower rest

/-- Whether a plain scalar is spelled as a truth value. -/
def isTruthWord (s : Text) : Bool :=
  (Assoc.get? (Text.lower s) truthWords).isSome && isCasedWord s

/-- Whether a text is not empty and made of one class of characters. -/
def isRun (p : Char → Bool) (s : Text) : Bool := !s.isEmpty && s.all p

/-- A digit or an underscore. -/
def isSpacedDigit (c : Char) : Bool := Text.isDigit c || c == '_'

/-- Whether a text is a number of minutes or seconds: a digit, or two of which the first is at most
5. -/
def isSixtieth : Text → Bool
  | [a] => Text.isDigit a
  | [a, b] => '0' ≤ a && a ≤ '5' && Text.isDigit b
  | _ => false

/-- A text cut at its colons. -/
def cutAtColons (s : Text) : List Text :=
  match s with
  | [] => [[]]
  | c :: rest =>
    match cutAtColons rest with
    | [] => [[c]]
    | part :: parts => if c = ':' then [] :: part :: parts else (c :: part) :: parts

/-- Whether a text begins with a digit and goes on with digits and underscores. -/
def isSpacedNumber : Text → Bool
  | [] => false
  | c :: rest => Text.isDigit c && rest.all isSpacedDigit

/-- Whether a plain scalar is spelled as an integer. -/
def isIntSpelling (s : Text) : Bool :=
  match (Number.cutSign s).2 with
  | ['0'] => true
  | '0' :: 'b' :: rest => isRun (fun c => c == '0' || c == '1' || c == '_') rest
  | '0' :: 'x' :: rest => isRun (fun c => Text.isHexDigit c || c == '_') rest
  | '0' :: rest => isRun (fun c => ('0' ≤ c && c ≤ '7') || c == '_') rest
  | unsigned =>
    match cutAtColons unsigned with
    | first :: parts => isSpacedNumber first && parts.all isSixtieth
    | [] => false

/-- Whether a text is the end of a decimal behind its point: digits, and an exponent with a sign. -/
def isFraction (s : Text) : Bool :=
  match s.dropWhile isSpacedDigit with
  | [] => true
  | e :: sign :: digits =>
    (e == 'e' || e == 'E') && (sign == '-' || sign == '+') && isRun Text.isDigit digits
  | _ => false

/-- Whether a plain scalar is spelled as a floating-point number. -/
def isFloatSpelling (s : Text) : Bool :=
  let unsigned := (Number.cutSign s).2
  match unsigned.dropWhile (· != '.') with
  | [] => false
  | _ :: fraction =>
    let whole := unsigned.takeWhile (· != '.')
    if whole = [] then
      [".inf".toList, ".Inf".toList, ".INF".toList].contains unsigned ||
        [".nan".toList, ".NaN".toList, ".NAN".toList].contains s ||
        (s.head? == some '.' && fraction.head?.any Text.isDigit && isFraction fraction)
    else
      match cutAtColons whole with
      | [first] => isSpacedNumber first && isFraction fraction
      | first :: parts =>
        isSpacedNumber first && parts.all isSixtieth && fraction.all isSpacedDigit
      | [] => false

/-! ## Kinds -/

/-- The marks of nodes, which stand for nothing by themselves. -/
def nodeMarks : List Text := [['!'], ['&'], ['*']]

/-- The kind of a plain scalar without a tag and without a line feed at its end. -/
def kindOfLine (s : Text) : Kind :=
  if nullWords.contains s then .null
  else if isTruthWord s then .bool
  else if isFloatSpelling s then .float
  else if isIntSpelling s then .int
  else if s = "<<".toList then .merge
  else if isMomentSpelling s then .moment
  else if s = ['='] then .defaultValue
  else if nodeMarks.contains s then .unknown
  else .str

/-- The kind of a plain scalar without a tag. A line feed at its end does not count, unless it is
all there is. -/
def implicitKind (s : Text) : Kind := if s = ['\n'] then .str else kindOfLine (withoutLineEnd s)

end Yaml
end DocMarkup
