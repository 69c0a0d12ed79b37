import DocMarkup.Calendar
import DocMarkup.Number.Read

/-!
# Spellings of moments

A day is spelled with its year, month and day, a moment with the time of day behind it and the
distance from universal time, which may be left out. One line feed may stand at the end.

Main definitions:

- {lit}`Yaml.Moment`: a day or a moment.
- {lit}`Yaml.moment?`: what a text is spelled as.
- {lit}`Yaml.isMomentSpelling`: whether a plain scalar is spelled as one.
-/

namespace DocMarkup
namespace Yaml

/-- A text without the line feed at its end, if it has one. -/
def withoutLineEnd (s : Text) : Text := if s.getLast? = some '\n' then s.dropLast else s

/-- A day or a moment. -/
inductive Moment where
  | day (d : Date)
  | time (t : DateTime)

/-- The one or two digits that a text begins with, and what follows them. -/
def oneOrTwoDigits? (s : Text) : Option (Nat × Text) :=
  match s with
  | a :: b :: rest =>
    if Text.isDigit a then
      if Text.isDigit b then some (Text.toNat 10 Text.digitValue [a, b], rest)
      else some (Text.digitValue a, b :: rest)
    else none
  | [a] => if Text.isDigit a then some (Text.digitValue a, []) else none
  | [] => none

/-- The given number of digits that a text begins with, and what follows them. -/
def digits? (width : Nat) (s : Text) : Option (Nat × Text) :=
  let digits := s.take width
  if digits.length = width ∧ digits.all Text.isDigit then
    some (Text.toNat 10 Text.digitValue digits, s.drop width)
  else none

/-- What follows a character that a text begins with. -/
def afterChar? (c : Char) : Text → Option Text
  | [] => none
  | d :: rest => if c = d then some rest else none

/-- The distance from universal time at the end of a moment, in minutes. -/
def zone? (s : Text) : Option (Option Int) :=
  match s.dropWhile fun c => c == ' ' || c == '\t' with
  | [] => if s = [] then some none else none
  | ['Z'] => some (some 0)
  | sign :: rest =>
    if sign = '-' ∨ sign = '+' then do
      let (hours, rest) ← oneOrTwoDigits? rest
      let minutes ← match rest with
        | [] => some 0
        | ':' :: rest => (digits? 2 rest).bind fun (m, rest) => if rest = [] then some m else none
        | _ => none
      let distance : Int := hours * 60 + minutes
      some (some (if sign = '-' then -distance else distance))
    else none

/-- The microseconds of a fraction of a second, of which six digits count. -/
def microseconds (digits : Text) : Nat :=
  Text.toNat 10 Text.digitValue ((digits ++ List.replicate 6 '0').take 6)

/-- What is written between day and time. -/
def afterDay? (s : Text) : Option Text :=
  match s with
  | 'T' :: rest | 't' :: rest => some rest
  | c :: _ =>
    if c = ' ' ∨ c = '\t' then some (s.dropWhile fun c => c == ' ' || c == '\t') else none
  | [] => none

/-- The time of day that a text is. -/
def timeOf? (day : Date) (s : Text) : Option DateTime := do
  let (hour, rest) ← oneOrTwoDigits? s
  let (minute, rest) ← (afterChar? ':' rest).bind (digits? 2)
  let (second, rest) ← (afterChar? ':' rest).bind (digits? 2)
  let (fraction, rest) : Text × Text := match rest with
    | '.' :: rest => (rest.takeWhile Text.isDigit, rest.dropWhile Text.isDigit)
    | _ => ([], rest)
  let offset ← zone? rest
  some ⟨day, hour, minute, second, microseconds fraction, offset⟩

/-- The day or moment that a text without a line feed at its end is spelled as, whether it exists or
not. -/
def momentOfLine? (s : Text) : Option Moment := do
  let (year, rest) ← digits? 4 s
  let (month, rest) ← (afterChar? '-' rest).bind oneOrTwoDigits?
  let (day, rest) ← (afterChar? '-' rest).bind oneOrTwoDigits?
  let date : Date := ⟨year, month, day⟩
  if rest = [] then some (.day date)
  else (afterDay? rest).bind fun rest => (timeOf? date rest).map .time

/-- The day or moment that a text is spelled as. -/
def moment? (s : Text) : Option Moment := momentOfLine? (withoutLineEnd s)

/-- Whether a plain scalar without a line feed at its end is spelled as a moment; a day has two
digits for month and day. -/
def isMomentSpelling (s : Text) : Bool :=
  match momentOfLine? s with
  | some (.day _) => s.length == 10
  | some (.time _) => true
  | none => false

end Yaml
end DocMarkup
