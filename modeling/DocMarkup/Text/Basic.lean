/-!
# Text

A text is the list of its characters, so that every function on text is a function on lists and
its laws are laws of lists. String literals are spelled with {lit}`String.toList`.

Main definitions:

- {lit}`Text.after?`: what follows a given head.
- {lit}`Text.ofNat`: a number in decimal digits.
- {lit}`Text.lower`: the letters A to Z in lower case.
-/

namespace DocMarkup

/-- A text is the list of its characters. -/
abbrev Text := List Char

namespace Text

/-- What follows `head` in a text that begins with it. -/
def after? : Text → Text → Option Text
  | [], s => some s
  | _ :: _, [] => none
  | h :: head, c :: s => if h = c then after? head s else none

/-- A text begins with `head` exactly when it is `head` followed by the answer. -/
theorem after?_eq_some_iff {head s rest : Text} :
    after? head s = some rest ↔ s = head ++ rest := by
  induction head generalizing s with
  | nil => simp [after?]
  | cons h head ih =>
    cases s with
    | nil => simp [after?]
    | cons c s =>
      by_cases hc : h = c
      · simp [after?, hc, ih]
      · simp [after?, hc, Ne.symm hc]

/-- The decimal digits of a number. -/
def ofNat (n : Nat) : Text := Nat.toDigits 10 n

/-- The letters A to Z in lower case, every other character as it is. -/
def lower (s : Text) : Text := s.map Char.toLower

/-- The value of a run of digits, the most significant first. -/
def toNat (base : Nat) (digit : Char → Nat) (s : Text) : Nat :=
  s.foldl (fun n c => n * base + digit c) 0

/-- The value of a decimal or hexadecimal digit; other characters count nothing. -/
def digitValue (c : Char) : Nat :=
  if '0' ≤ c && c ≤ '9' then c.toNat - '0'.toNat
  else if 'a' ≤ c && c ≤ 'f' then c.toNat - 'a'.toNat + 10
  else if 'A' ≤ c && c ≤ 'F' then c.toNat - 'A'.toNat + 10
  else 0

/-- A decimal digit of ASCII. -/
def isDigit (c : Char) : Bool := '0' ≤ c && c ≤ '9'

/-- A hexadecimal digit of ASCII, in either case. -/
def isHexDigit (c : Char) : Bool :=
  isDigit c || ('a' ≤ c && c ≤ 'f') || ('A' ≤ c && c ≤ 'F')

/-- A letter of ASCII, in either case. -/
def isLetter (c : Char) : Bool := ('a' ≤ c && c ≤ 'z') || ('A' ≤ c && c ≤ 'Z')

end Text
end DocMarkup
