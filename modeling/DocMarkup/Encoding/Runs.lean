import DocMarkup.Encoding.Utf8

/-!
# Runs of codes

A run gives characters that follow one another to codes that follow one another.

Main definitions:

- {lit}`CodeRuns`: some runs.
- {lit}`CodeRuns.char?`: the character of a code.
-/

namespace DocMarkup

/-- Runs of codes: the first code, its code point, and a length. The codes of a run beyond the last
code point have no character. -/
abbrev CodeRuns := List (Nat × Nat × Nat)

namespace CodeRuns

/-- The code point of a code. -/
def codePoint? (code : Nat) : CodeRuns → Option Nat
  | [] => none
  | (first, point, length) :: runs =>
    if first ≤ code ∧ code < first + length then some (point + (code - first))
    else codePoint? code runs

/-- The character with a code point. -/
def charOf? (point : Nat) : Option Char :=
  if point.isValidChar then some (Char.ofNat point) else none

/-- The character of a code. -/
def char? (runs : CodeRuns) (code : Nat) : Option Char := (codePoint? code runs).bind charOf?

end CodeRuns
end DocMarkup
