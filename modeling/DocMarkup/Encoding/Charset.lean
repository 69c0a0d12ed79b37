import DocMarkup.Encoding.Runs

/-!
# Character sets

The characters of a language are many more than a byte has values. A character set numbers them with
codes of two bytes.

Main definitions:

- {lit}`Charset`: the characters of a set.
- {lit}`Charset.char?`: the character of a code.
- {lit}`Plane`: what stands at a row and a cell.
- {lit}`Charset.plane`: the characters of a set by row and cell.
-/

namespace DocMarkup

/-- The characters of a set: runs of the first code and the characters from there on. U+FFFD stands
for a code without a character. -/
abbrev Charset := List (Nat × String)

/-- What stands at a row and a cell, the first byte and the second one of a code. -/
abbrev Plane := Nat → Nat → Option Text

namespace Charset

/-- What stands for a code without a character. -/
def gap : Char := Char.ofNat 0xFFFD

/-- No run is longer. -/
def maxRun : Nat := 84

/-- The character of a code in a run. -/
def runChar? (code first : Nat) (run : String) : Option Char :=
  if first ≤ code ∧ code < first + maxRun then run.toList[code - first]?.filter (· ≠ gap) else none

/-- The character of a code. -/
def char? (code : Nat) : Charset → Option Char
  | [] => none
  | (first, run) :: runs => (runChar? code first run).or (char? code runs)

/-- The characters of a set by row and cell. -/
def plane (s : Charset) : Plane := fun row cell => (char? (row * 256 + cell) s).map fun c => [c]

end Charset

namespace Plane

/-- What stands in the first of two planes, and otherwise in the second one. -/
def or (p q : Plane) : Plane := fun row cell => (p row cell).or (q row cell)

/-- A plane with something else at one place. -/
def replace (p : Plane) (row cell : Nat) (text : Option Text) : Plane := fun r c =>
  if r = row ∧ c = cell then text else p r c

end Plane
end DocMarkup
