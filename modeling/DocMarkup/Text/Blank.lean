import DocMarkup.Text.Basic

/-!
# Blank characters

A character is blank when it has the Unicode property White_Space or is one of the four
information separators U+001C to U+001F. Trimming, blank lines, indentation and the optional
space inside region markers all use this one class.

Main definitions:

- {lit}`Text.isBlank`: the class.
- {lit}`Text.trimStart`, {lit}`Text.trim`: a text without blanks at its ends.
-/

namespace DocMarkup
namespace Text

/-- The code point ranges of the blank characters. -/
def blankRanges : List (Nat × Nat) :=
  [(0x09, 0x0D), (0x1C, 0x20), (0x85, 0x85), (0xA0, 0xA0), (0x1680, 0x1680), (0x2000, 0x200A),
   (0x2028, 0x2029), (0x202F, 0x202F), (0x205F, 0x205F), (0x3000, 0x3000)]

/-- Whether a code point lies in one of the ranges. -/
def inRanges (ranges : List (Nat × Nat)) (n : Nat) : Bool :=
  ranges.any fun range => range.1 ≤ n && n ≤ range.2

/-- A blank character. -/
def isBlank (c : Char) : Bool := inRanges blankRanges c.toNat

/-- A text without the blanks it begins with. -/
def trimStart (s : Text) : Text := s.dropWhile isBlank

/-- A text without the blanks it ends with. -/
def trimEnd (s : Text) : Text := (s.reverse.dropWhile isBlank).reverse

/-- A text without the blanks at both ends. -/
def trim (s : Text) : Text := trimEnd (trimStart s)

/-- A line is blank when it holds no other characters. -/
def isBlankLine (line : Text) : Bool := line.all isBlank

/-- There are twenty-nine blank characters. -/
example : (blankRanges.map fun range => range.2 + 1 - range.1).sum = 29 := rfl

end Text
end DocMarkup
