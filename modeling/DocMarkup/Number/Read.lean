import DocMarkup.Number.Binary64
import DocMarkup.Text.Blank
import DocMarkup.Text.Decimal

/-!
# Numbers read from text

Integers and decimals as they may be written: with blanks around them, a sign, a mark for the base,
and the digits of any script.

Main definitions:

- {lit}`Number.integer?`: an integer in a base.
- {lit}`Number.decimal?`: a number of double precision.
- {lit}`Number.intText`: an integer as written.
-/

namespace DocMarkup
namespace Number

/-- An integer in decimal digits. -/
def intText (n : Int) : Text :=
  if n < 0 then '-' :: Text.ofNat n.natAbs else Text.ofNat n.natAbs

/-- Whether a text begins with a minus, and what follows a sign. -/
def cutSign : Text → Bool × Text
  | '-' :: rest => (true, rest)
  | '+' :: rest => (false, rest)
  | s => (false, s)

/-- An integer with the sign that was cut off. -/
def signed (negative : Bool) (n : Nat) : Int := if negative then -(n : Int) else n

/-- A text without the mark of its base, which is optional. -/
def withoutBaseMark (base : Nat) : Text → Text
  | '0' :: c :: rest =>
    let mark := c.toLower
    if (base = 16 ∧ mark = 'x') ∨ (base = 8 ∧ mark = 'o') ∨ (base = 2 ∧ mark = 'b') then rest
    else '0' :: c :: rest
  | s => s

/-- Whether a character is a digit of a base. -/
def isDigitOf (base : Nat) (c : Char) : Bool := Text.isHexDigit c && Text.digitValue c < base

/-- The greatest number of digits that a decimal integer may have. -/
def maxDigits : Nat := 4300

/-- The integer that a text is in a base. -/
def integer? (base : Nat) (s : Text) : Option Int :=
  let (negative, unsigned) := cutSign (Text.asciiDigits (Text.trim s))
  let digits := withoutBaseMark base unsigned
  if digits ≠ [] ∧ digits.all (isDigitOf base) ∧ (base = 10 → digits.length ≤ maxDigits) then
    some (signed negative (Text.toNat base Text.digitValue digits))
  else none

/-- The exponent at the end of a decimal; without one it is zero. -/
def exponent? : Text → Option Int
  | [] => some 0
  | 'e' :: rest =>
    let (negative, digits) := cutSign rest
    if digits ≠ [] ∧ digits.all Text.isDigit then
      some (signed negative (Text.toNat 10 Text.digitValue digits))
    else none
  | _ => none

/-- The number that an unsigned decimal in lower case is. -/
def unsignedDecimal? (negative : Bool) (s : Text) : Option Binary64 :=
  if s = "inf".toList ∨ s = "infinity".toList then some (.infinite negative)
  else if s = "nan".toList then some .nan
  else
    let whole := s.takeWhile Text.isDigit
    let rest := s.dropWhile Text.isDigit
    let (fraction, rest) : Text × Text :=
      match rest with
      | '.' :: after => (after.takeWhile Text.isDigit, after.dropWhile Text.isDigit)
      | _ => ([], rest)
    if whole = [] ∧ fraction = [] then none
    else (exponent? rest).map fun exponent =>
      .ofDecimal negative (Text.toNat 10 Text.digitValue (whole ++ fraction))
        (exponent - fraction.length)

/-- The number of double precision that a text is; the case of letters does not matter. -/
def decimal? (s : Text) : Option Binary64 :=
  let (negative, unsigned) := cutSign (Text.lower (Text.asciiDigits (Text.trim s)))
  unsignedDecimal? negative unsigned

end Number
end DocMarkup
