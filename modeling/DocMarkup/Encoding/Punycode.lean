import DocMarkup.Encoding.Fault
import DocMarkup.Encoding.Page

/-!
# Punycode

A text is written as its characters of ASCII, a hyphen, and numbers that say where the other
characters stand between these. A number that stands for a surrogate counts as damage, because no text
holds one.

Main definitions:

- {lit}`Punycode.digits?`: a number of variable length.
- {lit}`Punycode.decode`: the text of some bytes.
-/

namespace DocMarkup

/-- The characters of bytes of ASCII. -/
def asciiText (bytes : Bytes) : Except Encoding.Fault Text :=
  Encoding.orDamaged (Page.ascii.decode? bytes)

namespace Punycode

/-! ## Numbers -/

/-- The value of a digit: a letter of any case, or a digit behind the letters. -/
def digit? (c : Char) : Option Nat :=
  if Text.isLetter c then some (c.toLower.toNat - 'a'.toNat)
  else if Text.isDigit c then some (c.toNat - '0'.toNat + 26)
  else none

/-- The digit below which a number ends at a place. -/
def threshold (place bias : Nat) : Nat := min 26 (max 1 (36 * (place + 1) - bias))

/-- The number that a text begins with, from a place with a weight on, and what follows it. -/
def digits? (bias : Nat) : (place weight : Nat) → Text → Option (Nat × Text)
  | _, _, [] => none
  | place, weight, c :: rest => do
    let digit ← digit? c
    let limit := threshold place bias
    if digit < limit then some (digit * weight, rest)
    else
      let (higher, rest) ← digits? bias (place + 1) (weight * (36 - limit)) rest
      some (digit * weight + higher, rest)

/-- The bias of a difference, by dividing it down. -/
def divided : Nat → Nat → Nat → Nat
  | 0, divisions, delta => divisions + 36 * delta / (delta + 38)
  | fuel + 1, divisions, delta =>
    if delta ≤ 455 then divisions + 36 * delta / (delta + 38)
    else divided fuel (divisions + 36) (delta / 35)

/-- The bias behind a difference, which was the first one or not, in a text of some length. -/
def adapted (delta : Nat) (isFirst : Bool) (length : Nat) : Nat :=
  let delta := if isFirst then delta / 700 else delta / 2
  let delta := delta + delta / length
  divided (delta.log2 + 1) 0 delta

/-! ## Texts -/

/-- The text with the characters that numbers insert, for at most `fuel` of them. The next one has
at least the code point `point` and stands behind `place` characters or later. -/
def inserted : (fuel point place bias : Nat) → (isFirst : Bool) → Text → Text →
    Except Encoding.Fault Text
  | 0, _, _, _, _, text, _ => .ok text
  | _ + 1, _, _, _, _, text, [] => .ok text
  | fuel + 1, point, place, bias, isFirst, text, c :: rest =>
    match digits? bias 0 1 (c :: rest) with
    | none => .error .refused
    | some (delta, rest) =>
      let length := text.length + 1
      let place := place + delta
      let point := point + place / length
      let place := place % length
      if 0x10FFFF < point then .error .refused
      else
        match CodeRuns.charOf? point with
        | none => .error .damaged
        | some char =>
          inserted fuel point (place + 1) (adapted delta isFirst length) false
            (text.take place ++ char :: text.drop place) rest

/-- The text that is written as a text of ASCII. -/
def ofAscii (s : Text) : Except Encoding.Fault Text :=
  let digits := (s.reverse.takeWhile (· ≠ '-')).reverse
  let kept := s.take (s.length - digits.length - 1)
  inserted digits.length 0x80 0 72 true kept digits

/-- The text of some bytes. -/
def decode (bytes : Bytes) : Except Encoding.Fault Text := asciiText bytes >>= ofAscii

end Punycode
end DocMarkup
