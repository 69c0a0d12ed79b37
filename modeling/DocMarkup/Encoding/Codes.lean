import DocMarkup.Encoding.Charset

/-!
# Codes of one or more bytes

Where a code takes one byte or several ones, the first byte tells how many. A text is read code by
code.

Main definitions:

- {lit}`CodeReader`: what some bytes begin with.
- {lit}`CodeReader.decode?`: the text of some bytes.
- {lit}`CodeReader.pairs`: codes of two bytes beside ASCII.
- {lit}`Plane.raised`: a plane whose rows and cells are written with the highest bit.
-/

namespace DocMarkup

/-- What a byte and those behind it begin with: the text of one code, and what follows it. -/
abbrev CodeReader := UInt8 → Bytes → Option (Text × Bytes)

namespace CodeReader

/-- The text of at most `fuel` codes. -/
def decodeUpTo (read : CodeReader) : Nat → Bytes → Option Text
  | 0, _ => some []
  | _ + 1, [] => some []
  | fuel + 1, b :: bytes => do
    let (text, rest) ← read b bytes
    (text ++ ·) <$> decodeUpTo read fuel rest

/-- The text of some bytes. Every code takes a byte. -/
def decode? (read : CodeReader) (bytes : Bytes) : Option Text := read.decodeUpTo bytes.length bytes

/-- Codes of one byte below 0x80, which are those of ASCII, and others as a reader says. -/
def withAscii (read : CodeReader) : CodeReader := fun b bytes =>
  if b < 0x80 then some ([Char.ofNat b.toNat], bytes) else read b bytes

/-- A code of two bytes. -/
def pair (p : Plane) : CodeReader := fun a bytes =>
  match bytes with
  | b :: bytes => (p a.toNat b.toNat).map fun text => (text, bytes)
  | [] => none

/-- ASCII, and codes of two bytes. -/
def pairs (p : Plane) : CodeReader := withAscii (pair p)

end CodeReader

/-- A plane whose rows and cells are written with the highest bit. -/
def Plane.raised (p : Plane) : Plane := fun a b =>
  if 0x80 ≤ a ∧ 0x80 ≤ b then p (a - 0x80) (b - 0x80) else none

end DocMarkup
