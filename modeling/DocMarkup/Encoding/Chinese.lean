import DocMarkup.Encoding.Charset.Big5
import DocMarkup.Encoding.Charset.Big5More
import DocMarkup.Encoding.Charset.Gb18030
import DocMarkup.Encoding.Charset.Gb2312
import DocMarkup.Encoding.Charset.Gbk
import DocMarkup.Encoding.Codes

/-!
# Encodings of Chinese

The encodings of simplified Chinese go on from GB 2312, those of traditional Chinese from Big5.

Main definitions:

- {lit}`Chinese.gb2312`, {lit}`Chinese.gbk`, {lit}`Chinese.gb18030`: the simplified ones.
- {lit}`Chinese.big5`, {lit}`Chinese.windows950`, {lit}`Chinese.big5Hkscs`: the traditional ones.
- {lit}`Chinese.decodeHz?`: GB 2312 in seven bits.
-/

namespace DocMarkup
namespace Chinese

/-! ## Simplified Chinese -/

/-- GB 2312. -/
def plane : Plane := Charset.gb2312.plane

/-- GB 2312 with the highest bits. -/
def gb2312 : CodeReader := .pairs plane.raised

/-- The codes of two bytes of GBK. -/
def gbkPlane : Plane := Charset.gbk.plane.or plane.raised

/-- GBK. -/
def gbk : CodeReader := .pairs gbkPlane

/-- The codes of two bytes of GB 18030. -/
def gb18030Plane : Plane :=
  gbkPlane.or fun a b => (Charset.gb18030Pairs.char? (a * 256 + b)).map ([·])

/-- The character of a code of four bytes, which count in turns to 126 and to 10. The codes of the
basic plane come first, and those of the other planes after a gap. -/
def quad? (a b c d : Nat) : Option Char :=
  if 0x81 ≤ a ∧ a ≤ 0xFE ∧ 0x81 ≤ c ∧ c ≤ 0xFE ∧ 0x30 ≤ d ∧ d ≤ 0x39 then
    let number := (((a - 0x81) * 10 + (b - 0x30)) * 126 + (c - 0x81)) * 10 + (d - 0x30)
    let beyond := 15 * 10 * 126 * 10
    if number < beyond then Charset.gb18030Quads.char? number
    else CodeRuns.charOf? (0x10000 + (number - beyond))
  else none

/-- GB 18030. -/
def gb18030 : CodeReader :=
  .withAscii fun a bytes =>
    match bytes with
    | b :: rest =>
      if 0x30 ≤ b ∧ b ≤ 0x39 then
        match rest with
        | c :: d :: rest =>
          (quad? a.toNat b.toNat c.toNat d.toNat).map fun char => ([char], rest)
        | _ => none
      else CodeReader.pair gb18030Plane a bytes
    | [] => none

/-! ## Traditional Chinese -/

/-- Big5. -/
def big5 : CodeReader := .pairs Charset.big5.plane

/-- Windows-950. -/
def windows950 : CodeReader := .pairs (Charset.windows950.plane.or Charset.big5.plane)

/-- The codes of the supplement for Hong Kong that are a letter with an accent behind it. -/
def accented : List (Nat × String) :=
  [(0x8862, "Ê̄"), (0x8864, "Ê̌"), (0x88A3, "ê̄"), (0x88A5, "ê̌")]

/-- Big5 where the supplement for Hong Kong leaves it as it is. -/
def big5Plane : Plane := fun a b =>
  if a < 0xC6 ∨ 0xC8 < a ∨ (a = 0xC6 ∧ b < 0xA1) then Charset.big5.plane a b else none

/-- Big5 with the supplement for Hong Kong. -/
def big5Hkscs : CodeReader :=
  .pairs ((big5Plane.or Charset.hkscs.plane).or fun a b =>
    (accented.find? (·.1 = a * 256 + b)).map (·.2.toList))

/-! ## Seven bits -/

/-- The text of some bytes in which a tilde begins a mark: a brace for the beginning or the end of
codes of two bytes, another tilde for itself, a line feed for nothing. -/
def decodeHz? (inPairs : Bool) : Bytes → Option Text
  | [] => some []
  | 0x7E :: b :: bytes =>
    if inPairs then if b = 0x7D then decodeHz? false bytes else none
    else if b = 0x7E then ('~' :: ·) <$> decodeHz? false bytes
    else if b = 0x7B then decodeHz? true bytes
    else if b = 0x0A then decodeHz? false bytes
    else none
  | [a] => if inPairs || a == 0x7E || 0x80 ≤ a then none else some [Char.ofNat a.toNat]
  | a :: b :: bytes =>
    if 0x80 ≤ a then none
    else if inPairs then do
      let text ← plane a.toNat b.toNat
      (text ++ ·) <$> decodeHz? true bytes
    else (Char.ofNat a.toNat :: ·) <$> decodeHz? false (b :: bytes)

end Chinese
end DocMarkup
