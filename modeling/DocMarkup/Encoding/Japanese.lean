import DocMarkup.Encoding.Charset.Jisx0208
import DocMarkup.Encoding.Charset.Jisx0212
import DocMarkup.Encoding.Charset.Jisx0213
import DocMarkup.Encoding.Charset.Windows932
import DocMarkup.Encoding.Codes
import DocMarkup.Encoding.Page

/-!
# Encodings of Japanese

The planes of JIS are written either with the highest bit of both bytes, or shifted: two rows to one
first byte, so that the bytes between are free for the half-width syllables.

Main definitions:

- {lit}`Japanese.plane0208`, {lit}`Japanese.plane0212`, {lit}`Japanese.plane0213`: the planes.
- {lit}`Japanese.raised`: planes written with the highest bit.
- {lit}`Japanese.shifted`: planes written in shifted rows.
- {lit}`Japanese.windows932`: the shifted rows with the additions of Windows-932.
-/

namespace DocMarkup
namespace Japanese

/-! ## Planes -/

/-- JIS X 0208. -/
def plane0208 : Plane := Charset.jisx0208.plane

/-- JIS X 0212. -/
def plane0212 : Plane := Charset.jisx0212.plane

/-- The editions of JIS X 0213. The second one has ten more characters. -/
inductive Edition where
  | of2000
  | of2004
  deriving DecidableEq

/-- The codes of the first plane that are two characters: the mark of nasals behind syllables,
accents behind phonetic letters, and two contours of tone. -/
def joined : List (Nat × String) :=
  [(0x2477, "か゚"), (0x2478, "き゚"), (0x2479, "く゚"), (0x247A, "け゚"), (0x247B, "こ゚"), (0x2577, "カ゚"),
   (0x2578, "キ゚"), (0x2579, "ク゚"), (0x257A, "ケ゚"), (0x257B, "コ゚"), (0x257C, "セ゚"), (0x257D, "ツ゚"),
   (0x257E, "ト゚"), (0x2678, "ㇷ゚"), (0x2B44, "æ̀"), (0x2B48, "ɔ̀"), (0x2B49, "ɔ́"), (0x2B4A, "ʌ̀"),
   (0x2B4B, "ʌ́"), (0x2B4C, "ə̀"), (0x2B4D, "ə́"), (0x2B4E, "ɚ̀"), (0x2B4F, "ɚ́"), (0x2B65, "˩˥"),
   (0x2B66, "˥˩")]

/-- The codes of the ten characters that the first edition does not have. -/
def newIn2004 : List Nat :=
  [0x2E21, 0x2F7E, 0x4F54, 0x4F7E, 0x7427, 0x7E7A, 0x7E7B, 0x7E7C, 0x7E7D, 0x7E7E]

/-- The first plane of JIS X 0213. -/
def plane0213 (e : Edition) : Plane := fun row cell =>
  if e = .of2000 ∧ newIn2004.contains (row * 256 + cell) then none
  else
    (plane0208.or Charset.jisx0213Plane1.plane row cell).or
      ((joined.find? (·.1 = row * 256 + cell)).map (·.2.toList))

/-- The second plane of JIS X 0213. -/
def plane0213Second : Plane := Charset.jisx0213Plane2.plane

/-- The second plane as the encodings without escapes write it; the first edition has another form
of one character. -/
def plane0213SecondOf (e : Edition) : Plane :=
  if e = .of2000 then plane0213Second.replace 0x7D 0x3B (some [Char.ofNat 0x9B1D])
  else plane0213Second

/-! ## Syllables of half width -/

/-- The character of half width that a byte is. -/
def halfWidth? (b : Nat) : Option Text :=
  if 0xA1 ≤ b ∧ b ≤ 0xDF then some [Char.ofNat (0xFF61 + (b - 0xA1))] else none

/-! ## Highest bits -/

/-- ASCII, a plane in two bytes with the highest bit, and behind one more byte the syllables of half
width and another plane. -/
def raised (first second : Plane) : CodeReader :=
  .withAscii fun a bytes =>
    if a = 0x8E then
      match bytes with
      | b :: bytes => (halfWidth? b.toNat).map fun text => (text, bytes)
      | [] => none
    else if a = 0x8F then
      match bytes with
      | b :: bytes => CodeReader.pair second.raised b bytes
      | [] => none
    else CodeReader.pair first.raised a bytes

/-- EUC-JP. -/
def eucJp : CodeReader := raised plane0208 plane0212

/-- EUC with the planes of JIS X 0213, and JIS X 0212 beside the second one. -/
def euc0213 (e : Edition) : CodeReader :=
  raised ((plane0213 e).replace 0x22 0x32 (some [Char.ofNat 0xFF5E]))
    ((plane0213SecondOf e).or plane0212)

/-! ## Shifted rows -/

/-- The row, counted from zero, and the cell that two bytes mean when two rows share a first
byte. -/
def place? (a b : Nat) : Option (Nat × Nat) :=
  if ((0x81 ≤ a ∧ a ≤ 0x9F) ∨ (0xE0 ≤ a ∧ a ≤ 0xFC)) ∧ 0x40 ≤ b ∧ b ≠ 0x7F ∧ b ≤ 0xFC then
    let pair := if a < 0xE0 then a - 0x81 else a - 0xC1
    let cell := if b < 0x80 then b - 0x40 else b - 0x41
    if cell < 0x5E then some (2 * pair, cell + 0x21) else some (2 * pair + 1, cell - 0x5E + 0x21)
  else none

/-- The row of the second plane for a shifted row behind the first one, which has 94 of them. The
second plane has no characters in most of its first rows, which are left out. -/
def secondRow (row : Nat) : Nat :=
  if 0x67 ≤ row then row + 0x07
  else if 0x63 ≤ row ∨ row = 0x5F then row - 0x37
  else row - 0x3D

/-- Two planes in shifted rows. -/
def shiftedPlane (first second : Plane) : Plane := fun a b =>
  (place? a b).bind fun (row, cell) =>
    if row < 0x5E then first (row + 0x21) cell else second (secondRow row) cell

/-- Two planes in shifted rows, the syllables of half width in one byte, and ASCII with a page over
it. -/
def shifted (single : Page) (first second : Plane) : CodeReader := fun a bytes =>
  if a < 0x80 then (single.char? a).map fun c => ([c], bytes)
  else
    match halfWidth? a.toNat with
    | some text => some (text, bytes)
    | none => CodeReader.pair (shiftedPlane first second) a bytes

/-- Shift JIS. -/
def shiftJis : CodeReader := shifted .ascii plane0208 fun _ _ => none

/-- The two characters that the Roman set of JIS has in the place of others. -/
def roman : Page := [(0x5C, 0xA5, 1), (0x7E, 0x203E, 1)]

/-- Shift JIS with the planes of JIS X 0213. -/
def shift0213 (e : Edition) : CodeReader :=
  shifted roman ((plane0213 e).replace 0x21 0x40 (some ['\\'])) (plane0213SecondOf e)

/-! ## Windows-932 -/

/-- The character for private use that two bytes are. -/
def private? (a b : Nat) : Option Text :=
  if 0xF0 ≤ a ∧ a ≤ 0xF9 ∧ 0x40 ≤ b ∧ b ≠ 0x7F ∧ b ≤ 0xFC then
    some [Char.ofNat (0xE000 + 188 * (a - 0xF0) + (if b < 0x80 then b - 0x40 else b - 0x41))]
  else none

/-- The bytes of Windows-932 that are no character of Shift JIS. -/
def windowsSingle : Page := [(0x80, 0x80, 1), (0xA0, 0xF8F0, 1), (0xFD, 0xF8F1, 3)]

/-- Windows-932. -/
def windows932 : CodeReader := fun a bytes =>
  match windowsSingle.char? a with
  | some c => some ([c], bytes)
  | none =>
    match halfWidth? a.toNat with
    | some text => some (text, bytes)
    | none =>
      CodeReader.pair
        ((Charset.windows932.plane.or (shiftedPlane plane0208 fun _ _ => none)).or private?) a bytes

end Japanese
end DocMarkup
