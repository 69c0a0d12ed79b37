import DocMarkup.Text.Basic

/-!
# UTF-8

Bytes are cut into segments, each of which encodes one character or none at all. A segment that
encodes none is as long as it could still have become a character, and at least one byte, so that
damaged bytes can be replaced one damage at a time.

Main definitions:

- {lit}`Utf8.segments`: the characters of some bytes, with a gap for every damage.
- {lit}`Utf8.decode?`: the text of undamaged bytes.
- {lit}`Utf8.decodeLossy`: the text with every damage replaced by U+FFFD.
-/

namespace DocMarkup

/-- The content of a file. -/
abbrev Bytes := List UInt8

namespace Utf8

/-- What the first byte of a character promises: how many bytes follow, its own bits, and the range
of the second byte. -/
structure Lead where
  more : Nat
  bits : Nat
  low : UInt8
  high : UInt8

/-- The promise of a byte beyond ASCII, if it can begin a character. The range of the second byte
leaves out overlong forms, surrogates and numbers beyond the last code point. -/
def lead? (b : UInt8) : Option Lead :=
  let n := b.toNat
  if n < 0xC2 then none
  else if n < 0xE0 then some ⟨1, n - 0xC0, 0x80, 0xBF⟩
  else if n < 0xF0 then
    some ⟨2, n - 0xE0, if n = 0xE0 then 0xA0 else 0x80, if n = 0xED then 0x9F else 0xBF⟩
  else if n < 0xF5 then
    some ⟨3, n - 0xF0, if n = 0xF0 then 0x90 else 0x80, if n = 0xF4 then 0x8F else 0xBF⟩
  else none

/-- The rest of a character of which `more` bytes are missing, the next one inside a range. -/
def continued : Nat → Nat → UInt8 → UInt8 → Bytes → Option Char × Bytes
  | 0, value, _, _, bytes => (some (Char.ofNat value), bytes)
  | _ + 1, _, _, _, [] => (none, [])
  | more + 1, value, low, high, b :: bytes =>
    if low ≤ b ∧ b ≤ high then continued more (value * 64 + b.toNat % 64) 0x80 0xBF bytes
    else (none, b :: bytes)

/-- The first segment of some bytes. -/
def segment (b : UInt8) (bytes : Bytes) : Option Char × Bytes :=
  if b < 0x80 then (some (Char.ofNat b.toNat), bytes)
  else
    match lead? b with
    | some l => continued l.more l.bits l.low l.high bytes
    | none => (none, bytes)

/-- The first `fuel` segments of some bytes. -/
def segmentsUpTo : Nat → Bytes → List (Option Char)
  | 0, _ => []
  | _ + 1, [] => []
  | fuel + 1, b :: bytes =>
    let (c, rest) := segment b bytes
    c :: segmentsUpTo fuel rest

/-- The characters of some bytes, with a gap for every damage. Every segment takes a byte. -/
def segments (bytes : Bytes) : List (Option Char) := segmentsUpTo bytes.length bytes

/-- The text of undamaged bytes. -/
def decode? (bytes : Bytes) : Option Text := (segments bytes).mapM id

/-- The text of some bytes with U+FFFD in the place of every damage. -/
def decodeLossy (bytes : Bytes) : Text :=
  (segments bytes).map fun c => c.getD (Char.ofNat 0xFFFD)

/-- The byte order mark. -/
def mark : Bytes := [0xEF, 0xBB, 0xBF]

/-- The text of undamaged bytes behind a byte order mark, if there is one. Bytes that end inside the
mark are an empty text. -/
def decodeMarked? (bytes : Bytes) : Option Text :=
  if bytes.isPrefixOf mark then some []
  else if mark.isPrefixOf bytes then decode? (bytes.drop 3)
  else decode? bytes

end Utf8
end DocMarkup
