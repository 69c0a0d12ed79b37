import DocMarkup.Encoding.Escaped
import DocMarkup.Encoding.Iso2022
import DocMarkup.Encoding.Punycode
import DocMarkup.Encoding.Utf7
import DocMarkup.Encoding.Wide

/-!
# Encodings

An encoding tells which text some bytes are. A text is made of characters, so bytes that stand for a
lone surrogate count as damaged. The encoding of domain names is left out, because it prepares names by
tables of their characters.

Main definitions:

- {lit}`Encoding.Decoder`, {lit}`Encoding.Codecs`: what reads bytes, and what names stand for.
- {lit}`Encoding`: the encodings.
- {lit}`Encoding.decode`: the text of some bytes.
-/

namespace DocMarkup

/-- An encoding. The constructor {lit}`codes` stands for those in which every code is read by
itself, and {lit}`undefined` for the one that has no texts. -/
inductive Encoding where
  | utf8
  | utf8Marked
  | utf7
  | utf16 (order : Option ByteOrder)
  | utf32 (order : Option ByteOrder)
  | page (p : Page)
  | codes (read : CodeReader)
  | iso2022 (v : Iso2022)
  | hz
  | escaped (codePointsOnly : Bool)
  | punycode
  | undefined

namespace Encoding

/-- What reads the bytes of an encoding. -/
abbrev Decoder := Bytes → Except Fault Text

/-- What the names of encodings stand for. -/
abbrev Codecs := Text → Option Decoder

/-- The text of bytes in units of some width. Without an order there must be a mark, unless there
is nothing to decode; bytes that would be no text even so count as damaged. -/
def decodeWide (order : Option ByteOrder) (cutMark? : Bytes → Option (ByteOrder × Bytes))
    (decode? : ByteOrder → Bytes → Option Text) (bytes : Bytes) : Except Fault Text :=
  match order with
  | some order => orDamaged (decode? order bytes)
  | none =>
    match cutMark? bytes with
    | some (order, bytes) => orDamaged (decode? order bytes)
    | none =>
      match decode? .littleEndian bytes with
      | none => .error .damaged
      | some [] => .ok []
      | some _ => .error .orderUnknown

/-- The text of some bytes. -/
def decode (e : Encoding) (bytes : Bytes) : Except Fault Text :=
  match e with
  | utf8 => orDamaged (Utf8.decode? bytes)
  | utf8Marked => orDamaged (Utf8.decodeMarked? bytes)
  | utf7 => orDamaged (Utf7.decode? bytes)
  | utf16 order => decodeWide order Utf16.cutMark? Utf16.decode? bytes
  | utf32 order => decodeWide order Utf32.cutMark? Utf32.decode? bytes
  | page p => orDamaged (p.decode? bytes)
  | codes read => orDamaged (read.decode? bytes)
  | iso2022 v => v.decode bytes
  | hz => orDamaged (Chinese.decodeHz? false bytes)
  | escaped true => orDamaged (Escaped.decodeRaw? bytes)
  | escaped false => orDamaged (Escaped.decode? bytes)
  | punycode => Punycode.decode bytes
  | undefined => .error .refused

end Encoding
end DocMarkup
