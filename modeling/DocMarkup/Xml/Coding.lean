import DocMarkup.Assoc
import DocMarkup.Encoding.Name
import DocMarkup.Xml.Char

/-!
# Codings of documents

The bytes of a document are characters in a coding that the first bytes show and that the document
may name. Bytes that are no character in the coding become U+FFFF, which no document may hold.

Besides the codings that every reader knows there are the encodings in which every character is one
byte. Such a page must leave the characters of names, spaces and markup where ASCII has them.

Main definitions:

- {lit}`Xml.Coding`: the codings.
- {lit}`Xml.Coding.detect`: the coding that the first bytes show.
- {lit}`Xml.Coding.pageOf`: the page of an encoding.
- {lit}`Xml.Coding.change`: the coding that a document names.
- {lit}`Xml.Coding.decode`: the characters of some bytes.
-/

namespace DocMarkup
namespace Xml

/-- Why bytes are no document. -/
inductive DocumentFault where
  /-- The document is not well formed. -/
  | malformed
  /-- It names an encoding that is not known. -/
  | unknownEncoding
  /-- It names an encoding in which a character may take several bytes, other than the two that
  every reader knows. -/
  | multibyteEncoding
  /-- It names an encoding in which the bytes of a page are no text. -/
  | noPage (fault : Encoding.Fault)
  deriving DecidableEq

/-- A coding. -/
inductive Coding where
  | utf8
  | utf16 (order : ByteOrder)
  | latin1
  | ascii
  | page (p : Page)
  deriving DecidableEq

namespace Coding

/-- Which characters make names in documents of a coding. -/
def charRule : Coding → CharRule
  | utf8 | ascii | page _ => .standard
  | utf16 _ | latin1 => .withOrdinals

/-- How many bytes the characters of a coding take at least. -/
def width : Coding → Nat
  | utf16 _ => 2
  | utf8 | latin1 | ascii | page _ => 1

/-- How many bytes of UTF-8 a literal may fill before it is handed on in pieces. Bytes that are
UTF-8 already are handed on as they are. -/
def pieceSize? : Coding → Option Nat
  | utf8 | ascii => none
  | utf16 _ | latin1 | page _ => some 1024

/-! ## Characters -/

/-- What stands for bytes that are no character. -/
def gap : Char := Char.ofNat 0xFFFF

/-- The characters of units of sixteen bits. The first half of a pair takes the lowest ten bits of
whatever unit comes next. -/
def charsOfUnits : List Nat → Text
  | [] => []
  | n :: rest =>
    if Utf16.isLowHalf n then gap :: charsOfUnits rest
    else if Utf16.isHighHalf n then
      match rest with
      | m :: rest => Char.ofNat (0x10000 + (n - 0xD800) * 0x400 + m % 0x400) :: charsOfUnits rest
      | [] => [gap]
    else Char.ofNat n :: charsOfUnits rest

/-- The units of some bytes, with a lone half for a byte that is left over. -/
def unitsOf (order : ByteOrder) : Bytes → List Nat
  | [] => []
  | [_] => [0xDC00]
  | a :: b :: bytes => order.number [a, b] :: unitsOf order bytes

/-- The characters of some bytes on a page. -/
def decodePage (p : Page) (bytes : Bytes) : Text := bytes.map fun b => (p.char? b).getD gap

/-- The characters of some bytes. -/
def decode (coding : Coding) (bytes : Bytes) : Text :=
  match coding with
  | utf8 => (Utf8.segments bytes).map fun c => c.getD gap
  | utf16 order => charsOfUnits (unitsOf order bytes)
  | latin1 => decodePage Page.latin1 bytes
  | ascii => decodePage Page.ascii bytes
  | page p => decodePage p bytes

/-! ## Detection -/

/-- The coding that the first bytes show, and the bytes behind a byte order mark. -/
def detect : Bytes → Coding × Bytes
  | 0xFE :: 0xFF :: bytes => (.utf16 .bigEndian, bytes)
  | 0xFF :: 0xFE :: bytes => (.utf16 .littleEndian, bytes)
  | 0xEF :: 0xBB :: 0xBF :: bytes => (.utf8, bytes)
  | 0 :: b :: bytes => (.utf16 .bigEndian, 0 :: b :: bytes)
  | b :: 0 :: bytes => (.utf16 .littleEndian, b :: 0 :: bytes)
  | bytes => (.utf8, bytes)

/-! ## Pages -/

/-- A character that means nothing to a reader of markup: it is in no name, no space and no mark. -/
def isIdle (c : Char) : Bool :=
  0x80 ≤ c.toNat || "$@\\^`\x7b\x7d~\x7F".toList.contains c || (c < ' ' && !isSpace c)

/-- Whether a byte has the character of ASCII, or neither that one nor its own means anything. -/
def keepsAscii (p : Page) (b : UInt8) : Bool :=
  let own := Char.ofNat b.toNat
  match p.char? b with
  | some c => c == own || (isIdle c && isIdle own)
  | none => isIdle own

/-- Whether documents can be read in a page. -/
def isReadable (p : Page) : Bool := (List.range 256).all fun n => keepsAscii p (UInt8.ofNat n)

/-- The page of an encoding in which every character is one byte. Those that begin with ASCII and go
on with several bytes or with escapes are read as far as each byte is a character by itself. -/
def pageOf (e : Encoding) : Except DocumentFault Page :=
  match e with
  | .page p => .ok p
  | .utf8 | .utf8Marked => .ok Page.ascii
  | .hz => .ok [(0x7E, 0x110000, 1)]
  | .iso2022 v => if v.shifts then .error .multibyteEncoding else .ok Page.ascii
  | .escaped _ => .ok Page.latin1
  | .utf7 | .utf16 _ | .utf32 _ | .codes _ => .error .multibyteEncoding
  | .punycode => .error (.noPage .damaged)
  | .undefined => .error (.noPage .refused)

/-! ## Named codings -/

/-- The codings that every reader knows, by name in lower case. -/
def wellKnown : List (Text × Coding) :=
  [("iso-8859-1".toList, .latin1), ("us-ascii".toList, .ascii), ("utf-8".toList, .utf8),
   ("utf-16".toList, .utf16 .bigEndian), ("utf-16be".toList, .utf16 .bigEndian),
   ("utf-16le".toList, .utf16 .littleEndian)]

/-- The name of the encoding of domain names, which has no page. -/
def domainNames : Text := "idna".toList

/-- The coding of a document in some coding that names another one. Among the codings that every
reader knows the width of the units stays, and for units of sixteen bits the order; every other
coding is a page, whatever the units were. -/
def change (coding : Coding) (name : Text) : Except DocumentFault Coding :=
  match Assoc.get? (Text.lower name) wellKnown, coding with
  | some (.utf16 order), .utf16 current =>
    if order = current ∨ Text.lower name = "utf-16".toList then .ok coding else .error .malformed
  | some (.utf16 _), _ | some _, .utf16 _ => .error .malformed
  | some named, _ => .ok named
  | none, _ =>
    if Encoding.normalName name = domainNames then .error (.noPage .refused)
    else do
      let e ← (Encoding.named? name).elim (.error .unknownEncoding) .ok
      let page ← pageOf e
      if isReadable page then .ok (.page page) else .error .malformed

end Coding
end Xml
end DocMarkup
