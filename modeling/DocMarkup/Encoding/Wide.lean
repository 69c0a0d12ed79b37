import DocMarkup.Encoding.Utf8

/-!
# UTF-16 and UTF-32

Texts in units of two or four bytes, the most or the least significant byte first. Without a given
order a text begins with a byte order mark, which is cut off.

Main definitions:

- {lit}`ByteOrder`: which byte of a unit comes first.
- {lit}`Utf16.units?`: the units of some bytes.
- {lit}`Utf16.decode?`, {lit}`Utf32.decode?`: the text of some bytes in a given order.
-/

namespace DocMarkup

/-- Which byte of a unit comes first. -/
inductive ByteOrder where
  | littleEndian
  | bigEndian
  deriving DecidableEq

/-- The number that some bytes are, the most significant first. -/
def numberOfBytes (bytes : Bytes) : Nat := bytes.foldl (fun n b => n * 256 + b.toNat) 0

/-- The number that the bytes of a unit are. -/
def ByteOrder.number (order : ByteOrder) (bytes : Bytes) : Nat :=
  match order with
  | littleEndian => numberOfBytes bytes.reverse
  | bigEndian => numberOfBytes bytes

namespace Utf16

/-- The units of some bytes; a byte that is left over makes them no text. -/
def units? (order : ByteOrder) : Bytes → Option (List Nat)
  | [] => some []
  | a :: b :: bytes => (order.number [a, b] :: ·) <$> units? order bytes
  | [_] => none

/-- The first unit of a pair. -/
def isHighHalf (n : Nat) : Bool := 0xD800 ≤ n && n < 0xDC00

/-- The second unit of a pair. -/
def isLowHalf (n : Nat) : Bool := 0xDC00 ≤ n && n < 0xE000

/-- The text of some units, in which every half is part of a pair. -/
def textOfUnits? : List Nat → Option Text
  | [] => some []
  | n :: rest =>
    if isLowHalf n then none
    else if isHighHalf n then
      match rest with
      | m :: rest =>
        if isLowHalf m then
          (Char.ofNat (0x10000 + (n - 0xD800) * 0x400 + (m - 0xDC00)) :: ·) <$> textOfUnits? rest
        else none
      | [] => none
    else (Char.ofNat n :: ·) <$> textOfUnits? rest

/-- The text of some bytes in a given order. -/
def decode? (order : ByteOrder) (bytes : Bytes) : Option Text := units? order bytes >>= textOfUnits?

/-- The order that a byte order mark shows, and what follows the mark. -/
def cutMark? : Bytes → Option (ByteOrder × Bytes)
  | 0xFF :: 0xFE :: bytes => some (.littleEndian, bytes)
  | 0xFE :: 0xFF :: bytes => some (.bigEndian, bytes)
  | _ => none

end Utf16

namespace Utf32

/-- A number that is a code point and no surrogate. -/
def isScalar (n : Nat) : Bool := n < 0xD800 || (0xE000 ≤ n && n ≤ 0x10FFFF)

/-- The text of some bytes in a given order. -/
def decode? (order : ByteOrder) : Bytes → Option Text
  | [] => some []
  | a :: b :: c :: d :: bytes =>
    let n := order.number [a, b, c, d]
    if isScalar n then (Char.ofNat n :: ·) <$> decode? order bytes else none
  | _ => none

/-- The order that a byte order mark shows, and what follows the mark. -/
def cutMark? : Bytes → Option (ByteOrder × Bytes)
  | 0xFF :: 0xFE :: 0 :: 0 :: bytes => some (.littleEndian, bytes)
  | 0 :: 0 :: 0xFE :: 0xFF :: bytes => some (.bigEndian, bytes)
  | _ => none

end Utf32
end DocMarkup
