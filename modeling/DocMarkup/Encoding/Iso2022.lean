import DocMarkup.Encoding.Chinese
import DocMarkup.Encoding.Fault
import DocMarkup.Encoding.Japanese
import DocMarkup.Encoding.Korean
import DocMarkup.Encoding.Page.Iso8859

/-!
# ISO 2022

In seven bits a text changes between character sets. An escape sequence designates a set: as the one
that bytes are read in, as the one that they are read in between shifts, or as the one that a single
byte behind another escape is read in.

Main definitions:

- {lit}`Iso2022.CodedSet`: the sets.
- {lit}`Iso2022`: which sets a variant knows by which final bytes, and what else it allows.
- {lit}`Iso2022.Shift`: the sets that are designated at a place.
- {lit}`Iso2022.decode`: the text of some bytes.
-/

namespace DocMarkup

open Encoding (Fault orDamaged)

namespace Iso2022

/-- A character set of one byte or of two. The sets {lit}`upperLatin` and {lit}`upperGreek` are for
single bytes behind an escape only. -/
inductive CodedSet where
  | ascii
  | roman
  | halfWidth
  | upperLatin
  | upperGreek
  | pairs (p : Plane)

/-- A set with what designates it: whether its codes take two bytes, and the final byte. -/
structure Designator where
  isPair : Bool
  final : Char
  set : CodedSet

end Iso2022

/-- A variant: the sets that it knows beside ASCII, whether it shifts, whether single bytes may be
read in a third set, and whether a revision may be announced in front of JIS X 0208. -/
structure Iso2022 where
  designators : List Iso2022.Designator
  shifts : Bool
  hasThird : Bool
  announces : Bool

namespace Iso2022

/-! ## Sets -/

/-- The upper half of ISO 8859-7 as it was before three characters were added. -/
def upperGreek? (b : UInt8) : Option Char :=
  if b = 0x24 ∨ b = 0x25 ∨ b = 0x2A then none else Page.iso8859Part7.char? (b + 0x80)

/-- The character that a single byte behind an escape is in a set. With the highest bit it is one of
the lower half of the Greek set. -/
def thirdChar (set : CodedSet) (b : UInt8) : Except Fault Char :=
  match set with
  | .ascii => orDamaged (if b < 0x80 then some (Char.ofNat b.toNat) else none)
  | .upperLatin => orDamaged (if b < 0x80 then some (Char.ofNat (b.toNat + 0x80)) else none)
  | .upperGreek =>
    orDamaged (if b < 0x80 then upperGreek? b else some (Char.ofNat (b.toNat - 0x80)))
  | .roman | .halfWidth | .pairs _ => .error .misplacedSet

/-- The text of the code that a byte without the highest bit begins in a set, and what follows. -/
def readIn (set : CodedSet) (b : UInt8) (bytes : Bytes) : Option (Text × Bytes) :=
  match set with
  | .ascii => some ([Char.ofNat b.toNat], bytes)
  | .roman => (Japanese.roman.char? b).map fun c => ([c], bytes)
  | .halfWidth => (Japanese.halfWidth? (b.toNat + 0x80)).map fun text => (text, bytes)
  | .pairs p => CodeReader.pair p b bytes
  | .upperLatin | .upperGreek => none

/-! ## Escape sequences -/

/-- The sets that are designated at a place, whether the second one is in use, and whether an
unknown escape sequence goes on there. -/
structure Shift where
  first : CodedSet
  second : CodedSet
  third : CodedSet
  isSecond : Bool
  inEscape : Bool

/-- What holds at the beginning of a text. -/
def Shift.start : Shift := ⟨.ascii, .ascii, .ascii, false, false⟩

/-- A byte that ends an escape sequence. -/
def isFinal (b : UInt8) : Bool := (0x41 ≤ b && b ≤ 0x5A) || b == 0x40

/-- The byte that begins an escape sequence. -/
def escape : UInt8 := 0x1B

/-- A set designated by the byte in front of its final one. -/
def designate (s : Shift) (slot : Char) (set : CodedSet) : Option Shift :=
  match slot with
  | '(' => some { s with first := set }
  | ')' => some { s with second := set }
  | '.' => some { s with third := set }
  | _ => none

/-- The set of a final byte. -/
def setOf? (v : Iso2022) (isPair : Bool) (final : UInt8) : Option CodedSet :=
  if !isPair && final == 0x42 then some .ascii
  else
    (v.designators.find? fun d => d.isPair == isPair && d.final.toNat == final.toNat).map (·.set)

/-- The shift behind an escape sequence, whose bytes behind the escape are given. What is announced
does not matter. -/
def designated? (v : Iso2022) (s : Shift) : Bytes → Option Shift
  | [0x24, final] => do designate s '(' (← v.setOf? true final)
  | [slot, final] =>
    if slot = 0x2E && !v.hasThird then none
    else do designate s (Char.ofNat slot.toNat) (← v.setOf? false final)
  | [0x24, slot, final] =>
    if slot = 0x28 ∨ slot = 0x29 then do
      designate s (Char.ofNat slot.toNat) (← v.setOf? true final)
    else none
  | [_, _, 0x1B, 0x24, 0x42] =>
    if v.announces then do designate s '(' (← v.setOf? true 0x42) else none
  | _ => none

/-- The bytes of an escape sequence behind the escape, and what follows it. An announcement does not
end the sequence; no sequence is longer than sixteen bytes. -/
def cutSequence? (v : Iso2022) (bytes : Bytes) : Option (Bytes × Bytes) :=
  let skipped := if v.announces && [0x26, 0x40].isPrefixOf bytes then 3 else 0
  let length := skipped + ((bytes.drop skipped).takeWhile (!isFinal ·)).length + 1
  if length < 16 ∧ length ≤ bytes.length then some (bytes.take length, bytes.drop length) else none

/-- A byte that goes on an escape sequence for a set. -/
def beginsDesignation (b : UInt8) : Bool := "()$.&".toList.any (·.toNat == b.toNat)

/-! ## Texts -/

/-- The text of some bytes behind a shift, read in at most `fuel` steps. -/
def decodeFrom (v : Iso2022) : Nat → Shift → Bytes → Except Fault Text
  | 0, _, _ => .ok []
  | _ + 1, _, [] => .ok []
  | fuel + 1, s, b :: bytes =>
    let plain (s : Shift) := (Char.ofNat b.toNat :: ·) <$> decodeFrom v fuel s bytes
    if s.inEscape then plain { s with inEscape := !isFinal b }
    else if b = escape then
      match bytes with
      | [] => .error .damaged
      | c :: rest =>
        if beginsDesignation c then do
          let (sequence, rest) ← orDamaged (v.cutSequence? bytes)
          let s ← orDamaged (v.designated? s sequence)
          decodeFrom v fuel s rest
        else if v.hasThird && c == 0x4E then
          match rest with
          | [] => .error .damaged
          | d :: rest => do
            let char ← thirdChar s.third d
            (char :: ·) <$> decodeFrom v fuel s rest
        else plain { s with inEscape := true }
    else if v.shifts && b == 0x0F then decodeFrom v fuel { s with isSecond := false } bytes
    else if v.shifts && b == 0x0E then decodeFrom v fuel { s with isSecond := true } bytes
    else if b = 0x0A then plain { s with isSecond := false }
    else if b < 0x20 then plain s
    else if 0x80 ≤ b then .error .damaged
    else do
      let (text, rest) ← orDamaged (readIn (if s.isSecond then s.second else s.first) b bytes)
      (text ++ ·) <$> decodeFrom v fuel s rest

/-- The text of some bytes. Every step takes a byte. -/
def decode (v : Iso2022) (bytes : Bytes) : Except Fault Text :=
  v.decodeFrom bytes.length .start bytes

/-! ## Variants -/

/-- JIS X 0208 by its two final bytes. -/
def japanese0208 : List Designator :=
  [⟨true, 'B', .pairs Japanese.plane0208⟩, ⟨true, '@', .pairs Japanese.plane0208⟩]

/-- The Roman set of JIS. -/
def japaneseRoman : Designator := ⟨false, 'J', .roman⟩

/-- JIS X 0212. -/
def japanese0212 : Designator := ⟨true, 'D', .pairs Japanese.plane0212⟩

/-- The second plane of JIS X 0213. -/
def japanese0213Second : Designator := ⟨true, 'P', .pairs Japanese.plane0213Second⟩

/-- A variant for Japanese with some sets. -/
def japaneseOf (designators : List Designator) (hasThird : Bool) : Iso2022 :=
  ⟨designators, false, hasThird, true⟩

/-- ISO-2022-JP. -/
def japanese : Iso2022 := japaneseOf (japaneseRoman :: japanese0208) false

/-- ISO-2022-JP-1. -/
def japanese1 : Iso2022 := japaneseOf (japanese0212 :: japaneseRoman :: japanese0208) false

/-- ISO-2022-JP-2, which has sets of other languages. -/
def japanese2 : Iso2022 :=
  japaneseOf
    ([⟨true, 'C', .pairs Korean.plane⟩, ⟨true, 'A', .pairs Chinese.plane⟩,
      ⟨false, 'A', .upperLatin⟩, ⟨false, 'F', .upperGreek⟩, japanese0212, japaneseRoman] ++
      japanese0208) true

/-- ISO-2022-JP-3. -/
def japanese3 : Iso2022 :=
  japaneseOf
    [⟨true, 'O', .pairs (Japanese.plane0213 .of2000)⟩, ⟨true, 'B', .pairs Japanese.plane0208⟩,
     japanese0213Second] false

/-- ISO-2022-JP-2004. -/
def japanese2004 : Iso2022 :=
  japaneseOf
    [⟨true, 'Q', .pairs (Japanese.plane0213 .of2004)⟩, ⟨true, 'B', .pairs Japanese.plane0208⟩,
     japanese0213Second] false

/-- ISO-2022-JP with the syllables of half width. -/
def japaneseExtended : Iso2022 :=
  japaneseOf (japanese0212 :: ⟨false, 'I', .halfWidth⟩ :: japaneseRoman :: japanese0208) false

/-- ISO-2022-KR, which reads KS X 1001 between shifts. -/
def korean : Iso2022 := ⟨[⟨true, 'C', .pairs Korean.plane⟩], true, false, false⟩

end Iso2022
end DocMarkup
