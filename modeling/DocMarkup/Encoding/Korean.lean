import DocMarkup.Encoding.Charset.Ksx1001
import DocMarkup.Encoding.Hangul

/-!
# Encodings of Korean

KS X 1001 has only the syllables in common use. The others are spelled letter by letter, or have
codes of their own.

Main definitions:

- {lit}`Korean.eucKr`: KS X 1001 with the highest bits, other syllables spelled.
- {lit}`Korean.windows949`: KS X 1001 with the highest bits, other syllables in the order of
  Unicode.
- {lit}`Korean.johab`: syllables composed of five bits for each letter.
-/

namespace DocMarkup
namespace Korean

/-- KS X 1001. -/
def plane : Plane := Charset.ksx1001.plane

/-! ## Spelled syllables -/

/-- The letter of a byte in the row of letters. -/
def letter (b : UInt8) : Char := Char.ofNat (0x3131 + b.toNat - 0xA1)

/-- What stands in the row of letters where no letter follows. -/
def filler : UInt8 := 0xD4

/-- A syllable that is spelled with three letters in their row, behind a filler. -/
def spelled? : Bytes → Option (Text × Bytes)
  | 0xA4 :: lead :: 0xA4 :: vowel :: 0xA4 :: trail :: bytes => do
    let lead ← Hangul.leads.idxOf? (letter lead)
    let vowel ← Hangul.vowels.idxOf? (letter vowel)
    let trail ←
      if trail = filler then some 0 else (Hangul.trails.idxOf? (letter trail)).map (· + 1)
    some ([Hangul.syllable lead vowel trail], bytes)
  | _ => none

/-- EUC-KR. -/
def eucKr : CodeReader :=
  .withAscii fun a bytes =>
    match bytes with
    | b :: rest =>
      if a = 0xA4 ∧ b = filler then spelled? rest else CodeReader.pair plane.raised a bytes
    | [] => none

/-! ## Syllables in the order of Unicode -/

/-- The syllables of KS X 1001, which are in the order of Unicode. -/
def commonSyllables : Text :=
  (Charset.ksx1001.filter fun run => 0x3000 ≤ run.1 && run.1 < 0x4900).flatMap (·.2.toList)

/-- The syllable with a number among those that KS X 1001 does not have. -/
def rareSyllable (number : Nat) : Char :=
  Char.ofNat (commonSyllables.foldl (fun n c => if c.toNat ≤ n then n + 1 else n)
    (Hangul.first + number))

/-- How many syllables KS X 1001 does not have. -/
def rareCount : Nat := 8822

/-- The number of a second byte among letters and bytes with the highest bit. -/
def trailNumber? (b : Nat) : Option Nat :=
  if 0x41 ≤ b ∧ b ≤ 0x5A then some (b - 0x41)
  else if 0x61 ≤ b ∧ b ≤ 0x7A then some (b - 0x61 + 26)
  else if 0x81 ≤ b ∧ b ≤ 0xFE then some (b - 0x81 + 52)
  else none

/-- A syllable that KS X 1001 does not have. The rows that share their first byte with KS X 1001 end
where its cells begin. -/
def rare? : Plane := fun a b => do
  let trail ← trailNumber? b
  let number ←
    if 0x81 ≤ a ∧ a ≤ 0xA0 then some ((a - 0x81) * 178 + trail)
    else if 0xA1 ≤ a ∧ trail < 84 then some (32 * 178 + (a - 0xA1) * 84 + trail)
    else none
  if number < rareCount then some [rareSyllable number] else none

/-- Windows-949. -/
def windows949 : CodeReader := .pairs (plane.raised.or rare?)

/-! ## Composed syllables -/

/-- A letter by its five bits: none, or its number. -/
inductive Slot where
  | empty
  | letter (number : Nat)

/-- The leading consonant of five bits. -/
def leadSlot? (n : Nat) : Option Slot :=
  if n = 1 then some .empty
  else if 2 ≤ n ∧ n ≤ 20 then some (.letter (n - 2))
  else none

/-- The vowel of five bits, of which two of every eight numbers are left out. -/
def vowelSlot? (n : Nat) : Option Slot :=
  if n = 2 then some .empty
  else if n < 2 ∨ 30 ≤ n ∨ n % 8 < 2 then none
  else some (.letter (n / 8 * 6 + n % 8 - 3))

/-- The trailing consonant of five bits. -/
def trailSlot? (n : Nat) : Option Slot :=
  if n = 1 then some .empty
  else if 2 ≤ n ∧ n ≤ 17 then some (.letter (n - 2))
  else if 19 ≤ n ∧ n ≤ 29 then some (.letter (n - 3))
  else none

/-- The syllable, the single letter or the blank that two bytes compose. -/
def composed? : Plane := fun a b => do
  let lead ← leadSlot? (a / 4 % 32)
  let vowel ← vowelSlot? (a % 4 * 8 + b / 32)
  let trail ← trailSlot? (b % 32)
  match lead, vowel, trail with
  | .letter l, .letter v, .letter t => some [Hangul.syllable l v (t + 1)]
  | .letter l, .letter v, .empty => some [Hangul.syllable l v 0]
  | .letter l, .empty, .empty => Hangul.leads[l]?.map ([·])
  | .empty, .letter v, .empty => Hangul.vowels[v]?.map ([·])
  | .empty, .empty, .letter t => Hangul.trails[t]?.map ([·])
  | .empty, .empty, .empty => some [Char.ofNat 0x3000]
  | _, _, _ => none

/-- The characters of KS X 1001 that are no syllables, two rows to one first byte. -/
def otherThanSyllables? : Plane := fun a b =>
  if a < 0xD9 ∨ a = 0xDF ∨ 0xF9 < a ∨ b < 0x31 ∨ (0x80 ≤ b ∧ b < 0x91) ∨ b % 128 = 0x7F ∨
      (a = 0xDA ∧ 0xA1 ≤ b ∧ b ≤ 0xD3) then none
  else
    let row := if a < 0xE0 then 2 * (a - 0xD9) else 2 * a - 0x197
    let cell := if b < 0x91 then b - 0x31 else b - 0x43
    if cell < 0x5E then plane (row + 0x21) (cell + 0x21)
    else plane (row + 0x22) (cell - 0x5E + 0x21)

/-- Johab. -/
def johab : CodeReader :=
  .pairs fun a b => if a < 0xD8 then composed? a b else otherThanSyllables? a b

end Korean
end DocMarkup
