import DocMarkup.Encoding.Wide

/-!
# UTF-7

Characters of ASCII stand for themselves. Between a plus and the first byte outside the alphabet of
base 64 stand units of UTF-16, six bits to a byte. A hyphen behind them is passed over, and right
behind the plus it stands for the plus. A unit that is half of a pair without the other half counts as
damaged, because no text holds it.

Main definitions:

- {lit}`Utf7.sextet?`: the six bits of a byte.
- {lit}`Utf7.units?`: the units of a run of sextets.
- {lit}`Utf7.decode?`: the text of some bytes.
-/

namespace DocMarkup
namespace Utf7

/-- The six bits of a byte of the alphabet. -/
def sextet? (b : UInt8) : Option Nat :=
  let n := b.toNat
  if 0x41 ≤ n ∧ n ≤ 0x5A then some (n - 0x41)
  else if 0x61 ≤ n ∧ n ≤ 0x7A then some (n - 0x61 + 26)
  else if 0x30 ≤ n ∧ n ≤ 0x39 then some (n - 0x30 + 52)
  else if n = 0x2B then some 62
  else if n = 0x2F then some 63
  else none

/-- The units of a run of sextets, from inside a unit of which `count` bits have been read. Fewer
than six bits may be left over, and these must be zero. -/
def units? (count bits : Nat) : List Nat → Option (List Nat)
  | [] => if count < 6 ∧ bits = 0 then some [] else none
  | sextet :: rest =>
    let count := count + 6
    let bits := bits * 64 + sextet
    if count < 16 then units? count bits rest
    else
      let left := count - 16
      (bits / 2 ^ left :: ·) <$> units? left (bits % 2 ^ left) rest

/-- What follows a run of sextets, without a hyphen that ends it. -/
def afterRun : Bytes → Bytes
  | 0x2D :: bytes => bytes
  | bytes => bytes

/-- The text of some bytes, for at most `fuel` steps. -/
def decodeUpTo : Nat → Bytes → Option Text
  | 0, _ => some []
  | _ + 1, [] => some []
  | fuel + 1, b :: bytes =>
    if 0x80 ≤ b then none
    else if b ≠ 0x2B then (Char.ofNat b.toNat :: ·) <$> decodeUpTo fuel bytes
    else
      match bytes with
      | 0x2D :: bytes => ('+' :: ·) <$> decodeUpTo fuel bytes
      | _ => do
        let run := bytes.takeWhile fun b => (sextet? b).isSome
        if run = [] ∧ bytes ≠ [] then none
        else
          let text ← units? 0 0 (run.filterMap sextet?) >>= Utf16.textOfUnits?
          (text ++ ·) <$> decodeUpTo fuel (afterRun (bytes.drop run.length))

/-- The text of some bytes. Every step takes a byte. -/
def decode? (bytes : Bytes) : Option Text := decodeUpTo bytes.length bytes

end Utf7
end DocMarkup
