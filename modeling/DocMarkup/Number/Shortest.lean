import DocMarkup.Number.Binary64
import DocMarkup.Text.Basic

/-!
# Shortest decimal text

A number of double precision is written with the fewest digits that are nearer to it than to any
other number. Of several such decimals with that many digits the nearest is taken, and of two
equally near ones the even one.

Main definitions:

- {lit}`Shortest.decimal`: the digits and the power of ten of the shortest decimal.
- {lit}`Binary64.text`: the number as written.
-/

namespace DocMarkup
namespace Shortest

/-- Compares `x * 2 ^ e` with `d * 10 ^ p`. -/
def compareScaled (x : Nat) (e : Int) (d : Nat) (p : Int) : Ordering :=
  let left := x * (if e < 0 then 1 else Nat.pow 2 e.natAbs) *
    (if p < 0 then Nat.pow 10 p.natAbs else 1)
  let right := d * (if p < 0 then 1 else Nat.pow 10 p.natAbs) *
    (if e < 0 then Nat.pow 2 e.natAbs else 1)
  compare left right

/-- The least `k` with `x * 2 ^ e < 10 ^ k`, found next to the value that the binary length
gives. -/
def magnitude (x : Nat) (e : Int) : Int :=
  let guess := ((x.log2 : Int) + e) * 30103 / 100000
  ([guess - 1, guess, guess + 1, guess + 2].find? fun k => compareScaled x e 1 k == .lt).getD
    (guess + 3)

/-- The integer part of `x * 2 ^ e / 10 ^ p`. -/
def integerPart (x : Nat) (e p : Int) : Nat :=
  let num := x * (if e < 0 then 1 else Nat.pow 2 e.natAbs) *
    (if p < 0 then Nat.pow 10 p.natAbs else 1)
  let den := (if p < 0 then 1 else Nat.pow 10 p.natAbs) *
    (if e < 0 then Nat.pow 2 e.natAbs else 1)
  num / den

/-- Twice the number in quarters of its last place, with the ends of the interval that rounds to it.
The interval is half as wide below a power of two. -/
structure Interval where
  low : Nat
  value : Nat
  high : Nat
  exponent : Int
  closed : Bool

/-- The interval of reals that round to `m * 2 ^ e`. -/
def interval (m : Nat) (e : Int) : Interval where
  low := if m = Nat.pow 2 52 ∧ Binary64.minExponent < e then 4 * m - 1 else 4 * m - 2
  value := 4 * m
  high := 4 * m + 2
  exponent := e - 2
  closed := m % 2 = 0

/-- Whether `d * 10 ^ p` rounds to the number. -/
def Interval.holds (i : Interval) (d : Nat) (p : Int) : Bool :=
  let above := compareScaled i.low i.exponent d p
  let below := compareScaled i.high i.exponent d p
  (above == .lt || (i.closed && above == .eq)) && (below == .gt || (i.closed && below == .eq))

/-- The decimal of a grid that is nearest to the number, if one of the grid rounds to it. -/
def Interval.onGrid? (i : Interval) (p : Int) : Option Nat :=
  let d := integerPart i.value i.exponent p
  match i.holds d p, i.holds (d + 1) p with
  | false, false => none
  | true, false => some d
  | false, true => some (d + 1)
  | true, true =>
    match compareScaled (2 * i.value) i.exponent (2 * d + 1) p with
    | .lt => some d
    | .gt => some (d + 1)
    | .eq => some (if d % 2 = 0 then d else d + 1)

/-- A decimal without the zeros at its end. -/
def trimZeros : Nat → Nat → Int → Nat × Int
  | 0, d, p => (d, p)
  | fuel + 1, d, p => if d % 10 = 0 ∧ d ≠ 0 then trimZeros fuel (d / 10) (p + 1) else (d, p)

/-- The first grid, from the coarsest on, that has a decimal which rounds to the number. -/
def search (i : Interval) (k : Int) : Nat → Nat → Nat × Int
  | 0, n => (integerPart i.value i.exponent (k - n), k - n)
  | fuel + 1, n =>
    match i.onGrid? (k - n) with
    | some d => trimZeros 20 d (k - n)
    | none => search i k fuel (n + 1)

/-- The digits and the power of ten of the shortest decimal of `m * 2 ^ e`, for a positive `m`. -/
def decimal (m : Nat) (e : Int) : Nat × Int := search (interval m e) (magnitude m e) 17 1

/-- How numbers are laid out: the positions of the decimal point between which no exponent is
used. -/
structure Layout where
  lowest : Int
  highest : Int
  exponentDigits : Nat

/-- Numbers from one ten-thousandth up to ten to the sixteenth are written without an exponent; an
exponent has a sign and at least two digits. -/
def layout : Layout := ⟨-3, 16, 2⟩

/-- A run of zeros. -/
def zeros (n : Int) : Text := List.replicate n.toNat '0'

/-- An exponent with its sign. -/
def exponentText (width : Nat) (e : Int) : Text :=
  let digits := Text.ofNat e.natAbs
  (if e < 0 then '-' else '+') :: (zeros (width - digits.length) ++ digits)

/-- The decimal `digits * 10 ^ exponent` laid out; a number without a fraction shows one zero. -/
def Layout.write (l : Layout) (digits : Nat) (exponent : Int) : Text :=
  let s := Text.ofNat digits
  let point : Int := s.length + exponent
  if point < l.lowest ∨ l.highest < point then
    let fraction := s.drop 1
    s.take 1 ++ (if fraction = [] then [] else '.' :: fraction) ++
      'e' :: exponentText l.exponentDigits (point - 1)
  else if point ≤ 0 then "0.".toList ++ zeros (-point) ++ s
  else if s.length ≤ point then s ++ zeros (point - s.length) ++ ".0".toList
  else s.take point.toNat ++ '.' :: s.drop point.toNat

end Shortest

/-- A number as written. -/
def Binary64.text : Binary64 → Text
  | .nan => "nan".toList
  | .infinite negative => if negative then "-inf".toList else "inf".toList
  | .finite negative significand exponent =>
    let sign : Text := if negative then ['-'] else []
    if significand = 0 then sign ++ "0.0".toList
    else
      let (digits, power) := Shortest.decimal significand exponent
      sign ++ Shortest.layout.write digits power

end DocMarkup
