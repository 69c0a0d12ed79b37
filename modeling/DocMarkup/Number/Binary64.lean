/-!
# Binary numbers of double precision

A number of double precision is kept as its exact value, a sign, a significand and a power of two,
so that rounding, arithmetic and comparison are computations on natural numbers.

Main definitions:

- {lit}`Binary64`: the numbers, the two infinities and the value that is no number.
- {lit}`Binary64.ofRatio`: the number nearest to a ratio, ties going to the even significand.
- {lit}`Binary64.add`, {lit}`Binary64.mul`: exact results rounded once.
- {lit}`Binary64.same`: numerical equality.
-/

namespace DocMarkup

/-- A number of double precision. A finite one has the value `significand * 2 ^ exponent`, with a
significand below `2 ^ 53` and an exponent of at least -1074. -/
inductive Binary64 where
  | nan
  | infinite (negative : Bool)
  | finite (negative : Bool) (significand : Nat) (exponent : Int)
  deriving DecidableEq

namespace Binary64

/-- The exponent of the smallest positive number. -/
def minExponent : Int := -1074

/-- The exponent of the largest number. -/
def maxExponent : Int := 971

/-- Zero, with a sign. -/
def zero (negative : Bool) : Binary64 := finite negative 0 minExponent

/-- The quotient of `num` and `den * 2 ^ exponent`, as an integer and whether to round up. -/
def quotient (num den : Nat) (exponent : Int) : Nat × Bool :=
  let n := if exponent < 0 then num * Nat.pow 2 exponent.natAbs else num
  let d := if exponent < 0 then den else den * Nat.pow 2 exponent.natAbs
  let q := n / d
  let twice := 2 * (n % d)
  (q, d < twice || (d == twice && q % 2 == 1))

/-- The number nearest to `num / den`; of two equally near ones the one with an even significand. -/
def ofRatio (negative : Bool) (num den : Nat) : Binary64 :=
  if num = 0 then zero negative
  else
    let guess : Int := (num.log2 : Int) - den.log2 - 52
    let normal := if (quotient num den guess).1 < Nat.pow 2 52 then guess - 1 else guess
    let exponent := max normal minExponent
    let (q, up) := quotient num den exponent
    let significand := if up then q + 1 else q
    let (significand, exponent) :=
      if significand = Nat.pow 2 53 then (Nat.pow 2 52, exponent + 1) else (significand, exponent)
    if maxExponent < exponent then infinite negative else finite negative significand exponent

/-- The number nearest to `digits * 10 ^ exponent`. -/
def ofDecimal (negative : Bool) (digits : Nat) (exponent : Int) : Binary64 :=
  if digits = 0 then zero negative
  else
    let size : Int := (Nat.toDigits 10 digits).length + exponent
    if 400 < size then infinite negative
    else if size < -400 then zero negative
    else if exponent < 0 then ofRatio negative digits (Nat.pow 10 exponent.natAbs)
    else ofRatio negative (digits * Nat.pow 10 exponent.natAbs) 1

/-- The number nearest to an integer. -/
def ofInt (n : Int) : Binary64 := ofRatio (n < 0) n.natAbs 1

/-- The number with the other sign. -/
def neg : Binary64 → Binary64
  | nan => nan
  | infinite negative => infinite !negative
  | finite negative significand exponent => finite (!negative) significand exponent

/-- A finite number as an integer multiple of `2 ^ lowest`, for an exponent that is not below. -/
def scaled (negative : Bool) (significand : Nat) (exponent lowest : Int) : Int :=
  let magnitude : Int := (significand * Nat.pow 2 (exponent - lowest).natAbs : Nat)
  if negative then -magnitude else magnitude

/-- The number nearest to `n * 2 ^ exponent`. -/
def ofScaled (negative : Bool) (n : Nat) (exponent : Int) : Binary64 :=
  if exponent < 0 then ofRatio negative n (Nat.pow 2 exponent.natAbs)
  else ofRatio negative (n * Nat.pow 2 exponent.natAbs) 1

/-- The sum, rounded. -/
def add : Binary64 → Binary64 → Binary64
  | nan, _ | _, nan => nan
  | infinite a, infinite b => if a = b then infinite a else nan
  | infinite a, finite _ _ _ => infinite a
  | finite _ _ _, infinite b => infinite b
  | finite a m e, finite b n f =>
    let lowest := min e f
    let sum := scaled a m e lowest + scaled b n f lowest
    if sum = 0 then zero (a && b) else ofScaled (sum < 0) sum.natAbs lowest

/-- The product, rounded. -/
def mul : Binary64 → Binary64 → Binary64
  | nan, _ | _, nan => nan
  | infinite a, infinite b => infinite (a != b)
  | infinite a, finite b n _ | finite b n _, infinite a => if n = 0 then nan else infinite (a != b)
  | finite a m e, finite b n f => ofScaled (a != b) (m * n) (e + f)

/-- Whether two values are equal as numbers; the two zeros are, and what is no number never is. -/
def same : Binary64 → Binary64 → Bool
  | finite a m e, finite b n f =>
    let lowest := min e f
    scaled a m e lowest == scaled b n f lowest
  | infinite a, infinite b => a == b
  | _, _ => false

/-- Whether a value is equal to an integer. -/
def sameInt (x : Binary64) (n : Int) : Bool :=
  match x with
  | finite a m e =>
    let lowest := min e 0
    scaled a m e lowest == n * (Nat.pow 2 lowest.natAbs : Nat)
  | _ => false

/-- Whether a value is one of the zeros. -/
def isZero : Binary64 → Bool
  | finite _ m _ => m == 0
  | _ => false

end Binary64
end DocMarkup
