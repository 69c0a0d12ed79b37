import DocMarkup.Number.Binary64
import Mathlib.Algebra.Order.Field.Rat
import Mathlib.Tactic.NormNum
import Mathlib.Tactic.Ring

/-!
# Values of binary numbers

A finite number of double precision is a rational number. Two of them are compared on a common grid,
which decides whether their values are equal; so equality of numbers is equality of values.

Main definitions:

- {lit}`Binary64.value?`: the value of a finite number.

Main results:

- Theorem {lit}`Binary64.scaled_mul_zpow`: a number on a grid has the value that it has.
- Theorem {lit}`Binary64.same_finite_iff` and {lit}`Binary64.sameInt_iff`: equality of numbers is
  equality of values.
-/

namespace DocMarkup
namespace Binary64

/-- The value of a sign, a significand and a power of two. -/
def finiteValue (negative : Bool) (significand : Nat) (exponent : Int) : Rat :=
  (if negative then -(significand : Rat) else significand) * 2 ^ exponent

/-- The value of a finite number. -/
def value? : Binary64 → Option Rat
  | finite negative significand exponent => some (finiteValue negative significand exponent)
  | _ => none

variable {a b : Bool} {m n : Nat} {e f lowest : Int}

/-- A number on a grid that is not coarser than its own power of two has the value that it has. -/
theorem scaled_mul_zpow (hle : lowest ≤ e) :
    (scaled a m e lowest : Rat) * 2 ^ lowest = finiteValue a m e := by
  have hpower : (2 : Rat) ^ (e - lowest).natAbs * 2 ^ lowest = 2 ^ e := by
    rw [← zpow_natCast, ← zpow_add₀ two_ne_zero]
    congr 1
    omega
  have hmagnitude : ((m * Nat.pow 2 (e - lowest).natAbs : Nat) : Rat) * 2 ^ lowest =
      m * 2 ^ e := by
    rw [← hpower, Nat.pow_eq]
    push_cast
    ring
  unfold scaled finiteValue
  cases a with
  | false => simpa using hmagnitude
  | true => simpa using hmagnitude

/-- Two numbers on a grid are equal exactly when their values are. -/
theorem scaled_inj (he : lowest ≤ e) (hf : lowest ≤ f) :
    scaled a m e lowest = scaled b n f lowest ↔ finiteValue a m e = finiteValue b n f := by
  have hgrid : (2 : Rat) ^ lowest ≠ 0 := zpow_ne_zero lowest two_ne_zero
  rw [← scaled_mul_zpow he, ← scaled_mul_zpow hf, mul_left_inj' hgrid, Int.cast_inj]

/-- Two finite numbers are equal exactly when their values are. -/
theorem same_finite_iff :
    (finite a m e).same (finite b n f) = true ↔ finiteValue a m e = finiteValue b n f := by
  unfold same
  rw [beq_iff_eq]
  exact scaled_inj (min_le_left e f) (min_le_right e f)

/-- An integer is a number with the power of two zero. -/
theorem scaled_intValue (k : Int) (hle : lowest ≤ 0) :
    ((k * (Nat.pow 2 lowest.natAbs : Nat) : Int) : Rat) * 2 ^ lowest = k := by
  have hpower : ((2 : Rat) ^ lowest.natAbs) * 2 ^ lowest = 1 := by
    rw [← zpow_natCast, ← zpow_add₀ two_ne_zero]
    have hzero : (lowest.natAbs : Int) + lowest = 0 := by omega
    rw [hzero, zpow_zero]
  rw [Nat.pow_eq]
  push_cast
  rw [mul_assoc, hpower, mul_one]

/-- A number is equal to an integer exactly when that is its value. -/
theorem sameInt_iff {x : Binary64} {k : Int} :
    x.sameInt k = true ↔ x.value? = some (k : Rat) := by
  cases x with
  | nan => simp [sameInt, value?]
  | infinite negative => simp [sameInt, value?]
  | finite negative significand exponent =>
    have hgrid : (2 : Rat) ^ min exponent 0 ≠ 0 := zpow_ne_zero _ two_ne_zero
    have hleft := scaled_mul_zpow (a := negative) (m := significand) (min_le_left exponent 0)
    have hright := scaled_intValue k (min_le_right exponent 0)
    rw [value?, Option.some.injEq, ← hleft]
    unfold sameInt
    rw [beq_iff_eq, ← Int.cast_inj (α := Rat), ← mul_left_inj' hgrid, hright]

end Binary64
end DocMarkup
