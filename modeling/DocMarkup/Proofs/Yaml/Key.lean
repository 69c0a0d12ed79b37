import DocMarkup.Proofs.Number.Value
import DocMarkup.Yaml.Value

/-!
# Equality of keys

Keys are equal across types when they are the same number, and moments when they are the same
instant. Each key has one meaning, and two values are the same key exactly when they have the same
meaning. A value without one is not even equal to itself.

Main definitions:

- {lit}`Yaml.Value.Meaning`: what a key is compared by.
- {lit}`Yaml.Value.meaning?`: the meaning of a value as a key.

Main results:

- Theorem {lit}`Yaml.Value.beq_iff`: the same key is the same meaning.
-/

namespace DocMarkup
namespace Yaml
namespace Value

/-- What a key is compared by. -/
inductive Meaning where
  | null
  | number (value : Rat)
  | infinite (negative : Bool)
  | str (s : Text)
  | bytes (bytes : List UInt8)
  | date (d : Date)
  | moment (isKnown : Bool) (instant : Int)

/-- The meaning of a number of double precision, unless it is no number. -/
def Meaning.ofFloat? : Binary64 → Option Meaning
  | .infinite negative => some (.infinite negative)
  | x => x.value?.map .number

/-- The meaning of a value as a key. What is no number, and every collection, is no key. -/
def meaning? : Value → Option Meaning
  | null => some .null
  | bool b => some (.number (if b then 1 else 0))
  | int n => some (.number n)
  | float x => Meaning.ofFloat? x
  | str s => some (.str s)
  | bytes s => some (.bytes s)
  | date d => some (.date d)
  | datetime t => some (.moment t.offset.isSome t.instant)
  | _ => none

variable {v w : Value} {x y : Binary64}

/-- A number of double precision means its value or an infinity. -/
theorem Meaning.ofFloat?_eq_some_iff {k : Meaning} :
    Meaning.ofFloat? x = some k ↔
      (∃ negative, x = .infinite negative ∧ k = .infinite negative) ∨
        ∃ q, x.value? = some q ∧ k = .number q := by
  cases x <;> simp [Meaning.ofFloat?, Binary64.value?, eq_comm]

/-- An integer on the left is the same key as what means that integer. -/
theorem sameKey_of_asInt? {n : Int} (hv : v.asInt? = some n) :
    v.sameKey w = true ↔ w.meaning? = some (.number n) := by
  unfold sameKey
  rw [hv]
  cases w with
  | float y => simp [asInt?, meaning?, Meaning.ofFloat?_eq_some_iff, Binary64.sameInt_iff]
  | bool b =>
    have hcast (m : Int) : n = m ↔ (m : Rat) = n :=
      ⟨fun h => by rw [h], fun h => (Int.cast_inj.1 h).symm⟩
    cases b <;> simp [asInt?, meaning?, hcast]
  | int m => simpa [asInt?, meaning?] using eq_comm
  | _ => simp [asInt?, meaning?]

/-- Two numbers of double precision are the same key when they mean the same. -/
theorem same_iff_ofFloat? :
    x.same y = true ↔ ∃ k, Meaning.ofFloat? y = some k ∧ Meaning.ofFloat? x = some k := by
  cases x with
  | nan => simp [Binary64.same, Meaning.ofFloat?, Binary64.value?]
  | infinite negative =>
    cases y <;> simp [Binary64.same, Meaning.ofFloat?, Binary64.value?]
  | finite negative significand exponent =>
    cases y with
    | finite => simp [Binary64.same_finite_iff, Meaning.ofFloat?, Binary64.value?]
    | _ => simp [Binary64.same, Meaning.ofFloat?, Binary64.value?]

/-- A number of double precision on the left is the same key as what means the same. -/
theorem sameKey_float :
    (float x).sameKey w = true ↔ ∃ k, w.meaning? = some k ∧ Meaning.ofFloat? x = some k := by
  cases w with
  | float y => exact same_iff_ofFloat?
  | bool b =>
    cases b <;> simp [sameKey, asInt?, meaning?, Meaning.ofFloat?_eq_some_iff, Binary64.sameInt_iff]
  | int n => simp [sameKey, asInt?, meaning?, Meaning.ofFloat?_eq_some_iff, Binary64.sameInt_iff]
  | _ => simp [sameKey, asInt?, meaning?, Meaning.ofFloat?_eq_some_iff]

/-- Two values are the same key exactly when both have one meaning. -/
theorem beq_iff : (v == w) = true ↔ ∃ k, w.meaning? = some k ∧ v.meaning? = some k := by
  show v.sameKey w = true ↔ _
  cases v with
  | bool b =>
    rw [sameKey_of_asInt? rfl]
    cases b <;> simp [meaning?]
  | int n =>
    rw [sameKey_of_asInt? rfl]
    simp [meaning?]
  | float x => exact sameKey_float
  | datetime t =>
    cases w <;> simp [sameKey, asInt?, meaning?, Meaning.ofFloat?_eq_some_iff, DateTime.same]
  | _ => cases w <;> simp [sameKey, asInt?, meaning?, Meaning.ofFloat?_eq_some_iff]

instance : PartialEquivBEq Value where
  symm h := by
    rcases beq_iff.1 h with ⟨k, hw, hv⟩
    exact beq_iff.2 ⟨k, hv, hw⟩
  trans h h' := by
    rcases beq_iff.1 h with ⟨k, hw, hv⟩
    rcases beq_iff.1 h' with ⟨k', hx, hw'⟩
    obtain rfl : k = k' := Option.some.inj (hw.symm.trans hw')
    exact beq_iff.2 ⟨k, hx, hv⟩

end Value
end Yaml
end DocMarkup
