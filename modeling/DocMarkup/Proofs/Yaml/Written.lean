import DocMarkup.Yaml.Value
import Mathlib.Data.Nat.Digits.Defs

/-!
# Written values

A value that counts as given is never written as the empty text: what is empty does not count, and
everything else has at least a digit, a mark or a word.

Main results:

- Theorem {lit}`Binary64.text_ne_nil`: a number is written with some text.
- Theorem {lit}`Yaml.Value.text_ne_nil`: so is every value that counts as given.
-/

namespace DocMarkup

/-- A number has a digit. -/
theorem Text.ofNat_ne_nil (n : Nat) : Text.ofNat n ≠ [] := Nat.toDigits_ne_nil

/-- An integer has a digit. -/
theorem Number.intText_ne_nil (n : Int) : Number.intText n ≠ [] := by
  unfold Number.intText
  split
  · exact List.cons_ne_nil _ _
  · exact Text.ofNat_ne_nil _

/-- A decimal that is laid out has a digit. -/
theorem Shortest.Layout.write_ne_nil (l : Layout) (digits : Nat) (exponent : Int) :
    l.write digits exponent ≠ [] := by
  unfold write
  dsimp only
  split_ifs <;> simp

/-- A number is written with some text. -/
theorem Binary64.text_ne_nil (x : Binary64) : x.text ≠ [] := by
  unfold Binary64.text
  cases x with
  | nan => decide
  | infinite negative => cases negative <;> decide
  | finite negative significand exponent =>
    by_cases hzero : significand = 0
    · simp [hzero]
    · simp [hzero, Shortest.Layout.write_ne_nil]

namespace Yaml
namespace Value

/-- A term of a collection is some text. -/
theorem termWithin_ne_nil : ∀ (within : List Nat) (v : Value), termWithin within v ≠ []
  | _, null => by simp [termWithin]
  | _, bool b => by cases b <;> simp [termWithin]
  | _, int n => by simpa [termWithin] using Number.intText_ne_nil n
  | _, float x => by simpa [termWithin] using x.text_ne_nil
  | _, str s => by simp [termWithin, Text.quoted]
  | _, bytes s => by simp [termWithin, Text.quotedBytes]
  | _, date d => by
    rw [termWithin]
    exact List.append_ne_nil_of_right_ne_nil _ (List.cons_ne_nil _ _)
  | _, datetime t => by
    rw [termWithin]
    exact List.append_ne_nil_of_right_ne_nil _ (List.cons_ne_nil _ _)
  | _, list items => by simp [termWithin]
  | _, pair first second => by simp [termWithin]
  | _, map entries => by simp [termWithin]
  | _, set [] => by simp [termWithin]
  | _, set (member :: members) => by simp [termWithin]
  | within, loop n v => by
    rw [termWithin]
    split
    · cases v.isMapping <;> simp [dots]
    · exact termWithin_ne_nil (n :: within) v
  | _, again n isMapping => by cases isMapping <;> simp [termWithin, dots]

/-- A value that counts as given is written with some text. -/
theorem text_ne_nil {v : Value} (h : v.isTruthy = true) : v.text ≠ [] := by
  unfold text
  split
  · next s =>
    rintro rfl
    cases h
  · simp [Date.text]
  · simp [DateTime.text, Date.text]
  · exact termWithin_ne_nil [] v

end Value
end Yaml
end DocMarkup
