import DocMarkup.Text.Lines

/-!
# Unified line breaks

Unifying the line breaks of a text adds no other character than the line feed, leaves no carriage
return, and does nothing to a text without one.

Main results:

- Theorem {lit}`Text.mem_of_mem_unifyBreaks`: every character but the line feed was there before.
- Theorem {lit}`Text.unifyBreaks_eq_self_iff`: which texts are left as they are.
-/

namespace DocMarkup
namespace Text

/-- A text with characters has some when its line breaks are unified. -/
theorem unifyBreaks_ne_nil {s : Text} (hs : s ≠ []) : unifyBreaks s ≠ [] := by
  cases s using unifyBreaks.fun_cases with
  | case1 => exact absurd rfl hs
  | case2 rest => simp [unifyBreaks]
  | case3 c rest hbreak => simp [unifyBreaks]

/-- Every character of the unified text but the line feed was there before. -/
theorem mem_of_mem_unifyBreaks {s : Text} {c : Char} (hc : c ∈ unifyBreaks s) :
    c = '\n' ∨ c ∈ s := by
  induction s using unifyBreaks.induct with
  | case1 => simp [unifyBreaks] at hc
  | case2 rest ih =>
    rw [unifyBreaks] at hc
    rcases List.mem_cons.1 hc with hfeed | hc
    · exact .inl hfeed
    · exact (ih hc).imp_right fun h => by simp [h]
  | case3 d rest hbreak ih =>
    rw [unifyBreaks] at hc
    · rcases List.mem_cons.1 hc with hd | hc
      · by_cases hreturn : d = '\r'
        · exact .inl (by rw [hd, if_pos hreturn])
        · exact .inr (by rw [hd, if_neg hreturn]; simp)
      · exact (ih hc).imp_right (List.mem_cons_of_mem _)
    · exact hbreak

/-- No carriage return is left. -/
theorem return_not_mem_unifyBreaks (s : Text) : '\r' ∉ unifyBreaks s := by
  induction s using unifyBreaks.induct with
  | case1 => simp [unifyBreaks]
  | case2 rest ih => simpa [unifyBreaks] using ih
  | case3 d rest hbreak ih =>
    rw [unifyBreaks]
    · by_cases hreturn : d = '\r'
      · simp [hreturn, ih]
      · simpa [hreturn, ih] using Ne.symm hreturn
    · exact hbreak

/-- A text is left as it is exactly when it has no carriage return. -/
theorem unifyBreaks_eq_self_iff {s : Text} : unifyBreaks s = s ↔ '\r' ∉ s := by
  constructor
  · intro h
    rw [← h]
    exact return_not_mem_unifyBreaks s
  · intro h
    induction s with
    | nil => rfl
    | cons c s ih =>
      have hc : ¬c = '\r' := fun hreturn => h (by simp [hreturn])
      rw [unifyBreaks, if_neg hc, ih fun hs => h (List.mem_cons_of_mem _ hs)]
      exact fun rest hreturn _ => hc hreturn

end Text
end DocMarkup
