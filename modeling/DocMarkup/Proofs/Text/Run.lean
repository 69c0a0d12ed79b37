import DocMarkup.Text.Basic

/-!
# Runs of characters

A reader takes the longest run of characters of one class. It finds the run again that was written
when the character behind it is of another class.

Main definitions:

- {lit}`Text.Stops`: no run of a class begins here.

Main results:

- Theorems {lit}`Text.takeWhile_run` and {lit}`Text.dropWhile_run`: a run of a class and what
  follows it are found again when the class stops there.
- Theorem {lit}`Text.stops_dropWhile`: a class stops behind its longest run.
-/

namespace DocMarkup
namespace Text

/-- A text that does not begin with a character of a class. -/
def Stops (p : Char → Bool) (s : Text) : Prop := ∀ c ∈ s.head?, p c = false

variable {p : Char → Bool}

/-- Every class stops at the end of the text. -/
@[simp] theorem stops_nil : Stops p [] := by simp [Stops]

/-- A class stops at a character exactly when the character is none of it. -/
@[simp] theorem stops_cons {c : Char} {s : Text} : Stops p (c :: s) ↔ p c = false := by
  simp [Stops]

/-- What follows a nonempty text does not matter to whether a class stops at it. -/
theorem Stops.append {s : Text} (hs : Stops p s) (hne : s ≠ []) (t : Text) : Stops p (s ++ t) := by
  cases s with
  | nil => exact absurd rfl hne
  | cons c s => simpa using hs

/-- A run is the longest one when its class stops behind it. -/
theorem takeWhile_run {run rest : Text} (hrun : ∀ c ∈ run, p c = true) (hstop : Stops p rest) :
    (run ++ rest).takeWhile p = run := by
  rw [List.takeWhile_append_of_pos hrun]
  cases rest with
  | nil => simp
  | cons c rest => simp [stops_cons.1 hstop]

/-- What follows the longest run of a class is left over. -/
theorem dropWhile_run {run rest : Text} (hrun : ∀ c ∈ run, p c = true) (hstop : Stops p rest) :
    (run ++ rest).dropWhile p = rest := by
  rw [List.dropWhile_append_of_pos hrun]
  cases rest with
  | nil => simp
  | cons c rest => simp [stops_cons.1 hstop]

/-- A class stops behind its longest run. -/
theorem stops_dropWhile (p : Char → Bool) (s : Text) : Stops p (s.dropWhile p) := by
  intro c hc
  cases hrest : s.dropWhile p with
  | nil => simp [hrest] at hc
  | cons d rest =>
    have hd : p d = false := by
      have := List.head_dropWhile_not p (l := s) (by simp [hrest])
      simpa [hrest] using this
    have hcd : d = c := by simpa [hrest] using hc
    exact hcd ▸ hd

/-- Every character of the longest run is of the class. -/
theorem of_mem_takeWhile {s : Text} {c : Char} (hc : c ∈ s.takeWhile p) : p c = true :=
  (List.all_eq_true.1 (List.all_takeWhile (p := p) (l := s))) c hc

/-- A text that is one run of a class has only characters of it. -/
theorem of_dropWhile_eq_nil {s : Text} (hs : s.dropWhile p = []) {c : Char} (hc : c ∈ s) :
    p c = true := by
  have hsplit := List.takeWhile_append_dropWhile (p := p) (l := s)
  rw [hs, List.append_nil] at hsplit
  rw [← hsplit] at hc
  exact of_mem_takeWhile hc

end Text
end DocMarkup
