import DocMarkup.Text.Lines

/-!
# Lines of a text

A text is cut character by character: a break ends an empty line, and what is no break stands in front
of the first line. A line without breaks is found again when a line feed ends it, whatever follows, so
lines that are each ended by a line feed are found again.

Main definitions:

- {lit}`Text.IsLine`: a text without the breaks of source code.
- {lit}`Text.terminated`: lines, each ended by a line feed.

Main results:

- Theorems {lit}`Text.linesAt_cons`, {lit}`Text.linesAt_break`: the first character of a text that is
  cut into lines.
- Theorem {lit}`Text.linesAt_append_feed`: the first line of a text.
- Theorem {lit}`Text.lines_terminated`: terminated lines are found again.
-/

namespace DocMarkup
namespace Text

/-- A text that holds no break of source code. -/
def IsLine (s : Text) : Prop := ∀ c ∈ s, isCodeBreak c = false

instance (s : Text) : Decidable s.IsLine := List.decidableBAll (fun c => isCodeBreak c = false) s

/-- Lines, each ended by a line feed. -/
def terminated (lines : List Text) : Text := lines.flatMap fun line => line ++ ['\n']

variable {line : Text} {c : Char} {isBreak : Char → Bool}

/-! ## Lines of a class of breaks -/

/-- A character that breaks no line stands in front of the first line. -/
theorem linesAt_cons (hc : isBreak c = false) (hreturn : c ≠ '\r') (s : Text) :
    linesAt isBreak (c :: s) = consLine c (linesAt isBreak s) := by
  rw [linesAt]
  · simp [hc]
  · exact fun rest h _ => hreturn h

/-- A break that is no CR ends an empty first line. -/
theorem linesAt_break (hc : isBreak c = true) (hreturn : c ≠ '\r') (s : Text) :
    linesAt isBreak (c :: s) = [] :: linesAt isBreak s := by
  rw [linesAt]
  · simp [hc]
  · exact fun rest h _ => hreturn h

/-- A line that a line feed ends is the first line. -/
theorem linesAt_append_feed (hfeed : isBreak '\n' = true)
    (hline : ∀ c ∈ line, isBreak c = false ∧ c ≠ '\r') (s : Text) :
    linesAt isBreak (line ++ '\n' :: s) = line :: linesAt isBreak s := by
  induction line with
  | nil => exact linesAt_break hfeed (by decide) s
  | cons c line ih =>
    rcases List.forall_mem_cons.1 hline with ⟨⟨hc, hreturn⟩, hline⟩
    rw [List.cons_append, linesAt_cons hc hreturn, ih hline]
    rfl

theorem consLine_ne_nil (c : Char) (lines : List Text) : consLine c lines ≠ [] := by
  cases lines <;> simp [consLine]

/-- Only the empty text has no lines. -/
theorem linesAt_ne_nil {s : Text} (hs : s ≠ []) : linesAt isBreak s ≠ [] := by
  cases s using linesAt.fun_cases isBreak with
  | case1 => exact absurd rfl hs
  | case2 rest => simp [linesAt]
  | case3 c rest hreturn hbreak => simp [linesAt, hbreak]
  | case4 c rest hreturn hbreak =>
    rw [linesAt, if_neg hbreak]
    · exact consLine_ne_nil c _
    · exact hreturn

/-- The first line is what a text begins with. -/
theorem head?_linesAt_prefix (s : Text) : ∀ line ∈ (linesAt isBreak s).head?, line <+: s := by
  induction s using linesAt.induct isBreak with
  | case1 => simp [linesAt]
  | case2 rest ih => simp [linesAt]
  | case3 c rest hreturn hbreak ih => simp [linesAt, hbreak]
  | case4 c rest hreturn hbreak ih =>
    rw [linesAt, if_neg hbreak]
    · cases hlines : linesAt isBreak rest with
      | nil => simp [consLine]
      | cons line lines =>
        simp only [consLine, List.head?_cons, Option.mem_some_iff, forall_eq', List.cons_prefix_cons,
          true_and]
        exact ih line (by rw [hlines]; rfl)
    · exact hreturn

/-- A character of the first line is joined in front of the others. -/
theorem joinLines_consLine (c : Char) (lines : List Text) :
    joinLines (consLine c lines) = c :: joinLines lines := by
  rcases lines with _ | ⟨line, _ | ⟨second, lines⟩⟩
  · rfl
  · rfl
  · simp [joinLines, consLine, List.intercalate_cons_cons]

/-- An empty first line is joined as a line feed. -/
theorem joinLines_nil_cons {lines : List Text} (hlines : lines ≠ []) :
    joinLines ([] :: lines) = '\n' :: joinLines lines := by
  rcases List.exists_cons_of_ne_nil hlines with ⟨line, rest, rfl⟩
  simp [joinLines, List.intercalate_cons_cons]

/-! ## Lines of source code -/

/-- The first character of a line, and the rest of it. -/
theorem isLine_cons : IsLine (c :: line) ↔ isCodeBreak c = false ∧ IsLine line :=
  List.forall_mem_cons

/-- Two lines side by side make one. -/
theorem IsLine.append {other : Text} (hline : IsLine line) (hother : IsLine other) :
    IsLine (line ++ other) := by
  intro c hc
  rcases List.mem_append.1 hc with hc | hc
  · exact hline c hc
  · exact hother c hc

/-- A character that is no break of source code is not CR. -/
theorem ne_return_of_isCodeBreak (hc : isCodeBreak c = false) : c ≠ '\r' := by
  rintro rfl
  cases hc

/-- A character that breaks no line stands in front of the first line. -/
theorem lines_cons (hc : isCodeBreak c = false) (s : Text) : lines (c :: s) = consLine c (lines s) :=
  linesAt_cons hc (ne_return_of_isCodeBreak hc) s

/-- A line that a line feed ends is the first line. -/
theorem lines_append_feed (hline : IsLine line) (s : Text) :
    lines (line ++ '\n' :: s) = line :: lines s :=
  linesAt_append_feed rfl (fun c hc => ⟨hline c hc, ne_return_of_isCodeBreak (hline c hc)⟩) s

/-- Terminated lines are found again. -/
theorem lines_terminated {lines : List Text} (hlines : ∀ line ∈ lines, IsLine line) :
    Text.lines (terminated lines) = lines := by
  induction lines with
  | nil => rfl
  | cons line lines ih =>
    rcases List.forall_mem_cons.1 hlines with ⟨hline, hlines⟩
    have hsplit : terminated (line :: lines) = line ++ '\n' :: terminated lines := by
      simp [terminated]
    rw [hsplit, lines_append_feed hline, ih hlines]

end Text
end DocMarkup
