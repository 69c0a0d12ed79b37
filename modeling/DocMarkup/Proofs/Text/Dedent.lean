import DocMarkup.Proofs.Text.Lines
import DocMarkup.Text.Indent

/-!
# Dedented lines

Taking the common indentation away gives one terminated line for each line, in order. So of lines
without breaks, dedented text has no carriage return, as many line feeds as lines, and a line feed at
its end unless it is empty.

Main definitions:

- {lit}`Text.dedentedLine`: a line without some of its indentation.

Main results:

- Theorem {lit}`Text.dedent_eq_terminated`: dedented text is terminated lines.
- Theorem {lit}`Text.dedent_breaks`: the breaks of dedented text.
-/

namespace DocMarkup
namespace Text

variable {lines : List Text}

/-! ## Terminated lines -/

/-- Terminated lines hold as many line feeds as there are lines. -/
theorem count_terminated (hlines : ∀ line ∈ lines, IsLine line) :
    (terminated lines).count '\n' = lines.length := by
  induction lines with
  | nil => rfl
  | cons line lines ih =>
    rcases List.forall_mem_cons.1 hlines with ⟨hline, hlines⟩
    have hnone : line.count '\n' = 0 := by
      refine List.count_eq_zero.2 fun hfeed => ?_
      simpa [isCodeBreak] using hline '\n' hfeed
    have hrest : (terminated lines).count '\n' = lines.length := ih hlines
    simp only [terminated, List.flatMap_cons, List.count_append, hnone] at hrest ⊢
    simp [hrest, Nat.add_comm]

/-- Terminated lines hold no carriage return. -/
theorem return_not_mem_terminated (hlines : ∀ line ∈ lines, IsLine line) :
    '\r' ∉ terminated lines := by
  intro hreturn
  rcases List.mem_flatMap.1 hreturn with ⟨line, hline, hmem⟩
  rcases List.mem_append.1 hmem with hmem | hmem
  · simpa [isCodeBreak] using hlines line hline '\r' hmem
  · simp at hmem

/-- Terminated lines end in a line feed, unless there are none. -/
theorem getLast?_terminated (hlines : lines ≠ []) : (terminated lines).getLast? = some '\n' := by
  induction lines with
  | nil => exact absurd rfl hlines
  | cons line lines ih =>
    have hsplit : terminated (line :: lines) = line ++ ['\n'] ++ terminated lines := rfl
    cases lines with
    | nil => simp [terminated]
    | cons next lines => rw [hsplit, List.getLast?_append, ih (by simp), Option.some_or]

/-! ## Dedented lines -/

/-- A line without its first `width` characters; a blank line is empty. -/
def dedentedLine (width : Nat) (line : Text) : Text :=
  if isBlankLine line then [] else line.drop width

/-- A line stays a line when some of its indentation is taken away. -/
theorem IsLine.dedentedLine {line : Text} (hline : IsLine line) (width : Nat) :
    IsLine (dedentedLine width line) := by
  unfold Text.dedentedLine
  split
  · simp [IsLine]
  · exact fun c hc => hline c (List.mem_of_mem_drop hc)

/-- Dedented text is terminated lines, one for each line. -/
theorem dedent_eq_terminated (lines : List Text) :
    dedent lines = terminated (lines.map (dedentedLine (commonIndentation lines))) := by
  unfold dedent terminated
  rw [List.flatMap_map]
  congr 1
  funext line
  unfold dedentLine dedentedLine
  split <;> rfl

/-- Of lines without breaks, dedented text has one line feed a line, the last one at its end, and no
carriage return. -/
theorem dedent_breaks (hlines : ∀ line ∈ lines, IsLine line) :
    '\r' ∉ dedent lines ∧ (dedent lines = [] ∨ (dedent lines).getLast? = some '\n') ∧
      (dedent lines).count '\n' = lines.length := by
  have hdedented : ∀ line ∈ lines.map (dedentedLine (commonIndentation lines)), IsLine line := by
    intro line hline
    rcases List.mem_map.1 hline with ⟨own, hown, rfl⟩
    exact (hlines own hown).dedentedLine _
  rw [dedent_eq_terminated]
  refine ⟨return_not_mem_terminated hdedented, ?_, ?_⟩
  · cases lines with
    | nil => exact .inl rfl
    | cons line lines => exact .inr (getLast?_terminated (by simp))
  · rw [count_terminated hdedented, List.length_map]

end Text
end DocMarkup
