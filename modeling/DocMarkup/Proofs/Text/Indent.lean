import DocMarkup.Proofs.Text.Run
import DocMarkup.Text.Indent

/-!
# Lines that are indented further

Blanks in front of a line change neither whether it is blank nor what stands behind its indentation.
When all lines are indented further by the same blanks, so is what they have in common, and nothing
of it is left when the common indentation is taken away.

Main results:

- Theorem {lit}`Text.trimStart_append`: blanks in front of a line are trimmed with its own.
- Theorem {lit}`Text.commonIndentation_map_append`: the common indentation of lines that are indented
  further.
- Theorem {lit}`Text.dedent_map_append`: further indentation does not show in dedented lines.
-/

namespace DocMarkup
namespace Text

variable {indent : Text} (hindent : ∀ c ∈ indent, isBlank c = true)

include hindent

/-- Blanks in front of a line are trimmed with its own. -/
theorem trimStart_append (line : Text) : trimStart (indent ++ line) = trimStart line :=
  List.dropWhile_append_of_pos hindent

/-- Blanks in front of a line leave it blank or not. -/
theorem isBlankLine_append (line : Text) : isBlankLine (indent ++ line) = isBlankLine line := by
  unfold isBlankLine
  rw [List.all_append, List.all_eq_true.2 hindent, Bool.true_and]

/-- Blanks in front of a line add to its indentation. -/
theorem indentation_append (line : Text) :
    indentation (indent ++ line) = indent.length + indentation line := by
  unfold indentation
  rw [List.takeWhile_append_of_pos hindent, List.length_append]

/-- The indentations of the lines that are not blank grow by the same width. -/
theorem indentations_map_append (lines : List Text) :
    ((lines.map (indent ++ ·)).filter fun line => !isBlankLine line).map indentation =
      ((lines.filter fun line => !isBlankLine line).map indentation).map (indent.length + ·) := by
  have hblank : ((fun line => !isBlankLine line) ∘ (indent ++ ·)) = fun line => !isBlankLine line := by
    funext line
    simp only [Function.comp_apply, isBlankLine_append hindent]
  have hwidth : indentation ∘ (indent ++ ·) = (indent.length + ·) ∘ indentation := by
    funext line
    exact indentation_append hindent line
  rw [List.filter_map, hblank, List.map_map, List.map_map, hwidth]

omit hindent in
/-- The least of some numbers grows with all of them. -/
theorem min?_map_add (n : Nat) (widths : List Nat) :
    (widths.map (n + ·)).min? = widths.min?.map (n + ·) := by
  cases hleast : widths.min? with
  | none =>
    rw [List.min?_eq_none_iff] at hleast
    rw [hleast]
    rfl
  | some least =>
    rcases List.min?_eq_some_iff.1 hleast with ⟨hmem, hle⟩
    refine List.min?_eq_some_iff.2 ⟨List.mem_map_of_mem hmem, ?_⟩
    intro width hwidth
    rcases List.mem_map.1 hwidth with ⟨own, hown, rfl⟩
    exact Nat.add_le_add_left (hle own hown) n

/-- The common indentation of lines that are indented further, unless all of them are blank. -/
theorem commonIndentation_map_append {lines : List Text} {line : Text} (hmem : line ∈ lines)
    (hline : isBlankLine line = false) :
    commonIndentation (lines.map (indent ++ ·)) = indent.length + commonIndentation lines := by
  unfold commonIndentation
  rw [indentations_map_append hindent, min?_map_add]
  cases hleast : ((lines.filter fun line => !isBlankLine line).map indentation).min? with
  | none =>
    rw [List.min?_eq_none_iff, List.map_eq_nil_iff] at hleast
    have hkept : line ∈ lines.filter fun line => !isBlankLine line :=
      List.mem_filter.2 ⟨hmem, by simp [hline]⟩
    rw [hleast] at hkept
    cases hkept
  | some least => rfl

/-- Further indentation does not show in dedented lines. -/
theorem dedent_map_append (lines : List Text) :
    dedent (lines.map (indent ++ ·)) = dedent lines := by
  unfold dedent
  rw [List.flatMap_map, List.flatMap_def, List.flatMap_def]
  refine congrArg List.flatten (List.map_congr_left fun line hmem => ?_)
  unfold dedentLine
  rw [isBlankLine_append hindent]
  cases hline : isBlankLine line with
  | true => rfl
  | false =>
    -- a line that is not blank has the further indentation cut off with its own
    rw [commonIndentation_map_append hindent hmem hline, List.drop_append]
    simp

end Text
end DocMarkup
