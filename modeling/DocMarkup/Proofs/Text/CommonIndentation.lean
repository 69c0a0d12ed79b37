import DocMarkup.Proofs.File.Path
import DocMarkup.Proofs.Text.Dedent
import DocMarkup.Proofs.Text.Indent
import Mathlib.Data.List.Forall2

/-!
# What dedenting takes away

From lines that are dedented only blanks are taken, and the same number from each line that is not
blank: what the least indented of them begins with. So lines keep their distances and all their visible
characters, one of them begins with such a character, and there is nothing left to take away.

Main definitions:

- {lit}`Text.Unindented`: a line and what is left of it.
- {lit}`Text.dedentedLines`: the lines without their common indentation.

Main results:

- Theorems {lit}`Text.commonIndentation_le` and {lit}`Text.exists_indentation_eq`: the common
  indentation is the least one.
- Theorem {lit}`Text.forall₂_unindented`: what is left of each line.
- Theorem {lit}`Text.dedentedLines_dedentedLines`: dedented lines have no common indentation.
- Theorem {lit}`Text.dedent_removes_common`: what dedented text consists of.
-/

namespace DocMarkup
namespace Text

variable {lines out : List Text} {line rest : Text} {width : Nat}

/-! ## The least indentation -/

/-- Unless all lines are blank, the common indentation is the least indentation of the others. -/
theorem min?_indentations (hmem : line ∈ lines) (hline : isBlankLine line = false) :
    ((lines.filter fun line => !isBlankLine line).map indentation).min? =
      some (commonIndentation lines) := by
  unfold commonIndentation
  cases hleast : ((lines.filter fun line => !isBlankLine line).map indentation).min? with
  | none =>
    have hkept : line ∈ lines.filter fun line => !isBlankLine line :=
      List.mem_filter.2 ⟨hmem, by simp [hline]⟩
    rw [List.min?_eq_none_iff, List.map_eq_nil_iff] at hleast
    rw [hleast] at hkept
    cases hkept
  | some least => rfl

/-- No line that is not blank has less than the common indentation. -/
theorem commonIndentation_le (hmem : line ∈ lines) (hline : isBlankLine line = false) :
    commonIndentation lines ≤ indentation line := by
  have hkept : line ∈ lines.filter fun line => !isBlankLine line :=
    List.mem_filter.2 ⟨hmem, by simp [hline]⟩
  exact (List.min?_eq_some_iff.1 (min?_indentations hmem hline)).2 _ (List.mem_map_of_mem hkept)

/-- Some line has the common indentation, unless all of them are blank. -/
theorem exists_indentation_eq (h : ∃ line ∈ lines, isBlankLine line = false) :
    ∃ line ∈ lines, isBlankLine line = false ∧ indentation line = commonIndentation lines := by
  rcases h with ⟨line, hmem, hline⟩
  have hleast := (List.min?_eq_some_iff.1 (min?_indentations hmem hline)).1
  rcases List.mem_map.1 hleast with ⟨other, hother, hwidth⟩
  rcases List.mem_filter.1 hother with ⟨hother, hvisible⟩
  exact ⟨other, hother, by simpa using hvisible, hwidth⟩

/-- Blank lines share no indentation. -/
theorem commonIndentation_of_blank (h : ∀ line ∈ lines, isBlankLine line = true) :
    commonIndentation lines = 0 := by
  have hnone : (lines.filter fun line => !isBlankLine line) = [] := by
    rw [List.filter_eq_nil_iff]
    intro line hline
    simp [h line hline]
  unfold commonIndentation
  rw [hnone]
  rfl

/-! ## What is left of a line -/

/-- A line and what is left of it: nothing of a blank one, and of any other all but the first `width`
characters, which are blanks. -/
inductive Unindented (width : Nat) : Text → Text → Prop
  | blank {line : Text} (hline : isBlankLine line = true) : Unindented width line []
  | indented {indent rest : Text} (hwidth : indent.length = width)
    (hindent : ∀ c ∈ indent, isBlank c = true) (hrest : isBlankLine rest = false) :
    Unindented width (indent ++ rest) rest

/-- Taking indentation away leaves the rest of the line. -/
theorem unindented_dedentedLine (h : isBlankLine line = false → width ≤ indentation line) :
    Unindented width line (dedentedLine width line) := by
  unfold dedentedLine
  cases hline : isBlankLine line with
  | true => exact .blank hline
  | false =>
    have hwidth : width ≤ (line.takeWhile isBlank).length := h hline
    have hlength : (line.take width).length = width := by
      rw [List.length_take]
      exact Nat.min_eq_left (Nat.le_trans hwidth (List.takeWhile_prefix _).length_le)
    have hblanks : line.take width <+: line.takeWhile isBlank :=
      List.prefix_of_prefix_length_le (List.take_prefix ..) (List.takeWhile_prefix _)
        (Nat.le_trans (Nat.le_of_eq hlength) hwidth)
    have hindent : ∀ c ∈ line.take width, isBlank c = true :=
      fun c hc => of_mem_takeWhile (hblanks.subset hc)
    have hsplit : line.take width ++ line.drop width = line := List.take_append_drop width line
    have hrest : isBlankLine (line.drop width) = false := by
      rw [← hline, ← isBlankLine_append hindent, hsplit]
    have hleft : Unindented width (line.take width ++ line.drop width) (line.drop width) :=
      .indented hlength hindent hrest
    rwa [hsplit] at hleft

/-- A line ends in what is left of it. -/
theorem Unindented.suffix (h : Unindented width line rest) : rest <:+ line := by
  cases h with
  | blank => exact List.nil_suffix
  | indented => exact List.suffix_append ..

/-- Of a line that is not blank, exactly the width is taken away. -/
theorem Unindented.indentation_eq (h : Unindented width line rest) (hline : isBlankLine line = false) :
    indentation line = width + indentation rest := by
  cases h with
  | blank hblank => exact absurd (hline.symm.trans hblank) (by decide)
  | indented hwidth hindent _ => rw [indentation_append hindent, hwidth]

/-- What is left of a line is blank if the line is. -/
theorem Unindented.isBlankLine_eq (h : Unindented width line rest) :
    isBlankLine rest = isBlankLine line := by
  cases h with
  | blank hblank => exact hblank.symm
  | indented _ hindent _ => exact (isBlankLine_append hindent rest).symm

/-- What is left of a line is empty or not blank. -/
theorem Unindented.eq_nil (h : Unindented width line rest) (hrest : isBlankLine rest = true) :
    rest = [] := by
  cases h with
  | blank => rfl
  | indented _ _ hvisible => exact absurd (hrest.symm.trans hvisible) (by decide)

/-- The visible characters of a text. -/
def visible (s : Text) : Text := s.filter fun c => !isBlank c

/-- Blanks are not visible. -/
theorem visible_of_blank {s : Text} (hs : ∀ c ∈ s, isBlank c = true) : visible s = [] := by
  unfold visible
  rw [List.filter_eq_nil_iff]
  intro c hc
  simp [hs c hc]

theorem visible_append (s t : Text) : visible (s ++ t) = visible s ++ visible t :=
  List.filter_append ..

/-- No visible character of a line is lost. -/
theorem Unindented.visible_eq (h : Unindented width line rest) : visible rest = visible line := by
  cases h with
  | blank hblank => exact (visible_of_blank (List.all_eq_true.1 hblank)).symm
  | indented _ hindent _ => rw [visible_append, visible_of_blank hindent, List.nil_append]

/-! ## What is left of a text -/

/-- The lines without their common indentation. -/
def dedentedLines (lines : List Text) : List Text :=
  lines.map (dedentedLine (commonIndentation lines))

/-- What is left of a line stands behind the common indentation. -/
theorem unindented_of_mem (hmem : line ∈ lines) :
    Unindented (commonIndentation lines) line (dedentedLine (commonIndentation lines) line) :=
  unindented_dedentedLine (commonIndentation_le hmem)

/-- The lines that are left are what is left of each line, in order. -/
theorem forall₂_unindented (lines : List Text) :
    List.Forall₂ (Unindented (commonIndentation lines)) lines (dedentedLines lines) := by
  unfold dedentedLines
  rw [List.forall₂_map_right_iff, List.forall₂_same]
  exact fun line hmem => unindented_of_mem hmem

/-- Visible characters are neither lost nor moved. -/
theorem visible_terminated (h : List.Forall₂ (Unindented width) lines out) :
    visible (terminated out) = visible lines.flatten := by
  induction h with
  | nil => rfl
  | cons hline _ ih =>
    have hfeed : visible ['\n'] = [] := by decide
    rw [terminated, List.flatMap_cons, List.flatten_cons, visible_append, visible_append,
      visible_append, hline.visible_eq, hfeed, List.append_nil]
    exact congrArg (visible _ ++ ·) ih

/-- One of the lines that are left is not indented, unless all lines are blank. -/
theorem exists_unindented (h : ∃ line ∈ lines, isBlankLine line = false) :
    ∃ rest ∈ dedentedLines lines, isBlankLine rest = false ∧ indentation rest = 0 := by
  rcases exists_indentation_eq h with ⟨line, hmem, hline, hwidth⟩
  have hleft := unindented_of_mem hmem
  have hsum := hleft.indentation_eq hline
  refine ⟨_, List.mem_map_of_mem hmem, hleft.isBlankLine_eq.trans hline, ?_⟩
  omega

/-- A line that is neither blank nor indented begins with a visible character. -/
theorem exists_cons_of_indentation (hline : isBlankLine line = false)
    (hwidth : indentation line = 0) : ∃ c rest, line = c :: rest ∧ isBlank c = false := by
  cases line with
  | nil => cases hline
  | cons c rest =>
    refine ⟨c, rest, rfl, ?_⟩
    cases hc : isBlank c with
    | false => rfl
    | true => simp [indentation, hc] at hwidth

/-- Lines that are left have no common indentation. -/
theorem commonIndentation_dedentedLines (lines : List Text) :
    commonIndentation (dedentedLines lines) = 0 := by
  by_cases h : ∃ line ∈ lines, isBlankLine line = false
  · rcases exists_unindented h with ⟨rest, hmem, hrest, hwidth⟩
    exact Nat.le_zero.1 (hwidth ▸ commonIndentation_le hmem hrest)
  · refine commonIndentation_of_blank fun rest hrest => ?_
    rcases List.mem_map.1 hrest with ⟨line, hmem, rfl⟩
    rw [(unindented_of_mem hmem).isBlankLine_eq]
    cases hline : isBlankLine line with
    | true => rfl
    | false => exact absurd ⟨line, hmem, hline⟩ h

/-- Nothing is left to be taken away. -/
theorem dedentedLines_dedentedLines (lines : List Text) :
    dedentedLines (dedentedLines lines) = dedentedLines lines := by
  have hkept : ∀ rest ∈ dedentedLines lines, dedentedLine 0 rest = rest := by
    intro rest hrest
    rcases List.mem_map.1 hrest with ⟨line, hmem, rfl⟩
    have hleft := unindented_of_mem hmem
    cases hblank : isBlankLine (dedentedLine (commonIndentation lines) line) with
    | true =>
      rw [hleft.eq_nil hblank]
      rfl
    | false =>
      rw [dedentedLine, hblank]
      rfl
  rw [dedentedLines, commonIndentation_dedentedLines, List.map_congr_left hkept, List.map_id']

/-- Lines that line feeds end are found again, with nothing behind the last line feed. -/
theorem cutAt_terminated (hlines : ∀ line ∈ lines, '\n' ∉ line) :
    Path.cutAt '\n' (terminated lines) = lines ++ [[]] := by
  induction lines with
  | nil => rfl
  | cons line lines ih =>
    rcases List.forall_mem_cons.1 hlines with ⟨hline, hlines⟩
    have hsplit : terminated (line :: lines) = line ++ '\n' :: terminated lines := by
      simp [terminated]
    rw [hsplit, Path.cutAt_append, Path.cutAt_of_not_mem hline, ih hlines]
    rfl

/-- Lines without line feeds are dedented to as many lines, each ended by a line feed: of a blank line
nothing is left, of any other all but its first characters, which are blanks. These are as many as the
least indented of the other lines begins with; so no visible character is lost, the indentations keep
their differences, some line begins with a visible character, and dedenting these lines again gives the
same text. -/
theorem dedent_removes_common (hlines : ∀ line ∈ lines, '\n' ∉ line) :
    ∃ width out,
      Path.cutAt '\n' (dedent lines) = out ++ [[]] ∧
      List.Forall₂ (Unindented width) lines out ∧
      visible (dedent lines) = visible lines.flatten ∧
      List.Forall₂ (fun line rest => isBlankLine line = false →
        indentation line = width + indentation rest) lines out ∧
      ((∃ line ∈ lines, isBlankLine line = false) →
        (∃ line ∈ lines, isBlankLine line = false ∧ indentation line = width) ∧
        (∀ line ∈ lines, isBlankLine line = false → width ≤ indentation line) ∧
        ∃ c rest, c :: rest ∈ out ∧ isBlank c = false) ∧
      dedent out = dedent lines := by
  have hleft := forall₂_unindented lines
  have hout : ∀ rest ∈ dedentedLines lines, '\n' ∉ rest := by
    intro rest hrest
    rcases List.mem_map.1 hrest with ⟨line, hmem, rfl⟩
    exact fun hfeed => hlines line hmem ((unindented_of_mem hmem).suffix.subset hfeed)
  have hdedent : dedent lines = terminated (dedentedLines lines) := dedent_eq_terminated lines
  refine ⟨commonIndentation lines, dedentedLines lines, ?_, hleft, ?_, ?_, fun h => ⟨?_, ?_, ?_⟩, ?_⟩
  · rw [hdedent, cutAt_terminated hout]
  · rw [hdedent, visible_terminated hleft]
  · exact hleft.imp fun line rest h => h.indentation_eq
  · exact exists_indentation_eq h
  · exact fun line hmem => commonIndentation_le hmem
  · rcases exists_unindented h with ⟨line, hmem, hline, hwidth⟩
    rcases exists_cons_of_indentation hline hwidth with ⟨c, rest, rfl, hc⟩
    exact ⟨c, rest, hmem, hc⟩
  · rw [hdedent, dedent_eq_terminated]
    exact congrArg terminated (dedentedLines_dedentedLines lines)

/-- Blank lines between lines that begin with a tab and an ideographic space, one of which ends in a
carriage return. -/
theorem dedent_removes_common_mixed :
    let lines := ["\t\u3000 a\r".toList, [], " ".toList, "\t\u3000b c".toList, "\r\x85".toList]
    (∀ line ∈ lines, '\n' ∉ line) ∧ dedent lines = " a\r\n\n\nb c\n\n".toList ∧
      ∃ width out, Path.cutAt '\n' (dedent lines) = out ++ [[]] ∧
        List.Forall₂ (Unindented width) lines out ∧ dedent out = dedent lines := by
  intro lines
  have hlines : ∀ line ∈ lines, '\n' ∉ line := by decide
  rcases dedent_removes_common hlines with ⟨width, out, hcut, hleft, _, _, _, hagain⟩
  exact ⟨hlines, rfl, width, out, hcut, hleft, hagain⟩

end Text
end DocMarkup
