import DocMarkup.Proofs.Text.Lines
import Mathlib.Data.List.Chain

/-!
# Line ends

A line of source code is ended by LF, CR or CRLF, each line in its own way, and the last one perhaps
not at all. Whatever the choice, the same lines are found again, as long as no CR meets the LF of an
empty line behind it: these two would be one break.

Main definitions:

- {lit}`Text.LineEnd`: the breaks that end a line.
- {lit}`Text.Layout`: lines, each with the break that ends it.

Main results:

- Theorem {lit}`Text.lines_append_end`: the first line of a text, ended by any break.
- Theorem {lit}`Text.Layout.lines_text`: the lines of a layout are found again.
- Theorem {lit}`Text.isLine_of_mem_lines`: a line holds no break.
-/

namespace DocMarkup
namespace Text

/-! ## Breaks -/

/-- The breaks that end a line of source code. -/
inductive LineEnd where
  | feed
  | carriageReturn
  | returnFeed
  deriving DecidableEq

/-- A break as written. -/
def LineEnd.text : LineEnd → Text
  | .feed => ['\n']
  | .carriageReturn => ['\r']
  | .returnFeed => ['\r', '\n']

variable {line s : Text}

/-- A line begins with no line feed. -/
theorem IsLine.head?_ne_feed (hline : IsLine line) : line.head? ≠ some '\n' := by
  intro hhead
  have hbreak := hline '\n' (List.mem_of_mem_head? hhead)
  simp [isCodeBreak] at hbreak

/-- A break in front of a text ends an empty line, unless it is a CR that meets an LF. -/
theorem lines_end (lineEnd : LineEnd)
    (hseam : lineEnd = .carriageReturn → s.head? ≠ some '\n') :
    lines (lineEnd.text ++ s) = [] :: lines s := by
  cases lineEnd with
  | feed =>
    have hempty : IsLine [] := by simp [IsLine]
    exact lines_append_feed hempty s
  | returnFeed => simp [lines, LineEnd.text, linesAt]
  | carriageReturn =>
    unfold lines
    simp only [LineEnd.text, List.singleton_append]
    rw [linesAt]
    · simp [isCodeBreak]
    · rintro rest - rfl
      exact hseam rfl rfl

/-- A line that a break ends is the first line. -/
theorem lines_append_end (hline : IsLine line) (lineEnd : LineEnd)
    (hseam : lineEnd = .carriageReturn → s.head? ≠ some '\n') :
    lines (line ++ (lineEnd.text ++ s)) = line :: lines s := by
  induction line with
  | nil => exact lines_end lineEnd hseam
  | cons c line ih =>
    rcases isLine_cons.1 hline with ⟨hc, hline⟩
    rw [List.cons_append, lines_cons hc, ih hline]
    rfl

/-- A line that no break ends is the only line. -/
theorem lines_of_isLine (hline : IsLine line) (hne : line ≠ []) : lines line = [line] := by
  induction line with
  | nil => exact absurd rfl hne
  | cons c line ih =>
    rcases isLine_cons.1 hline with ⟨hc, hline⟩
    rw [lines_cons hc]
    cases line with
    | nil => rfl
    | cons d line =>
      rw [ih hline (by simp)]
      rfl

/-! ## Layouts -/

/-- Lines, each followed by the break that ends it. -/
def ended (lines : List (Text × LineEnd)) : Text := lines.flatMap fun e => e.1 ++ e.2.text

/-- Two ended lines that stay two: the second is no LF alone behind a CR. -/
def StayApart (first second : Text × LineEnd) : Prop :=
  first.2 = .carriageReturn → second ≠ ([], .feed)

instance (first second : Text × LineEnd) : Decidable (StayApart first second) :=
  inferInstanceAs (Decidable (_ → _))

/-- Lines with the breaks that end them, and perhaps a last line that nothing ends. -/
structure Layout where
  ended : List (Text × LineEnd)
  last : Option Text
  isLine : ∀ line ∈ ended.map Prod.fst ++ last.toList, IsLine line
  apart : ended.IsChain StayApart
  last_ne_nil : [] ∉ last

/-- The lines of a layout. -/
def Layout.lines (layout : Layout) : List Text :=
  layout.ended.map Prod.fst ++ layout.last.toList

/-- A layout as written. -/
def Layout.text (layout : Layout) : Text := Text.ended layout.ended ++ layout.last.getD []

/-- What follows a line that a CR ends does not begin with a line feed. -/
theorem head?_ended {first : Text × LineEnd} {rest : List (Text × LineEnd)} {last : Option Text}
    (hisLine : ∀ line ∈ rest.map Prod.fst ++ last.toList, IsLine line)
    (hapart : (first :: rest).IsChain StayApart) (hreturn : first.2 = .carriageReturn) :
    (ended rest ++ last.getD []).head? ≠ some '\n' := by
  cases rest with
  | nil =>
    cases last with
    | none => simp [ended]
    | some line => exact (hisLine line (by simp)).head?_ne_feed
  | cons second rest =>
    rcases second with ⟨line, lineEnd⟩
    have hline : IsLine line := hisLine line (by simp)
    cases line with
    | cons c line =>
      have hhead := hline.head?_ne_feed
      simpa [ended] using hhead
    | nil =>
      have hfeed : lineEnd ≠ .feed := by
        rintro rfl
        exact (List.isChain_cons_cons.1 hapart).1 hreturn rfl
      cases lineEnd <;> simp [ended, LineEnd.text] at hfeed ⊢

/-- Ended lines are found again, with a last line that nothing ends. -/
theorem lines_ended {rest : List (Text × LineEnd)} {last : Option Text}
    (hisLine : ∀ line ∈ rest.map Prod.fst ++ last.toList, IsLine line)
    (hapart : rest.IsChain StayApart) (hlast : [] ∉ last) :
    Text.lines (ended rest ++ last.getD []) = rest.map Prod.fst ++ last.toList := by
  induction rest with
  | nil =>
    cases last with
    | none => rfl
    | some line =>
      have hne : line ≠ [] := by
        rintro rfl
        exact hlast rfl
      exact lines_of_isLine (hisLine line (by simp)) hne
  | cons first rest ih =>
    rcases List.forall_mem_cons.1 hisLine with ⟨hfirst, hrest⟩
    have hsplit : ended (first :: rest) ++ last.getD [] =
        first.1 ++ (first.2.text ++ (ended rest ++ last.getD [])) := by
      simp [ended, List.append_assoc]
    rw [hsplit, lines_append_end hfirst first.2 (head?_ended hrest hapart), ih hrest hapart.tail]
    rfl

/-- The lines of a layout are found again, whatever breaks end them. -/
theorem Layout.lines_text (layout : Layout) : Text.lines layout.text = layout.lines :=
  lines_ended layout.isLine layout.apart layout.last_ne_nil

/-! ## Lines of a text -/

/-- A character in front of some lines leaves them lines, unless it is a break. -/
theorem isLine_of_mem_consLine {c : Char} (hc : isCodeBreak c = false) {rest : List Text}
    (hrest : ∀ line ∈ rest, IsLine line) : ∀ line ∈ consLine c rest, IsLine line := by
  cases rest with
  | nil => simp [consLine, IsLine, hc]
  | cons first rest =>
    rcases List.forall_mem_cons.1 hrest with ⟨hfirst, hrest⟩
    exact List.forall_mem_cons.2 ⟨isLine_cons.2 ⟨hc, hfirst⟩, hrest⟩

/-- The lines of a text hold no breaks. -/
theorem isLine_of_mem_lines (s : Text) : ∀ line ∈ lines s, IsLine line := by
  unfold lines
  induction s using linesAt.induct isCodeBreak with
  | case1 => simp [linesAt]
  | case2 rest ih => simpa [linesAt, IsLine] using ih
  | case3 c rest hpair hbreak ih =>
    rw [linesAt, if_pos hbreak]
    · simpa [IsLine] using ih
    · exact hpair
  | case4 c rest hpair hbreak ih =>
    rw [linesAt, if_neg hbreak]
    · exact isLine_of_mem_consLine (by simpa using hbreak) ih
    · exact hpair

end Text
end DocMarkup
