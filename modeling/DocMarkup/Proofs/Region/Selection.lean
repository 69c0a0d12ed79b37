import DocMarkup.Proofs.Region.Marker
import DocMarkup.Region.Extract

/-!
# The lines of a region

Extraction walks over the lines with a depth. Here the region that it selects is described by
indices alone: it begins behind the first start line of its name, and it ends where, counted from
there, the end lines outnumber the start lines for the first time.

Main definitions:

- {lit}`Region.startIndex?`: the index of the first start line of a name.
- {lit}`Region.endIndex`: the index of the line at which the region that begins at an index is
  over, or the number of lines.
- {lit}`Region.between`: the lines between these two.

Main results:

- Theorem {lit}`Region.captured_eq_take_filter`: the walk at some depth takes the lines up to the
  first excess of end lines over that depth, without the end lines.
- Theorem {lit}`Region.extract_eq_between`: extraction gives the lines between the two indices,
  without the end lines and dedented; without a start line it gives nothing and one notice.
-/

namespace DocMarkup
namespace Region

/-! ## Balance -/

/-- The number of start lines, whatever their names. -/
def starts (style : MarkerStyle) (lines : List Text) : Nat :=
  lines.countP fun line => (style.startName? line).isSome

/-- The number of end lines. -/
def ends (style : MarkerStyle) (lines : List Text) : Nat := lines.countP style.isEnd

/-- The index at which the end lines first outnumber the start lines and `depth` more, or the number
of lines. -/
def firstExcess (style : MarkerStyle) (depth : Nat) (lines : List Text) : Nat :=
  ((List.range lines.length).find? fun j =>
    decide (starts style (lines.take (j + 1)) + depth < ends style (lines.take (j + 1)))).getD
      lines.length

/-- A start line raises the number of start lines by one. -/
theorem starts_cons_start {style : MarkerStyle} {line : Text} (lines : List Text)
    (hstart : (style.startName? line).isSome) :
    starts style (line :: lines) = starts style lines + 1 :=
  List.countP_cons_of_pos hstart

/-- Any other line leaves the number of start lines. -/
theorem starts_cons_other {style : MarkerStyle} {line : Text} (lines : List Text)
    (hstart : ¬(style.startName? line).isSome) :
    starts style (line :: lines) = starts style lines :=
  List.countP_cons_of_neg hstart

/-- An end line raises the number of end lines by one. -/
theorem ends_cons_end {style : MarkerStyle} {line : Text} (lines : List Text)
    (hend : style.isEnd line = true) : ends style (line :: lines) = ends style lines + 1 :=
  List.countP_cons_of_pos hend

/-- Any other line leaves the number of end lines. -/
theorem ends_cons_other {style : MarkerStyle} {line : Text} (lines : List Text)
    (hend : style.isEnd line = false) : ends style (line :: lines) = ends style lines :=
  List.countP_cons_of_neg (by simp [hend])

/-- The first excess is met at the first line, or it is the first excess of the remaining lines for
the depth behind the first line. -/
theorem firstExcess_cons {style : MarkerStyle} {depth depth' : Nat} {line : Text}
    {lines : List Text}
    (hfirst : ¬starts style [line] + depth < ends style [line])
    (hdepth : ∀ taken : List Text, starts style (line :: taken) + depth < ends style (line :: taken)
      ↔ starts style taken + depth' < ends style taken) :
    firstExcess style depth (line :: lines) = firstExcess style depth' lines + 1 := by
  unfold firstExcess
  rw [List.length_cons, List.range_succ_eq_map, List.find?_cons_of_neg (by simpa using hfirst),
    List.find?_map]
  have hsame : ((fun j => decide (starts style ((line :: lines).take (j + 1)) + depth <
        ends style ((line :: lines).take (j + 1)))) ∘ Nat.succ) =
      fun j => decide (starts style (lines.take (j + 1)) + depth' <
        ends style (lines.take (j + 1))) := by
    funext j
    simp only [Function.comp_apply, List.take_succ_cons]
    exact decide_eq_decide.2 (hdepth (lines.take (j + 1)))
  rw [hsame]
  cases (List.range lines.length).find? _ <;> rfl

/-- An end line that no open region answers is an excess at once. -/
theorem firstExcess_of_end {style : MarkerStyle} {line : Text} (lines : List Text)
    (hstart : ¬(style.startName? line).isSome) (hend : style.isEnd line = true) :
    firstExcess style 0 (line :: lines) = 0 := by
  have hnow : starts style [line] + 0 < ends style [line] := by
    rw [starts_cons_other [] hstart, ends_cons_end [] hend]
    simp [starts]
  unfold firstExcess
  rw [List.length_cons, List.range_succ_eq_map, List.find?_cons_of_pos (by simpa using hnow)]
  rfl

/-! ## The walk over the lines -/

/-- A start line is taken and opens one more region. -/
theorem captured_start {style : MarkerStyle} {line : Text} (depth : Nat) (lines : List Text)
    (hstart : (style.startName? line).isSome) :
    captured style depth (line :: lines) = line :: captured style (depth + 1) lines := by
  cases depth <;> simp [captured, hstart]

/-- A line that is no marker is taken. -/
theorem captured_other {style : MarkerStyle} {line : Text} (depth : Nat) (lines : List Text)
    (hstart : ¬(style.startName? line).isSome) (hend : style.isEnd line = false) :
    captured style depth (line :: lines) = line :: captured style depth lines := by
  cases depth <;> simp [captured, hstart, hend]

/-- An end line closes the innermost open region. -/
theorem captured_end {style : MarkerStyle} {line : Text} (depth : Nat) (lines : List Text)
    (hstart : ¬(style.startName? line).isSome) (hend : style.isEnd line = true) :
    captured style (depth + 1) (line :: lines) = captured style depth lines := by
  simp [captured, hstart, hend]

/-- An end line with no open region before it ends the walk. -/
theorem captured_close {style : MarkerStyle} {line : Text} (lines : List Text)
    (hstart : ¬(style.startName? line).isSome) (hend : style.isEnd line = true) :
    captured style 0 (line :: lines) = [] := by
  simp [captured, hstart, hend]

/-- The walk takes the lines in front of the first excess over the open regions, and of them those
that are no end lines. -/
theorem captured_eq_take_filter (style : MarkerStyle) (depth : Nat) (lines : List Text) :
    captured style depth lines =
      (lines.take (firstExcess style depth lines)).filter fun line => !style.isEnd line := by
  -- the depth of the walk is the number of end lines that are still to be answered
  induction lines generalizing depth with
  | nil => simp [captured]
  | cons line lines ih =>
    by_cases hstart : (style.startName? line).isSome
    · have hend : style.isEnd line = false := MarkerStyle.isEnd_eq_false hstart
      have hnext : firstExcess style depth (line :: lines) =
          firstExcess style (depth + 1) lines + 1 := by
        apply firstExcess_cons
        · rw [ends_cons_other [] hend]
          simp [ends]
        · intro taken
          rw [starts_cons_start taken hstart, ends_cons_other taken hend]
          omega
      rw [captured_start depth lines hstart, ih (depth + 1), hnext, List.take_succ_cons]
      simp [hend]
    · cases hend : style.isEnd line with
      | false =>
        have hnext : firstExcess style depth (line :: lines) =
            firstExcess style depth lines + 1 := by
          apply firstExcess_cons
          · rw [ends_cons_other [] hend]
            simp [ends]
          · intro taken
            rw [starts_cons_other taken hstart, ends_cons_other taken hend]
        rw [captured_other depth lines hstart hend, ih depth, hnext, List.take_succ_cons]
        simp [hend]
      | true =>
        cases depth with
        | zero =>
          rw [captured_close lines hstart hend, firstExcess_of_end lines hstart hend]
          rfl
        | succ depth =>
          have hnext : firstExcess style (depth + 1) (line :: lines) =
              firstExcess style depth lines + 1 := by
            apply firstExcess_cons
            · rw [ends_cons_end [] hend]
              simp [ends]
            · intro taken
              rw [starts_cons_other taken hstart, ends_cons_end taken hend]
              omega
          rw [captured_end depth lines hstart hend, ih depth, hnext, List.take_succ_cons]
          simp [hend]

/-! ## The region by its indices -/

/-- The index of the first start line of a name. -/
def startIndex? (style : MarkerStyle) (name : Text) (lines : List Text) : Option Nat :=
  lines.findIdx? fun line => style.startName? line == some name

/-- The lines with the indices from behind `i` up to and with `j`. -/
def window (lines : List Text) (i j : Nat) : List Text := (lines.take (j + 1)).drop (i + 1)

/-- The first index behind `i` up to which there are more end lines than start lines, counted from
behind `i`; the number of lines when there is none. -/
def endIndex (style : MarkerStyle) (lines : List Text) (i : Nat) : Nat :=
  ((List.range lines.length).find? fun j =>
    decide (i < j ∧ starts style (window lines i j) < ends style (window lines i j))).getD
      lines.length

/-- The lines strictly between two indices. -/
def between (lines : List Text) (i j : Nat) : List Text := (lines.take j).drop (i + 1)

/-- The search for the first start line of a name stops behind the line at its index. -/
theorem afterStart?_eq_drop (style : MarkerStyle) (name : Text) (lines : List Text) :
    afterStart? style name lines =
      (startIndex? style name lines).map fun i => lines.drop (i + 1) := by
  induction lines with
  | nil => rfl
  | cons line lines ih =>
    by_cases hname : style.startName? line = some name
    · simp [afterStart?, startIndex?, List.findIdx?_cons, hname]
    · have hrest : startIndex? style name (line :: lines) =
          (startIndex? style name lines).map (· + 1) := by
        simp [startIndex?, List.findIdx?_cons, hname]
      rw [afterStart?, if_neg hname, ih, hrest, Option.map_map]
      rfl

/-- The search finds no start line of a name when no line is one. -/
theorem afterStart?_eq_none_iff {style : MarkerStyle} {name : Text} {lines : List Text} :
    afterStart? style name lines = none ↔ ∀ line ∈ lines, style.startName? line ≠ some name := by
  rw [afterStart?_eq_drop, Option.map_eq_none_iff, startIndex?, List.findIdx?_eq_none_iff]
  simp only [beq_eq_false_iff_ne]

/-- Counted from behind a line, the first excess is the end of the region that begins there. -/
theorem endIndex_eq_firstExcess (style : MarkerStyle) {lines : List Text} {i : Nat}
    (hi : i < lines.length) :
    endIndex style lines i = firstExcess style 0 (lines.drop (i + 1)) + (i + 1) := by
  unfold endIndex firstExcess
  have hlength : lines.length = (i + 1) + (lines.length - (i + 1)) := by omega
  have hfront : (List.range (i + 1)).find? (fun j => decide (i < j ∧
      starts style (window lines i j) < ends style (window lines i j))) = none := by
    rw [List.find?_eq_none]
    intro j hj
    have : j < i + 1 := List.mem_range.1 hj
    simp
    omega
  have hsame : ((fun j => decide (i < j ∧
        starts style (window lines i j) < ends style (window lines i j))) ∘ (i + 1 + ·)) =
      fun j => decide (starts style ((lines.drop (i + 1)).take (j + 1)) + 0 <
        ends style ((lines.drop (i + 1)).take (j + 1))) := by
    funext j
    have hwindow : window lines i (i + 1 + j) = (lines.drop (i + 1)).take (j + 1) := by
      rw [window, List.drop_take]
      congr 1
      omega
    have hlt : i < i + 1 + j := by omega
    simp [hwindow, hlt]
  have hrange : List.range lines.length = List.range (i + 1) ++
      (List.range (lines.length - (i + 1))).map (i + 1 + ·) := by
    rw [← List.range_add, ← hlength]
  rw [hrange, List.find?_append, hfront, Option.none_or, List.find?_map, hsame, List.length_drop]
  cases (List.range (lines.length - (i + 1))).find? _ with
  | none => simp; omega
  | some j => simp; omega

/-- The lines strictly between the start line and the end of its region are those in front of the
first excess behind the start line. -/
theorem between_endIndex (style : MarkerStyle) {lines : List Text} {i : Nat}
    (hi : i < lines.length) :
    between lines i (endIndex style lines i) =
      (lines.drop (i + 1)).take (firstExcess style 0 (lines.drop (i + 1))) := by
  rw [between, List.drop_take, endIndex_eq_firstExcess style hi]
  congr 1
  omega

/-- A region is the lines between its first start line and the line where the end lines outnumber
the start lines behind it, without end lines and dedented, and no notice is given. Where no line
begins the region, the answer is empty, with one notice that names it. -/
theorem extract_eq_between {ε : Type} (source name code : Text) (hname : name ≠ []) :
    (extract source (some name) code : Recorded ε Text) =
      let style := MarkerStyle.forSource source
      let lines := Text.lines code
      match startIndex? style name lines with
      | none => ⟨⟨[], [.regionMissing name source]⟩, .ok []⟩
      | some i =>
        ⟨.nil, .ok (Text.dedent
          ((between lines i (endIndex style lines i)).filter fun line => !style.isEnd line))⟩ := by
  cases name with
  | nil => exact absurd rfl hname
  | cons c name =>
    simp only [extract]
    rw [afterStart?_eq_drop]
    cases hstart : startIndex? (MarkerStyle.forSource source) (c :: name) (Text.lines code) with
    | none => rfl
    | some i =>
      have hi : i < (Text.lines code).length := by
        rcases List.findIdx?_eq_some_iff_getElem.1 hstart with ⟨hlt, _⟩
        exact hlt
      simp only [Option.map_some]
      rw [captured_eq_take_filter, between_endIndex _ hi]
      rfl

/-- A region that is opened again inside itself behind an end line that answers nothing. -/
theorem extract_eq_between_nested :
    "R".toList ≠ [] ∧
      (extract "a.cs".toList (some "R".toList)
        "#endregion\n#region R\n  x\n #region R\n#endregion\n  y\n#endregion\nz".toList :
          Recorded Unit Text) =
        ⟨.nil, .ok " x\n#region R\n y\n".toList⟩ := by
  have hname : "R".toList ≠ [] := by decide
  refine ⟨hname, ?_⟩
  rw [extract_eq_between _ _ _ hname]
  rfl

end Region
end DocMarkup
