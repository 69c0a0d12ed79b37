import DocMarkup.Region.Marker

/-!
# Marker lines

What a marker line looks like, as far as the scan for regions relies on it.

Main results:

- Theorem {lit}`MarkerStyle.bracketed?_prefix`: what stands between the brackets of a comment begins
  where the text behind the opening bracket begins.
- Theorem {lit}`MarkerStyle.isEnd_eq_false`: a start line is no end line, in both styles.
-/

namespace DocMarkup
namespace MarkerStyle

open Text

/-- The body of a bracketed comment begins where the text behind the opening bracket begins. -/
theorem bracketed?_prefix {s body : Text} (hbody : bracketed? s = some body) : body <+: s := by
  simp only [bracketed?, Option.bind_eq_bind, Option.bind_eq_some_iff] at hbody
  rcases hbody with ⟨inner, hinner, hmatch⟩
  generalize hline : (if s.getLast? = some '\n' then s.dropLast else s) = line at hinner
  have hprefix : line <+: s := by
    rw [← hline]
    split
    · exact List.dropLast_prefix s
    · exact List.prefix_refl s
  split at hmatch
  · next rest hdrop =>
    split at hmatch
    · simp at hmatch
    · have hrev : rest.reverse = body := by simpa using hmatch
      have hsuffix : rest <:+ line.reverse := by
        have hcons : '>' :: rest <:+ inner := hdrop ▸ List.dropWhile_suffix _
        have hinnerSuffix : inner <:+ line.reverse :=
          ⟨_, (after?_eq_some_iff.1 hinner).symm⟩
        exact ((List.suffix_cons _ _).trans hcons).trans hinnerSuffix
      have hbodyPrefix : body <+: line := by
        rw [← hrev]
        simpa using List.reverse_prefix.2 hsuffix
      exact hbodyPrefix.trans hprefix
  · simp at hmatch

/-- No line opens a region with one directive and closes one with another. -/
theorem directiveRest?_disjoint {line : Text}
    (hstart : (directiveRest? "#region".toList line).isSome) :
    directiveRest? "#endregion".toList line = none := by
  rcases Option.isSome_iff_exists.1 hstart with ⟨_, hstart⟩
  simp only [directiveRest?, Option.bind_eq_bind, Option.bind_eq_some_iff] at hstart
  rcases hstart with ⟨rest, hrest, _⟩
  have hline : trimStart line = "#region".toList ++ rest := after?_eq_some_iff.1 hrest
  have hend : after? "#endregion".toList (trimStart line) = none := by
    rw [hline]
    rfl
  rw [directiveRest?, hend]
  rfl

/-- A start line is no end line. -/
theorem isEnd_eq_false {style : MarkerStyle} {line : Text}
    (hstart : (style.startName? line).isSome) : style.isEnd line = false := by
  cases style with
  | directive =>
    have hrest : (directiveRest? "#region".toList line).isSome := by
      simpa [startName?] using hstart
    rw [isEnd, directiveRest?_disjoint hrest]
    rfl
  | comment =>
    rcases Option.isSome_iff_exists.1 hstart with ⟨name, hname⟩
    simp only [startName?, Option.bind_eq_bind, Option.bind_eq_some_iff] at hname
    rcases hname with ⟨body, ⟨rest, hrest, hbody⟩, hmatch⟩
    rcases bracketed?_prefix hbody with ⟨tail, htail⟩
    split at hmatch
    · simp at hmatch
    · next c body =>
      split at hmatch
      · simp at hmatch
      · next hc =>
        have hslash : '/' ≠ c := fun h => hc (Or.inl h.symm)
        have hafter : after? ['/'] rest = none := by
          rw [← htail]
          simp [after?, hslash]
        simp [isEnd, hrest, hafter]

end MarkerStyle
end DocMarkup
