import DocMarkup.Proofs.Xml.Construct

/-!
# Tokens of a text

The tokens of a text are those of its first construct and those of the rest. Two texts side by side
have the tokens of both, unless the end of one and the beginning of the other make a line break or a
closing mark between them.

Main definitions:

- {lit}`Xml.Lexes`: the tokens of a text, construct by construct.
- {lit}`Xml.Meets`: two texts that make nothing new where they meet.

Main results:

- Theorem {lit}`Xml.tokens?_eq_some_iff`: reading within a bound reads every construct.
- Theorem {lit}`Xml.Lexes.isSound`: all that is read is made of sound parts.
- Theorem {lit}`Xml.Lexes.append`: two texts side by side have the tokens of both.
-/

namespace DocMarkup
namespace Xml

variable {rule : CharRule} {s t : Text} {a b : List Token}

/-! ## Construct by construct -/

/-- The tokens of a text, construct by construct. -/
inductive Lexes (rule : CharRule) : Text → List Token → Prop
  | nil : Lexes rule [] []
  | step {s rest : Text} {first others : List Token} (hstep : step? rule s = some (first, rest))
      (hrest : Lexes rule rest others) : Lexes rule s (first ++ others)

/-- A bound that is not exceeded does not matter. -/
theorem Lexes.tokensWithin? (hrule : rule.IsLawful) (h : Lexes rule s a) :
    ∀ fuel, s.length ≤ fuel → Xml.tokensWithin? rule fuel s = some a := by
  induction h with
  | nil => intro fuel _; cases fuel <;> rfl
  | @step s rest first others hstep hrest ih =>
    intro fuel hfuel
    have hlength := step?_length_lt hrule hstep
    cases s with
    | nil => simp at hlength
    | cons c s =>
      cases fuel with
      | zero => simp at hfuel
      | succ fuel =>
        have hothers := ih fuel (by omega)
        simp [Xml.tokensWithin?, hstep, hothers]

/-- What is read within a bound is read construct by construct. -/
theorem lexes_of_tokensWithin? {fuel : Nat} (h : tokensWithin? rule fuel s = some a) :
    Lexes rule s a := by
  induction fuel generalizing s a with
  | zero =>
    cases s with
    | nil =>
      obtain rfl : [] = a := by simpa [tokensWithin?] using h
      exact .nil
    | cons c s => simp [tokensWithin?] at h
  | succ fuel ih =>
    cases s with
    | nil =>
      obtain rfl : [] = a := by simpa [tokensWithin?] using h
      exact .nil
    | cons c s =>
      simp only [tokensWithin?, Option.bind_eq_bind, Option.bind_eq_some_iff, Prod.exists,
        Option.map_eq_map, Option.map_eq_some_iff] at h
      rcases h with ⟨first, rest, hstep, others, hothers, rfl⟩
      exact .step hstep (ih hothers)

/-- The tokens of a text are those that are read construct by construct. -/
theorem tokens?_eq_some_iff (hrule : rule.IsLawful) : tokens? rule s = some a ↔ Lexes rule s a :=
  ⟨lexes_of_tokensWithin?, fun h => h.tokensWithin? hrule s.length (Nat.le_refl _)⟩

/-- Every token that is read is made of sound parts. -/
theorem Lexes.isSound (hrule : rule.IsLawful) (h : Lexes rule s a) : ∀ t ∈ a, t.IsSound rule := by
  induction h with
  | nil => simp
  | step hstep hrest ih =>
    intro t ht
    rcases List.mem_append.1 ht with hfirst | hothers
    · exact (step?_local hrule hstep).1 t hfirst
    · exact ih t hothers

/-! ## Texts side by side -/

/-- Two texts that make nothing new where they meet: no line break of two characters, and no mark
that closes a section. -/
structure Meets (s t : Text) : Prop where
  lineBreak : s.getLast? = some '\r' → t.head? ≠ some '\n'
  close : t.head? ≠ some '>'
  closeRest : ¬[']', '>'] <+: t

/-- A text that does not begin with the rest of a closing mark does not do so with more behind it. -/
theorem not_closeRest_append {rest : Text} (hrest : ¬[']', '>'] <+: rest)
    (hclose : t.head? ≠ some '>') (hcloseRest : ¬[']', '>'] <+: t) :
    ¬[']', '>'] <+: rest ++ t := by
  rintro ⟨more, hmore⟩
  cases rest with
  | nil => exact hcloseRest ⟨more, hmore⟩
  | cons c rest =>
    obtain ⟨rfl, hbehind⟩ : ']' = c ∧ '>' :: more = rest ++ t := by simpa using hmore
    cases rest with
    | nil =>
      obtain rfl : '>' :: more = t := hbehind
      exact hclose rfl
    | cons d rest =>
      obtain ⟨rfl, _⟩ : '>' = d ∧ more = rest ++ t := by simpa using hbehind
      exact hrest ⟨rest, rfl⟩

/-- What follows a construct keeps its seam when more is put behind it. -/
theorem Seam.append {taken rest : Text} (hseam : Seam taken rest)
    (hmeets : Meets (taken ++ rest) t) : Seam taken (rest ++ t) := by
  refine ⟨?_, fun htaken =>
    not_closeRest_append (hseam.2 htaken) hmeets.close hmeets.closeRest⟩
  intro htaken
  cases rest with
  | nil => exact hmeets.lineBreak (by simp [htaken])
  | cons c rest => simpa using hseam.1 htaken

/-- Two texts still meet when the first is cut at its beginning. -/
theorem Meets.of_append {taken rest : Text} (hmeets : Meets (taken ++ rest) t) : Meets rest t where
  lineBreak hlast := hmeets.lineBreak (by
    rw [List.getLast?_append, hlast]
    rfl)
  close := hmeets.close
  closeRest := hmeets.closeRest

/-- Two texts side by side have the tokens of both. -/
theorem Lexes.append (hrule : rule.IsLawful) (hs : Lexes rule s a) (ht : Lexes rule t b)
    (hmeets : Meets s t) : Lexes rule (s ++ t) (a ++ b) := by
  induction hs with
  | nil => exact ht
  | @step s rest first others hstep hrest ih =>
    rcases step?_local hrule hstep with ⟨_, taken, _, rfl, _, hseam, hlocal⟩
    have hstep' := hlocal (rest ++ t) (hseam.append hmeets)
    rw [List.append_assoc, List.append_assoc]
    exact .step hstep' (ih hmeets.of_append)

/-- A line feed behind a carriage return is read on its own or not at all. -/
theorem CharRule.lineEnd_feed (rule : CharRule) :
    ∃ lineBreak, (lineBreak = ['\n'] ∨ lineBreak = []) ∧
      rule.lineEnd ['\r', '\n'] = rule.lineEnd ['\r'] ++ lineBreak := by
  unfold CharRule.lineEnd
  split
  · exact ⟨['\n'], .inl rfl, rfl⟩
  · exact ⟨[], .inr rfl, rfl⟩

/-- Two lines have the tokens of both with a line feed between them, which may be left out when the
first line ends in a carriage return. -/
theorem Lexes.joined (hrule : rule.IsLawful) (hs : Lexes rule s a) (ht : Lexes rule t b) :
    ∃ lineBreak, (lineBreak = ['\n'] ∨ lineBreak = []) ∧
      Lexes rule (s ++ '\n' :: t) (a ++ (charTokens lineBreak ++ b)) := by
  have hfeed : Lexes rule ('\n' :: t) (charTokens ['\n'] ++ b) :=
    .step (by rw [step?_char (by decide) (by decide) (by simp [Seam])]; rfl) ht
  induction hs with
  | nil => exact ⟨['\n'], .inl rfl, hfeed⟩
  | @step s rest first others hstep hrest ih =>
    rcases step?_local hrule hstep with ⟨_, taken, _, rfl, _, hseam, hlocal⟩
    by_cases hlast : taken = ['\r'] ∧ rest = []
    · -- the carriage return at the end and the line feed behind it are one construct
      rcases hlast with ⟨rfl, rfl⟩
      obtain rfl : charTokens (rule.lineEnd ['\r']) = first := by simpa [step?] using hstep
      obtain rfl : others = [] := by
        cases hrest with
        | nil => rfl
        | step hnext _ => simp [step?] at hnext
      rcases rule.lineEnd_feed with ⟨lineBreak, hbreak, hfeedEnd⟩
      refine ⟨lineBreak, hbreak, ?_⟩
      have hjoined := Lexes.step (step?_lineBreak rule t) ht
      rw [hfeedEnd] at hjoined
      simpa [charTokens] using hjoined
    · have hnext : Seam taken (rest ++ '\n' :: t) := by
        refine ⟨?_, fun htaken =>
          not_closeRest_append (hseam.2 htaken) (by simp) (by simp)⟩
        intro htaken
        cases rest with
        | nil => exact absurd ⟨htaken, rfl⟩ hlast
        | cons c rest => simpa using hseam.1 htaken
      rcases ih with ⟨lineBreak, hbreak, hothers⟩
      refine ⟨lineBreak, hbreak, ?_⟩
      rw [List.append_assoc, List.append_assoc]
      exact .step (hlocal _ hnext) hothers

end Xml
end DocMarkup
