import DocMarkup.Proofs.Region.Selection
import DocMarkup.Proofs.Trace.Order

/-!
# Missing regions

Beside its text, extraction leaves behind one notice at most: that the region is missing, when the
source is available and none of its lines opens the region that is named.

Main definitions:

- {lit}`Region.NeverOpened`: no line opens a region of a name.
- {lit}`Region.missing?`: the notice about a region that is missing.

Main results:

- Theorem {lit}`Region.discard_extract`: what extraction leaves behind.
- Theorem {lit}`Region.extract_succeeds`: extraction never fails.
-/

namespace DocMarkup
namespace Region

variable {ε : Type}

/-- No line of a source opens a region of a name. -/
def NeverOpened (source name code : Text) : Prop :=
  ∀ line ∈ Text.lines code, (MarkerStyle.forSource source).startName? line ≠ some name

instance (source name code : Text) : Decidable (NeverOpened source name code) :=
  inferInstanceAs (Decidable (∀ line ∈ Text.lines code, _))

/-- The notice about a region that is named and never opened, when the source is available. -/
def missing? (source : Text) (region code? : Option Text) : Option Notice := do
  let code ← code?
  let name ← region.filter (· ≠ [])
  if NeverOpened source name code then some (.regionMissing name source) else none

/-- The notice is about a region of the source. -/
theorem missing?_eq_some {source : Text} {region code? : Option Text} {n : Notice}
    (h : missing? source region code? = some n) : ∃ name, n = .regionMissing name source := by
  simp only [missing?, Option.bind_eq_bind, Option.bind_eq_some_iff] at h
  rcases h with ⟨code, _, name, _, h⟩
  split at h
  · exact ⟨name, (Option.some.inj h).symm⟩
  · cases h

/-- Extraction never fails, and it leaves behind the notice that the region is missing, if it is. -/
theorem discard_extract (source : Text) (region : Option Text) (code : Text) :
    (extract source region code : Recorded ε Text).discard =
      ⟨⟨[], (missing? source region (some code)).toList⟩, .ok ()⟩ := by
  rcases region with _ | _ | ⟨c, name⟩
  · rfl
  · rfl
  · have hmissing : missing? source (some (c :: name)) (some code) =
        if NeverOpened source (c :: name) code then some (.regionMissing (c :: name) source)
        else none := rfl
    rw [hmissing]
    cases hlines : afterStart? (.forSource source) (c :: name) (Text.lines code) with
    | none =>
      have hnever : NeverOpened source (c :: name) code := afterStart?_eq_none_iff.1 hlines
      rw [if_pos hnever]
      simp only [extract, hlines]
      rfl
    | some lines =>
      have hopened : ¬NeverOpened source (c :: name) code := by
        intro hnever
        exact absurd (hlines.symm.trans (afterStart?_eq_none_iff.2 hnever)) (by simp)
      rw [if_neg hopened]
      simp only [extract, hlines]
      rfl

/-- What extraction leaves behind. -/
theorem trace_extract (source : Text) (region : Option Text) (code : Text) :
    (extract source region code : Recorded ε Text).trace =
      ⟨[], (missing? source region (some code)).toList⟩ := by
  rw [← Recorded.trace_discard, discard_extract]

/-- Extraction never fails. -/
theorem extract_succeeds (source : Text) (region : Option Text) (code : Text) :
    ∃ text, (extract source region code : Recorded ε Text).outcome = .ok text :=
  Recorded.succeeds_of_discard (congrArg Recorded.outcome (discard_extract source region code))

end Region
end DocMarkup
