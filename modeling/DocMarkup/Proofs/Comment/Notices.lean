import DocMarkup.Proofs.Comment.Related
import DocMarkup.Proofs.Region.Missing

/-!
# Notices of a comment

A comment is built by many questions, but only two things leave notices behind: a source that is
loaded, and a region that is not found in it. So whatever holds of both holds of every notice.

Main definitions:

- {lit}`Resolvers.AreNoted`: whatever a resolver leaves behind satisfies a property.
- {lit}`IsExpected`: a notice about a region, or one that a source leaves behind.

Main results:

- Theorem {lit}`Resolvers.AreNoted.related`: the notices of every question.
- Theorem {lit}`Provider.build_leaves`: the notices of a comment.
-/

namespace DocMarkup

open Recorded (leaves_pure leaves_ask)

variable {ε : Type} {p : Notice → Prop} {r : Resolvers ε}

/-! ## Resolvers -/

/-- Whatever is left behind when a source is loaded and its region looked for satisfies a
property. -/
structure Resolvers.AreNoted (p : Notice → Prop) (r : Resolvers ε) : Prop where
  region : ∀ name id, p (.regionMissing name id)
  source : ∀ load ∈ r.source, ∀ id, (load id).Leaves p

/-- Looking for a region leaves no notice behind but that it is missing. -/
theorem Region.extract_leaves (hregion : ∀ name id, p (.regionMissing name id)) (id : Text)
    (region : Option Text) (code : Text) :
    (extract id region code : Recorded ε Text).Leaves p := by
  intro n hn
  rw [trace_extract, Option.mem_toList] at hn
  rcases missing?_eq_some hn with ⟨name, rfl⟩
  exact hregion name id

namespace Resolvers

/-- The notices of a question to the resolver of sources. -/
theorem AreNoted.askSource (hr : r.AreNoted p) (id : Text) (region : Option Text) :
    (r.askSource id region).Leaves p := by
  unfold Resolvers.askSource
  cases hsource : r.source with
  | none => exact leaves_pure none
  | some load =>
    refine (leaves_ask (.source id)).bind fun _ => (hr.source load hsource id).bind fun code? => ?_
    cases code? with
    | none => exact leaves_pure none
    | some code => exact (Region.extract_leaves hr.region id region code).map some

/-- A question to the resolver of keywords leaves no notice behind. -/
theorem askKeyword_leaves (r : Resolvers ε) (word : Text) : (r.askKeyword word).Leaves p := by
  unfold askKeyword
  cases r.keyword with
  | none => exact leaves_pure _
  | some resolve => exact (leaves_ask (.keyword word)).bind fun _ => leaves_pure _

/-- A question to the resolver of symbols leaves no notice behind. -/
theorem askReference_leaves (resolve : Text → Text × Option Text) (id : Text) :
    (askReference resolve id : Recorded ε _).Leaves p :=
  (leaves_ask (.reference id)).bind fun _ => leaves_pure _

/-- The notices of every question satisfy a property. -/
theorem AreNoted.related (hr : r.AreNoted p) : r.Related (fun _ x _ => x.Leaves p) r where
  reference := by
    cases r.reference with
    | none => exact .none
    | some resolve => exact .some (askReference_leaves resolve)
  source := hr.askSource
  keyword := r.askKeyword_leaves

end Resolvers

/-! ## Comments -/

/-- A notice about a region, or one that a source leaves behind. -/
def IsExpected (source : Option (Text → Recorded Failure (Option Text))) (n : Notice) : Prop :=
  (∃ name id, n = .regionMissing name id) ∨ ∃ load ∈ source, ∃ id, n ∈ (load id).trace.notices

/-- The notices of a comment are about regions or come from the source. -/
theorem Provider.build_leaves (provider : Provider)
    (source : Option (Text → Recorded Failure (Option Text)))
    (keyword : Option (Text → Option Text)) :
    (provider.build source keyword).Leaves (IsExpected source) := by
  have hr : (⟨some provider.resolve, source, keyword⟩ : Resolvers Failure).AreNoted
      (IsExpected source) :=
    { region := fun name id => Or.inl ⟨name, id, rfl⟩
      source := fun load hload id n hn => Or.inr ⟨load, hload, id, hn⟩ }
  exact build_related (Recorded.leaves_isComposed _) hr.related

end DocMarkup
