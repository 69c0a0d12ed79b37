import DocMarkup.Proofs.File.Tree

/-!
# Names that are too long

A path that is too long as written is not looked up at all, and a name that is too long stops a
lookup where a directory is searched for it. Nothing else does: any other lookup finds what stands at
its path, or nothing.

Main definitions:

- {lit}`FileTree.MeetsLongName`: a path on which a lookup is stopped.

Main results:

- Theorem {lit}`FileTree.IsProper.find?_fails_iff`: which lookups fail.
-/

namespace DocMarkup
namespace FileTree

open DocMarkup.Path (IsDirect)

variable {t : FileTree} {here path rest : List Text}

/-- A path without NUL that is too long as written, or on which a directory is searched for a name
that is too long. -/
def MeetsLongName (t : FileTree) (path : List Text) : Prop :=
  path.any (·.contains '\x00') = false ∧
    (Path.maxSize < Path.size (Path.print path) ∨
      ∃ above name below, path = above ++ name :: below ∧ t.entry? above = some .directory ∧
        Path.maxNameSize < Path.size name)

/-- A lookup on the way down is stopped by a name exactly when a directory is searched for one that
is too long. -/
theorem IsProper.follow_stops_iff (ht : t.IsProper) (hrest : IsDirect rest) :
    (∃ place, t.follow here rest = .error (.nameTooLong place)) ↔
      ∃ above name below, rest = above ++ name :: below ∧
        t.entry? (here ++ above) = some .directory ∧ Path.maxNameSize < Path.size name := by
  induction rest generalizing here with
  | nil =>
    unfold follow
    cases t.entry? here <;> simp
  | cons component rest ih =>
    rcases Path.isDirect_cons.1 hrest with ⟨hcomponent, hrest⟩
    unfold follow
    rw [Path.follow_of_ne hcomponent]
    -- a directory further down stands in a directory, so the walk gets there
    have hdirectory : ∀ above, t.entry? (here ++ above) = some .directory →
        t.entry? here = some .directory := by
      intro above habove
      cases above with
      | nil => rwa [List.append_nil] at habove
      | cons name above =>
        exact ht.entry?_above (List.cons_ne_nil name above) (Option.isSome_iff_exists.2 ⟨_, habove⟩)
    cases hentry : t.entry? here with
    | none =>
      refine ⟨by simp, ?_⟩
      rintro ⟨above, _, _, _, habove, _⟩
      rw [hdirectory above habove] at hentry
      cases hentry
    | some e =>
      cases e with
      | file content =>
        refine ⟨by simp, ?_⟩
        rintro ⟨above, _, _, _, habove, _⟩
        rw [hdirectory above habove] at hentry
        cases hentry
      | directory =>
        by_cases hlong : Path.maxNameSize < Path.size component
        · simp only [hlong, if_true]
          exact ⟨fun _ => ⟨[], component, rest, rfl, by rwa [List.append_nil], hlong⟩,
            fun _ => ⟨_, rfl⟩⟩
        · simp only [hlong, if_false]
          rw [ih hrest]
          constructor
          · rintro ⟨above, name, below, rfl, habove, hname⟩
            exact ⟨component :: above, name, below, rfl, by rwa [List.append_cons], hname⟩
          · rintro ⟨above, name, below, hsplit, habove, hname⟩
            cases above with
            | nil =>
              obtain ⟨rfl, _⟩ : component = name ∧ rest = below := by simpa using hsplit
              exact absurd hname hlong
            | cons first above =>
              obtain ⟨rfl, rfl⟩ : component = first ∧ rest = above ++ name :: below := by
                simpa using hsplit
              exact ⟨above, name, below, rfl, by rwa [← List.append_cons], hname⟩

/-- A lookup fails exactly when it meets a path or a name that is too long. -/
theorem IsProper.find?_fails_iff (ht : t.IsProper) (hpath : IsDirect path) :
    (∃ failure, t.find? path = .error failure) ↔ t.MeetsLongName path := by
  have hlookup : (∃ place, t.lookup path = .error (.nameTooLong place)) ↔
      Path.maxSize < Path.size (Path.print path) ∨
        ∃ above name below, path = above ++ name :: below ∧ t.entry? above = some .directory ∧
          Path.maxNameSize < Path.size name := by
    have hfollow : (∃ place, t.follow [] path = .error (.nameTooLong place)) ↔ _ :=
      ht.follow_stops_iff hpath
    unfold lookup
    by_cases hlong : Path.maxSize < Path.size (Path.print path)
    · simp [hlong]
    · simpa [hlong] using hfollow
  rw [MeetsLongName, ← hlookup]
  constructor
  · rintro ⟨failure, h⟩
    rcases find?_fails h with ⟨hnul, place, _, hplace⟩
    exact ⟨hnul, place, hplace⟩
  · rintro ⟨hnul, place, hplace⟩
    refine ⟨.nameTooLong place, ?_⟩
    unfold find?
    rw [hnul, hplace]
    rfl

end FileTree
end DocMarkup
