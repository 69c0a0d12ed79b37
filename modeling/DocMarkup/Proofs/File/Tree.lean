import DocMarkup.File.Tree
import DocMarkup.Proofs.Assoc

/-!
# Lookups in trees of files

A path that was made absolute has no double dots, so it is followed straight down. In a tree in
which nothing stands below a file, what is found at or below a place depends on what stands there
alone: the directories on the way to it only have to be there.

Main definitions:

- {lit}`Path.IsDirect`: no component of a path is a pair of dots.
- {lit}`FileTree.IsProper`: nothing stands below a file.
- {lit}`FileTree.AgreeFrom`: two trees are identical at and below a place.

Main results:

- Theorem {lit}`Path.resolve_isDirect`: a path that was made absolute has no double dots.
- Theorem {lit}`FileTree.IsProper.entry?_above`: everything above something is a directory.
- Theorem {lit}`FileTree.find?_eq_file`: a file that is found stands at its path.
- Theorem {lit}`FileTree.AgreeFrom.find?_eq`: trees that are identical at and below a place give the
  same answers there.
-/

namespace DocMarkup

/-! ## Paths without double dots -/

namespace Path

/-- No component of a path is a pair of dots. -/
def IsDirect (path : List Text) : Prop := "..".toList ∉ path

variable {path rest : List Text} {component : Text}

/-- The components of a path without double dots. -/
theorem isDirect_cons : IsDirect (component :: rest) ↔ component ≠ "..".toList ∧ IsDirect rest := by
  rw [IsDirect, List.mem_cons, not_or]
  exact and_congr_left fun _ => ne_comm

/-- Any other component leads one step down. -/
theorem follow_of_ne (h : component ≠ "..".toList) : follow path component = path ++ [component] :=
  if_neg h

/-- Following a component leaves no double dots behind. -/
theorem IsDirect.follow (h : IsDirect path) (component : Text) :
    IsDirect (follow path component) := by
  unfold Path.follow
  split
  · exact fun hmem => h (List.dropLast_subset path hmem)
  · next hother =>
    intro hmem
    rcases List.mem_append.1 hmem with hmem | hmem
    · exact h hmem
    · exact hother (List.mem_singleton.1 hmem).symm

/-- A path that was made absolute has no double dots. -/
theorem resolve_isDirect {directory : List Text} (h : IsDirect directory) (path : Text) :
    IsDirect (resolve directory path) := by
  have hfold : ∀ (components start : List Text), IsDirect start →
      IsDirect (components.foldl Path.follow start) := by
    intro components
    induction components with
    | nil => exact fun _ hstart => hstart
    | cons component components ih => exact fun _ hstart => ih _ (hstart.follow component)
  unfold resolve
  split
  · exact hfold _ _ List.not_mem_nil
  · exact hfold _ _ h

end Path

namespace FileTree

open DocMarkup.Path (IsDirect)

variable {t t' : FileTree} {above below here path rest : List Text} {content : Bytes} {e : Entry}

/-! ## Proper trees -/

/-- Nothing stands below a file, and no file is a directory. -/
def IsProper (t : FileTree) : Prop := ∀ file ∈ t.files, t.isDirectory file.1 = false

instance (t : FileTree) : Decidable t.IsProper := inferInstanceAs (Decidable (∀ file ∈ t.files, _))

/-- A path at or above which something else stands is a directory. -/
theorem isDirectory_iff : t.isDirectory path = true ↔
    path = [] ∨ (∃ directory ∈ t.directories, path <+: directory) ∨
      ∃ file ∈ t.files, path <+: file.1 ∧ file.1 ≠ path := by
  simp only [isDirectory, Bool.or_eq_true, List.isEmpty_iff, List.any_eq_true, Bool.and_eq_true,
    bne_iff_ne, List.isPrefixOf_iff_prefix, or_assoc]

/-- A path is a directory when something stands below it. -/
theorem isDirectory_above (hbelow : below ≠ []) (h : (t.entry? (above ++ below)).isSome) :
    t.isDirectory above = true := by
  have hextends : ∀ {other : List Text}, above ++ below <+: other →
      above <+: other ∧ other ≠ above := by
    rintro _ ⟨more, rfl⟩
    refine ⟨⟨below ++ more, (List.append_assoc ..).symm⟩, fun heq => hbelow ?_⟩
    rw [List.append_assoc] at heq
    exact (List.append_eq_nil_iff.1 (List.append_right_eq_self.1 heq)).1
  rw [isDirectory_iff]
  cases hfile : Assoc.get? (above ++ below) t.files with
  | some content =>
    exact Or.inr (Or.inr ⟨_, Assoc.mem_of_get? hfile, hextends (List.prefix_refl _)⟩)
  | none =>
    have hdirectory : t.isDirectory (above ++ below) = true := by
      unfold entry? at h
      simpa [hfile] using h
    rcases isDirectory_iff.1 hdirectory with
      hnil | ⟨directory, hmem, hpath⟩ | ⟨file, hmem, hpath, -⟩
    · exact absurd (List.append_eq_nil_iff.1 hnil).2 hbelow
    · exact Or.inr (Or.inl ⟨directory, hmem, (hextends hpath).1⟩)
    · exact Or.inr (Or.inr ⟨file, hmem, hextends hpath⟩)

/-- Everything above something is a directory. -/
theorem IsProper.entry?_above (ht : t.IsProper) (hbelow : below ≠ [])
    (h : (t.entry? (above ++ below)).isSome) : t.entry? above = some .directory := by
  have hdirectory := isDirectory_above hbelow h
  unfold entry?
  cases hfile : Assoc.get? above t.files with
  | some content =>
    have hnone := ht _ (Assoc.mem_of_get? hfile)
    rw [hdirectory] at hnone
    cases hnone
  | none => exact if_pos hdirectory

/-- Something stands above whatever stands somewhere. -/
theorem IsProper.isSome_entry?_above (ht : t.IsProper) (h : (t.entry? (above ++ below)).isSome) :
    (t.entry? above).isSome := by
  by_cases hbelow : below = []
  · rwa [hbelow, List.append_nil] at h
  · rw [ht.entry?_above hbelow h]
    rfl

/-! ## Following a path -/

/-- Something that a path leads to stands at the path. -/
theorem entry?_of_follow (hrest : IsDirect rest) (h : t.follow here rest = .ok e) :
    t.entry? (here ++ rest) = some e := by
  induction rest generalizing here with
  | nil =>
    rw [List.append_nil]
    unfold follow at h
    cases hentry : t.entry? here with
    | none => simp [hentry] at h
    | some other => simpa [hentry] using h
  | cons component rest ih =>
    rcases Path.isDirect_cons.1 hrest with ⟨hcomponent, hrest⟩
    unfold follow at h
    rw [Path.follow_of_ne hcomponent] at h
    split at h
    · cases h
    · cases h
    · split at h
      · cases h
      · rw [List.append_cons]
        exact ih hrest h

/-- Nothing is found at or below a place where nothing stands; unless a name on the way is too long,
no such name is met. -/
theorem follow_missing (habove : IsDirect above)
    (hsize : ∀ component ∈ above, Path.size component ≤ Path.maxNameSize)
    (hmissing : t.entry? (here ++ above) = none) :
    ∃ failure, t.follow here (above ++ rest) = .error failure ∧
      ∀ path, failure ≠ .nameTooLong path := by
  induction above generalizing here with
  | nil =>
    rw [List.append_nil] at hmissing
    refine ⟨.fileMissing here, ?_, by simp⟩
    cases rest <;> simp [follow, hmissing]
  | cons component above ih =>
    rcases Path.isDirect_cons.1 habove with ⟨hcomponent, habove⟩
    rcases List.forall_mem_cons.1 hsize with ⟨hshort, hsize⟩
    rw [List.cons_append, follow, Path.follow_of_ne hcomponent, if_neg (Nat.not_lt.2 hshort)]
    -- the walk ends where a directory is missing or a file stands, at the latest at the place
    cases hentry : t.entry? here with
    | none => exact ⟨_, rfl, by simp⟩
    | some e =>
      cases e with
      | file content => exact ⟨_, rfl, by simp⟩
      | directory => exact ih habove hsize (List.append_cons .. ▸ hmissing)

/-- What is looked up stands at its path. -/
theorem entry?_of_lookup (hpath : IsDirect path) (h : t.lookup path = .ok e) :
    t.entry? path = some e := by
  unfold lookup at h
  split at h
  · cases h
  · have hstart : t.entry? ([] ++ path) = some e := entry?_of_follow hpath h
    exact hstart

/-- A file that is found stands at its path. -/
theorem find?_eq_file (hpath : IsDirect path) (h : t.find? path = .ok (some (.file content))) :
    t.entry? path = some (.file content) := by
  unfold find? at h
  split at h
  · cases h
  · split at h
    · next other hlookup =>
      obtain rfl : other = .file content := Option.some.inj (Except.ok.inj h)
      exact entry?_of_lookup hpath hlookup
    · cases h
    · cases h

/-- Where nothing stands, nothing is found, unless the path as written is too long. -/
theorem find?_missing (habove : IsDirect above)
    (hsize : ∀ component ∈ above, Path.size component ≤ Path.maxNameSize)
    (hmissing : t.entry? above = none) :
    t.find? (above ++ rest) =
      if (above ++ rest).any (·.contains '\x00') then .ok none
      else if Path.maxSize < Path.size (Path.print (above ++ rest)) then
        .error (.nameTooLong (above ++ rest))
      else .ok none := by
  have hstart : t.entry? ([] ++ above) = none := hmissing
  have hfollow : ∃ failure, t.follow [] (above ++ rest) = .error failure ∧
      ∀ path, failure ≠ .nameTooLong path := follow_missing habove hsize hstart
  rcases hfollow with ⟨failure, hfollow, hother⟩
  unfold find? lookup
  rw [hfollow]
  congr 1
  by_cases hlong : Path.maxSize < Path.size (Path.print (above ++ rest))
  · rw [if_pos hlong, if_pos hlong]
  · rw [if_neg hlong, if_neg hlong]
    cases failure with
    | nameTooLong path => exact absurd rfl (hother path)
    | _ => rfl

/-- Below a place where nothing stands, nothing is found, or a name is too long to be looked up. -/
theorem IsProper.find?_below (ht : t.IsProper) (hpath : IsDirect (above ++ rest))
    (hmissing : t.entry? above = none) :
    t.find? (above ++ rest) = .ok none ∨
      ∃ place, t.find? (above ++ rest) = .error (.nameTooLong place) := by
  have hnothing : ∀ e, t.lookup (above ++ rest) ≠ .ok e := by
    intro e hlookup
    have hentry := entry?_of_lookup hpath hlookup
    have hsome := ht.isSome_entry?_above (Option.isSome_iff_exists.2 ⟨e, hentry⟩)
    rw [hmissing] at hsome
    cases hsome
  unfold find?
  split
  · exact Or.inl rfl
  · split
    · next e hlookup => exact absurd hlookup (hnothing e)
    · next place _ => exact Or.inr ⟨place, rfl⟩
    · exact Or.inl rfl

/-! ## Trees that agree -/

/-- Two trees are identical at and below a place. -/
def AgreeFrom (t t' : FileTree) (place : List Text) : Prop :=
  ∀ rest, t.entry? (place ++ rest) = t'.entry? (place ++ rest)

/-- What stands at the place itself is the same. -/
theorem AgreeFrom.entry?_eq (h : t.AgreeFrom t' here) : t.entry? here = t'.entry? here := by
  have hhere := h []
  rwa [List.append_nil] at hhere

/-- Trees that agree from a place on agree one step down. -/
theorem AgreeFrom.step (h : t.AgreeFrom t' here) (component : Text) :
    t.AgreeFrom t' (here ++ [component]) := by
  intro rest
  rw [← List.append_cons]
  exact h (component :: rest)

/-- A file that is not at or below a place does not matter there. -/
theorem agreeFrom_cons {file : List Text × Bytes} (h : ¬ here <+: file.1) :
    AgreeFrom ⟨file :: t.files, t.directories⟩ t here := by
  intro rest
  have hnot : ¬ here ++ rest <+: file.1 := fun hpath => h ((List.prefix_append ..).trans hpath)
  have hne : file.1 ≠ here ++ rest := fun heq => hnot (heq ▸ List.prefix_refl _)
  have hfalse : (here ++ rest).isPrefixOf file.1 = false :=
    Bool.eq_false_iff.2 fun htrue => hnot (List.isPrefixOf_iff_prefix.1 htrue)
  have hget : Assoc.get? (here ++ rest) (file :: t.files) = Assoc.get? (here ++ rest) t.files := by
    simp [Assoc.get?, hne]
  have hdirectory : isDirectory ⟨file :: t.files, t.directories⟩ (here ++ rest) =
      t.isDirectory (here ++ rest) := by
    unfold isDirectory
    rw [List.any_cons, hfalse, Bool.false_and, Bool.false_or]
  unfold entry?
  rw [hget, hdirectory]

/-- From a place on, a path is followed alike in trees that agree there. -/
theorem AgreeFrom.follow_eq (h : t.AgreeFrom t' here) (hrest : IsDirect rest) :
    t.follow here rest = t'.follow here rest := by
  induction rest generalizing here with
  | nil =>
    unfold follow
    rw [h.entry?_eq]
  | cons component rest ih =>
    rcases Path.isDirect_cons.1 hrest with ⟨hcomponent, hrest⟩
    unfold follow
    rw [h.entry?_eq, Path.follow_of_ne hcomponent, ih (h.step component) hrest]

/-- A path down to a place where something stands in both trees is followed alike, since there are
directories on the way. -/
theorem follow_eq_of_above (ht : t.IsProper) (ht' : t'.IsProper) (habove : IsDirect above)
    (hsome : (t.entry? (here ++ above)).isSome) (hsome' : (t'.entry? (here ++ above)).isSome)
    (hrest : t.follow (here ++ above) rest = t'.follow (here ++ above) rest) :
    t.follow here (above ++ rest) = t'.follow here (above ++ rest) := by
  induction above generalizing here with
  | nil => simpa using hrest
  | cons component above ih =>
    rcases Path.isDirect_cons.1 habove with ⟨hcomponent, habove⟩
    -- both walks stand in a directory, so they fail here alike if the name is too long
    have hhere : t.entry? here = some .directory := ht.entry?_above (by simp) hsome
    have hhere' : t'.entry? here = some .directory := ht'.entry?_above (by simp) hsome'
    rw [List.cons_append, follow, follow, hhere, hhere', Path.follow_of_ne hcomponent]
    rw [List.append_cons] at hsome hsome' hrest
    rw [ih habove hsome hsome' hrest]

/-- Trees that are identical at and below a place give the same answers there, if anything stands at
the place or no name on the way to it is too long to be looked up. -/
theorem AgreeFrom.find?_eq (ht : t.IsProper) (ht' : t'.IsProper) (h : t.AgreeFrom t' above)
    (hpath : IsDirect (above ++ rest))
    (hpresent : (t.entry? above).isSome ∨
      ∀ component ∈ above, Path.size component ≤ Path.maxNameSize) :
    t.find? (above ++ rest) = t'.find? (above ++ rest) := by
  have habove : IsDirect above := fun hmem => hpath (List.mem_append_left _ hmem)
  have hrest : IsDirect rest := fun hmem => hpath (List.mem_append_right _ hmem)
  cases hsome : t.entry? above with
  | some e =>
    have hfollow : t.follow [] (above ++ rest) = t'.follow [] (above ++ rest) :=
      follow_eq_of_above ht ht' habove (by simp [hsome]) (by simp [← h.entry?_eq, hsome])
        (h.follow_eq hrest)
    unfold find? lookup
    rw [hfollow]
  | none =>
    have hsize := hpresent.resolve_left (by simp [hsome])
    have hmissing : t'.entry? above = none := h.entry?_eq ▸ hsome
    rw [find?_missing habove hsize hsome, find?_missing habove hsize hmissing]

end FileTree
end DocMarkup
