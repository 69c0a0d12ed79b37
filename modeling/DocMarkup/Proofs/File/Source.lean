import DocMarkup.Proofs.File.Reading
import DocMarkup.Proofs.File.Tree

/-!
# Confinement of sources

A source is looked up only when its path, normalised component by component, extends the path of the
directory of the sources. What stands elsewhere does not matter to it: a directory whose name merely
begins like the one of the sources is elsewhere, and so is everything above.

Only where that directory is missing, and its own path holds a name that is too long to be looked
up, does the lookup meet that name or not, depending on what stands above.

Main definitions:

- {lit}`SourceFolder.target`: the path of a source, inside the directory or not.
- {lit}`SourceFolder.IsMissed`: a source of which no text is given for its path alone.

Main results:

- Theorem {lit}`SourceFolder.locate?_eq_some_iff`: the sources that are looked up.
- Theorem {lit}`SourceFolder.exists_of_outcome_load`: where the text of a source comes from.
- Theorem {lit}`SourceFolder.load_confined`: what stands outside the directory does not matter.
-/

namespace DocMarkup
namespace SourceFolder

open DocMarkup.Path (IsDirect)

variable {f : SourceFolder} {t t' : FileTree} {source text : Text} {path : List Text}

/-- The path of a source, inside the directory or not. A backslash counts as a slash. -/
def target (f : SourceFolder) (source : Text) : List Text :=
  Path.resolve f.root (Path.slashed source)

/-- A source is looked up at its path when that extends the path of the directory. -/
theorem locate?_eq_some_iff :
    f.locate? source = some path ↔ f.target source = path ∧ f.root <+: path := by
  show (if f.root.isPrefixOf (f.target source) then some (f.target source) else none) = _ ↔ _
  rw [← List.isPrefixOf_iff_prefix]
  by_cases hextends : f.root.isPrefixOf (f.target source) = true
  · rw [if_pos hextends, Option.some.injEq]
    exact ⟨fun h => ⟨h, h ▸ hextends⟩, And.left⟩
  · rw [if_neg hextends]
    constructor
    · intro h
      cases h
    · rintro ⟨rfl, h⟩
      exact absurd h hextends

/-- The directory of the sources has no double dots in its path. -/
theorem root_isDirect {directory : List Text} {name encoding : Text}
    (hdirectory : IsDirect directory) (h : make directory name encoding = .ok f) :
    IsDirect f.root := by
  unfold make at h
  split at h
  · cases h
  · obtain rfl := Except.ok.inj h
    exact Path.resolve_isDirect hdirectory name

/-! ## Loads from trees -/

/-- In a tree of files, a source leads to the path at which it is looked up. -/
theorem leads_disk_iff : f.Leads t.disk source path ↔ f.locate? source = some path := by
  rw [locate?_eq_some_iff]
  constructor
  · rintro ⟨hresolves, hinside⟩
    obtain rfl : f.target source = path := Except.ok.inj hresolves
    exact ⟨rfl, hinside⟩
  · rintro ⟨rfl, hinside⟩
    exact ⟨rfl, hinside⟩

/-- A source with NUL fails. -/
theorem load_of_nul (hnul : source.contains '\x00' = true) :
    f.load t source = .fail .nulInPath := by
  rw [load, loadFrom, if_pos hnul]

/-- A source that is not looked up is reported. -/
theorem load_outside (hnul : source.contains '\x00' = false) (hlocate : f.locate? source = none) :
    f.load t source = ⟨⟨[], [.sourceOutside (Path.print f.root) source]⟩, .ok none⟩ := by
  have hresolve : t.disk.resolve f.root (Path.slashed source) = .ok (f.target source) := rfl
  refine loadFrom_outside hnul hresolve fun hinside => ?_
  have hsome := locate?_eq_some_iff.2 ⟨rfl, hinside⟩
  rw [hlocate] at hsome
  cases hsome

section Located

variable (hnul : source.contains '\x00' = false) (hlocate : f.locate? source = some path)
include hnul hlocate

/-- A source fails when its lookup does. -/
theorem load_of_find_error {failure : Failure} (hfind : t.find? path = .error failure) :
    f.load t source = .fail failure :=
  (leads_disk_iff.2 hlocate).loadFrom_unanswered hnul (FileTree.isFile_eq_error_iff.2 hfind)

/-- A source that is no file is reported. -/
theorem load_missing {e? : Option Entry} (hfind : t.find? path = .ok e?)
    (hfile : ∀ content, e? ≠ some (.file content)) :
    f.load t source = ⟨⟨[], [.sourceMissing source]⟩, .ok none⟩ :=
  (leads_disk_iff.2 hlocate).loadFrom_missing hnul (FileTree.isFile_of_not_file hfind hfile)

/-- A source that is a file is read. -/
theorem load_of_file {content : Bytes} (hfind : t.find? path = .ok (some (.file content))) :
    f.load t source = f.read source content := by
  have hcontent : t.disk.content path = .bytes content := FileTree.content_eq_bytes_iff.2 hfind
  have hload := (leads_disk_iff.2 hlocate).loadFrom_file (c := codecs) hnul
    (FileTree.isFile_of_file hfind)
  rwa [hcontent] at hload

end Located

/-- Loading a source depends on what its path leads to alone. -/
theorem load_congr (h : ∀ path, f.locate? source = some path → t.find? path = t'.find? path) :
    f.load t source = f.load t' source := by
  cases hnul : source.contains '\x00' with
  | true => rw [load_of_nul hnul, load_of_nul hnul]
  | false =>
    cases hlocate : f.locate? source with
    | none => rw [load_outside hnul hlocate, load_outside hnul hlocate]
    | some path =>
      have hfind := h path hlocate
      cases hfound : t.find? path with
      | error failure =>
        rw [load_of_find_error hnul hlocate hfound,
          load_of_find_error hnul hlocate (hfind ▸ hfound)]
      | ok e? =>
        by_cases hfile : ∃ content, e? = some (.file content)
        · rcases hfile with ⟨content, rfl⟩
          rw [load_of_file hnul hlocate hfound, load_of_file hnul hlocate (hfind ▸ hfound)]
        · have hnone : ∀ content, e? ≠ some (.file content) := fun content h => hfile ⟨content, h⟩
          rw [load_missing hnul hlocate hfound hnone,
            load_missing hnul hlocate (hfind ▸ hfound) hnone]

/-- The text of a source is read from a file at its path, which extends the path of the directory.
-/
theorem exists_of_outcome_load (h : (f.load t source).outcome = .ok (some text)) :
    ∃ path content, f.locate? source = some path ∧ t.find? path = .ok (some (.file content)) ∧
      f.load t source = f.read source content := by
  cases hnul : source.contains '\x00' with
  | true =>
    rw [load_of_nul hnul] at h
    cases h
  | false =>
    cases hlocate : f.locate? source with
    | none =>
      rw [load_outside hnul hlocate] at h
      cases h
    | some path =>
      cases hfind : t.find? path with
      | error failure =>
        rw [load_of_find_error hnul hlocate hfind] at h
        cases h
      | ok e? =>
        by_cases hfile : ∃ content, e? = some (.file content)
        · rcases hfile with ⟨content, rfl⟩
          exact ⟨path, content, rfl, hfind, load_of_file hnul hlocate hfind⟩
        · rw [load_missing hnul hlocate hfind fun content h => hfile ⟨content, h⟩] at h
          cases h

/-! ## Confinement -/

/-- A source is reported missing, or its path holds a name that is too long to be looked up. -/
def IsMissed (f : SourceFolder) (t : FileTree) (source : Text) : Prop :=
  (f.load t source).trace.notices = [.sourceMissing source] ∧ (f.load t source).outcome = .ok none ∨
    ∃ place, f.load t source = .fail (.nameTooLong place)

/-- A source in a directory that is not there is missed. -/
theorem isMissed_of_missing (ht : t.IsProper) (hroot : IsDirect f.root)
    (hnul : source.contains '\x00' = false) (hlocate : f.locate? source = some path)
    (hmissing : t.entry? f.root = none) : f.IsMissed t source := by
  rcases locate?_eq_some_iff.1 hlocate with ⟨rfl, rest, hrest⟩
  have hpath : IsDirect (f.root ++ rest) := hrest ▸ Path.resolve_isDirect hroot _
  unfold IsMissed
  rcases ht.find?_below hpath hmissing with hfind | ⟨place, hfind⟩
  · rw [hrest] at hfind
    rw [load_missing hnul hlocate hfind (by simp)]
    exact Or.inl ⟨rfl, rfl⟩
  · rw [hrest] at hfind
    exact Or.inr ⟨place, load_of_find_error hnul hlocate hfind⟩

/-- When the directory is in neither of two trees, a source gives the same in both or is missed in
both. -/
theorem load_eq_or_isMissed (ht : t.IsProper) (ht' : t'.IsProper) (hroot : IsDirect f.root)
    (hmissing : t.entry? f.root = none) (hmissing' : t'.entry? f.root = none) :
    f.load t source = f.load t' source ∨ f.IsMissed t source ∧ f.IsMissed t' source := by
  cases hnul : source.contains '\x00' with
  | true => exact Or.inl (by rw [load_of_nul hnul, load_of_nul hnul])
  | false =>
    cases hlocate : f.locate? source with
    | none =>
      refine Or.inl (load_congr fun path h => ?_)
      rw [hlocate] at h
      cases h
    | some path =>
      exact Or.inr ⟨isMissed_of_missing ht hroot hnul hlocate hmissing,
        isMissed_of_missing ht' hroot hnul hlocate hmissing'⟩

/-- What stands outside the directory of the sources does not matter. In two trees that are
identical at and below it, a source gives the same text or failure and leaves the same notices
behind, if the directory is there or no name in its path is too long to be looked up; otherwise it
may be missed in two ways. A text comes from a file whose path extends the path of the directory,
and is the same in both trees. -/
theorem load_confined {directory : List Text} (hdirectory : IsDirect directory)
    {name encoding : Text} (hmake : make directory name encoding = .ok f) (ht : t.IsProper)
    (ht' : t'.IsProper) (hagree : t.AgreeFrom t' f.root) (source : Text) :
    ((t.entry? f.root).isSome ∨ (∀ component ∈ f.root, Path.size component ≤ Path.maxNameSize) →
      f.load t source = f.load t' source) ∧
    (f.load t source = f.load t' source ∨ f.IsMissed t source ∧ f.IsMissed t' source) ∧
    ∀ text, (f.load t source).outcome = .ok (some text) →
      f.load t source = f.load t' source ∧
      ∃ rest content, f.target source = f.root ++ rest ∧
        t.entry? (f.root ++ rest) = some (.file content) ∧
        f.load t source = f.read source content := by
  have hroot : IsDirect f.root := root_isDirect hdirectory hmake
  have hsame : (t.entry? f.root).isSome ∨
      (∀ component ∈ f.root, Path.size component ≤ Path.maxNameSize) →
      f.load t source = f.load t' source := by
    intro hpresent
    refine load_congr fun path hlocate => ?_
    rcases locate?_eq_some_iff.1 hlocate with ⟨rfl, rest, hrest⟩
    have hpath : IsDirect (f.root ++ rest) := hrest ▸ Path.resolve_isDirect hroot _
    rw [← hrest]
    exact hagree.find?_eq ht ht' hpath hpresent
  refine ⟨hsame, ?_, fun text htext => ?_⟩
  · cases hthere : t.entry? f.root with
    | some e => exact Or.inl (hsame (Or.inl (Option.isSome_iff_exists.2 ⟨e, hthere⟩)))
    | none =>
      have hmissing : t'.entry? f.root = none := hagree.entry?_eq ▸ hthere
      exact load_eq_or_isMissed ht ht' hroot hthere hmissing
  · rcases exists_of_outcome_load htext with ⟨path, content, hlocate, hfind, hread⟩
    rcases locate?_eq_some_iff.1 hlocate with ⟨rfl, rest, hrest⟩
    have hfile : t.entry? (f.root ++ rest) = some (.file content) := by
      rw [hrest]
      exact FileTree.find?_eq_file (Path.resolve_isDirect hroot _) hfind
    have hthere : (t.entry? f.root).isSome :=
      ht.isSome_entry?_above (Option.isSome_iff_exists.2 ⟨_, hfile⟩)
    exact ⟨hsame (Or.inl hthere), rest, content, hrest.symm, hfile, hread⟩

/-- A sibling whose name begins like the one of the directory does not matter. -/
theorem load_confined_sibling :
    let file : List Text × Bytes := (["root".toList, "a".toList], [120])
    let sibling : List Text × Bytes := (["root2".toList, "a".toList], [121])
    let f : SourceFolder := ⟨["root".toList], systemName⟩
    let source := "..//root2\\..\\root/./a".toList
    f.load ⟨[sibling, file], []⟩ source = f.load ⟨[file], []⟩ source ∧
      (f.load ⟨[sibling, file], []⟩ source).outcome = .ok (some "x".toList) := by
  intro file sibling f source
  have hmake : make [] "root".toList systemName = .ok f := rfl
  have hagree : FileTree.AgreeFrom ⟨[sibling, file], []⟩ ⟨[file], []⟩ f.root :=
    FileTree.agreeFrom_cons (t := ⟨[file], []⟩) (by decide)
  have houtcome : (f.load ⟨[sibling, file], []⟩ source).outcome = .ok (some "x".toList) :=
    eq_ok_of_toOption (by decide +kernel)
  rcases load_confined List.not_mem_nil hmake (by decide) (by decide) hagree source with ⟨hsame, -⟩
  exact ⟨hsame (Or.inr (by decide)), houtcome⟩

/-- A missing directory whose name is too long is met or not, depending on what stands above it. -/
theorem load_meets_long_name :
    let long : Text := List.replicate 256 'n'
    let t : FileTree := ⟨[(["a".toList, "x".toList], [])], []⟩
    let t' : FileTree := ⟨[], []⟩
    let f : SourceFolder := ⟨["a".toList, long], "utf-8-sig".toList⟩
    make [] ("a/".toList ++ long) "utf-8-sig".toList = .ok f ∧
      t.IsProper ∧ t'.IsProper ∧ t.AgreeFrom t' f.root ∧
      (f.load t "x".toList).outcome = .error (.nameTooLong ["a".toList, long]) ∧
      (f.load t' "x".toList).outcome = .ok none ∧
      (f.load t' "x".toList).trace.notices = [.sourceMissing "x".toList] := by
  intro long t t' f
  have hoff : ¬ f.root <+: ["a".toList, "x".toList] := by decide +kernel
  have hnul : ¬ ("a/".toList ++ long).contains '\x00' = true := by decide +kernel
  have hroot : Path.resolve [] ("a/".toList ++ long) = f.root := by decide +kernel
  have hmake : make [] ("a/".toList ++ long) "utf-8-sig".toList = .ok f := by
    rw [make, if_neg hnul, hroot]
  have hagree : t.AgreeFrom t' f.root := FileTree.agreeFrom_cons (t := t') hoff
  refine ⟨hmake, by decide, by decide, hagree, ?_, ?_, ?_⟩
  · exact eq_error_of_failure? (by decide +kernel)
  · exact eq_ok_of_toOption (by decide +kernel)
  · decide +kernel

end SourceFolder
end DocMarkup
