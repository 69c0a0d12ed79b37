import DocMarkup.File.Path
import DocMarkup.Proofs.Text.Run

/-!
# Cut paths and their extensions

A text that is cut at a separator falls apart where the separator stands. So the last component of a
path is what stands behind its last slash, as long as that is a name, and the extension of the path is
the extension of this name. A path whose backslashes have become slashes may have a shorter last
component; an extension that this one has is the extension of the longer one too.

Main definitions:

- {lit}`Path.fileName`: what stands behind the last slash.

Main results:

- Theorem {lit}`Path.cutAt_append`: a text cut at one of its separators.
- Theorem {lit}`Path.extension_eq`: the extension of a path is the one of its file name.
- Theorem {lit}`Path.extension_slashed_iff`: when backslashes do not matter to the extension of a path.
-/

namespace DocMarkup
namespace Path

/-! ## Parts -/

section Parts

variable {separator : Char} {part : Text}

/-- Even the empty text has a part. -/
theorem cutAt_ne_nil (separator : Char) (s : Text) : cutAt separator s ≠ [] := by
  cases s with
  | nil => simp [cutAt]
  | cons c s =>
    unfold cutAt
    split
    · simp
    · split <;> simp

/-- A separator in front ends an empty part. -/
theorem cutAt_cons_self (separator : Char) (s : Text) :
    cutAt separator (separator :: s) = [] :: cutAt separator s := by
  rcases List.exists_cons_of_ne_nil (cutAt_ne_nil separator s) with ⟨part, parts, hparts⟩
  simp [cutAt, hparts]

/-- Any other character in front belongs to the first part. -/
theorem cutAt_cons_of_ne {c : Char} (hc : c ≠ separator) {s : Text} {parts : List Text}
    (hparts : cutAt separator s = part :: parts) :
    cutAt separator (c :: s) = (c :: part) :: parts := by
  simp [cutAt, hparts, hc]

/-- A text falls apart at a separator in it. -/
theorem cutAt_append (separator : Char) (front rest : Text) :
    cutAt separator (front ++ separator :: rest) =
      cutAt separator front ++ cutAt separator rest := by
  induction front with
  | nil => exact cutAt_cons_self separator rest
  | cons c front ih =>
    by_cases hc : c = separator
    · rw [hc, List.cons_append, cutAt_cons_self, cutAt_cons_self, ih, List.cons_append]
    · rcases List.exists_cons_of_ne_nil (cutAt_ne_nil separator front) with ⟨part, parts, hparts⟩
      rw [hparts, List.cons_append] at ih
      rw [List.cons_append, cutAt_cons_of_ne hc ih, cutAt_cons_of_ne hc hparts, List.cons_append]

/-- A text without separators is one part. -/
theorem cutAt_of_not_mem (hpart : separator ∉ part) : cutAt separator part = [part] := by
  induction part with
  | nil => rfl
  | cons c part ih =>
    rw [List.mem_cons, not_or] at hpart
    exact cutAt_cons_of_ne (Ne.symm hpart.1) (ih hpart.2)

end Parts

/-! ## Components -/

variable {path name : Text}

/-- The components of two paths that a slash joins. -/
theorem components_append (front rest : Text) :
    components (front ++ '/' :: rest) = components front ++ components rest := by
  unfold components
  rw [cutAt_append, List.filter_append]

/-- A name without slashes is its only component, unless it means nothing. -/
theorem components_of_name (hslash : '/' ∉ name) (hempty : name ≠ []) (hdot : name ≠ ['.']) :
    components name = [name] := by
  simp [components, cutAt_of_not_mem hslash, hempty, hdot]

/-- What stands behind the last slash of a path. -/
def fileName (path : Text) : Text := (path.reverse.takeWhile (· != '/')).reverse

/-- A file name has no slash. -/
theorem slash_not_mem_fileName (path : Text) : '/' ∉ fileName path := by
  intro hslash
  simpa using Text.of_mem_takeWhile (List.mem_reverse.1 hslash)

/-- A path is its file name, or it has a slash in front of it. -/
theorem eq_fileName_or_exists (path : Text) :
    path = fileName path ∨ ∃ front, path = front ++ '/' :: fileName path := by
  have hsplit := List.takeWhile_append_dropWhile (p := (· != '/')) (l := path.reverse)
  cases hrest : path.reverse.dropWhile (· != '/') with
  | nil =>
    rw [hrest, List.append_nil] at hsplit
    exact .inl (List.reverse_eq_iff.1 hsplit.symm)
  | cons c rest =>
    have hc : c = '/' := by
      have hstop := List.head_dropWhile_not (· != '/') (l := path.reverse) (by simp [hrest])
      simpa [hrest] using hstop
    refine .inr ⟨rest.reverse, ?_⟩
    rw [hrest, hc] at hsplit
    have hwhole := congrArg List.reverse hsplit
    simpa [fileName] using hwhole.symm

/-- The extension of a path is the one of its file name, unless that means nothing. -/
theorem extension_eq (hempty : fileName path ≠ []) (hdot : fileName path ≠ ['.']) :
    extension path = extensionOfName (fileName path) := by
  have hname := components_of_name (slash_not_mem_fileName path) hempty hdot
  have hlast : (components path).getLast? = some (fileName path) := by
    rcases eq_fileName_or_exists path with hpath | ⟨front, hpath⟩
    · rw [← hpath] at hname
      rw [hname, List.getLast?_singleton, ← hpath]
    · have hcut := components_append front (fileName path)
      rw [← hpath, hname] at hcut
      rw [hcut, List.getLast?_concat]
  rw [extension, hlast]
  rfl

/-! ## Extensions -/

/-- An extension of a name is the extension of every longer name that ends in it. -/
theorem extensionOfName_append (front : Text) (h : extensionOfName name ≠ []) :
    extensionOfName (front ++ name) = extensionOfName name := by
  -- the last dot of the name is the last one of the longer name
  have hdot : (name.reverse.takeWhile (· != '.')).length + 1 < name.length := by
    refine Classical.byContradiction fun hnone => h ?_
    simp [extensionOfName, hnone]
  have hsame : (front ++ name).reverse.takeWhile (· != '.') =
      name.reverse.takeWhile (· != '.') := by
    rw [List.reverse_append, List.takeWhile_append, if_neg]
    rw [List.length_reverse]
    omega
  have hlonger : (name.reverse.takeWhile (· != '.')).length + 1 < (front ++ name).length := by
    rw [List.length_append]
    omega
  simp only [extensionOfName, hsame, List.length_reverse, if_pos hdot, if_pos hlonger]

/-! ## Backslashes -/

/-- No backslash is left to be replaced. -/
theorem slashed_slashed (path : Text) : slashed (slashed path) = slashed path := by
  unfold slashed
  rw [List.map_map]
  refine List.map_congr_left fun c _ => ?_
  by_cases hc : c = '\\'
  · simp [hc]
  · simp [hc]

/-- The file name of a path with slashes is where the file name of the path ends. -/
theorem fileName_slashed (path : Text) : fileName (slashed path) <:+ fileName path := by
  have hrun : ∀ s : Text, (slashed s).takeWhile (· != '/') =
      (s.takeWhile (· != '/')).takeWhile (· != '\\') := by
    intro s
    induction s with
    | nil => rfl
    | cons c s ih =>
      unfold slashed at ih ⊢
      by_cases hslash : c = '/'
      · simp [hslash]
      · by_cases hback : c = '\\'
        · simp [hback]
        · simp [hslash, hback, ih]
  have hreverse : (slashed path).reverse = slashed path.reverse := List.map_reverse.symm
  unfold fileName
  rw [List.reverse_suffix, hreverse, hrun]
  exact List.takeWhile_prefix _

/-- For a path that ends in a name, backslashes do not matter to the extension exactly when this name
has one, or when not even the longer name behind the last slash has one. -/
theorem extension_slashed_iff (hempty : fileName (slashed path) ≠ [])
    (hdot : fileName (slashed path) ≠ ['.']) :
    extension (slashed path) = extension path ↔
      extensionOfName (fileName (slashed path)) ≠ [] ∨ extensionOfName (fileName path) = [] := by
  rcases fileName_slashed path with ⟨front, hfront⟩
  have hlonger : extensionOfName (fileName (slashed path)) ≠ [] →
      extensionOfName (fileName path) = extensionOfName (fileName (slashed path)) := by
    intro h
    rw [← hfront, extensionOfName_append front h]
  have hname : extension path = extensionOfName (fileName path) := by
    refine extension_eq ?_ ?_
    · intro hnil
      rw [← hfront] at hnil
      exact hempty (List.append_eq_nil_iff.1 hnil).2
    · intro hsingle
      rw [← hfront] at hsingle
      rcases List.append_eq_singleton_iff.1 hsingle with ⟨_, hrest⟩ | ⟨_, hrest⟩
      · exact hdot hrest
      · exact hempty hrest
  rw [extension_eq hempty hdot, hname]
  constructor
  · intro hsame
    by_cases hextension : extensionOfName (fileName (slashed path)) = []
    · exact .inr (hsame ▸ hextension)
    · exact .inl hextension
  · rintro (hextension | hnone)
    · exact (hlonger hextension).symm
    · by_cases hextension : extensionOfName (fileName (slashed path)) = []
      · rw [hextension, hnone]
      · rw [hlonger hextension]

end Path
end DocMarkup
