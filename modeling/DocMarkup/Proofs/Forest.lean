import DocMarkup.Forest

/-!
# Merged forests

A reader puts text in front of what it has read already, so no run of text that it builds is empty
and no two stand side by side. Putting one merged forest in front of another joins the runs that
meet.

Main definitions:

- {lit}`Forest.Forall`: a property of every character of text and of every tag.
- {lit}`Forest.IsMerged`: no run of text is empty or stands beside another one.
- {lit}`Forest.meet`: two forests side by side, with the runs that meet joined.
- {lit}`Forest.mapText`: a forest with every run of text replaced.

Main results:

- Theorem {lit}`Forest.meet_assoc`: how forests are grouped does not matter.
- Theorem {lit}`Forest.IsMerged.meet`: merged forests side by side are merged.
-/

namespace DocMarkup
namespace Forest

variable {ν : Type}

/-! ## Properties -/

/-- A property of every character of text, and one of the name and attributes of every element. -/
def Forall (onChar : Char → Prop) (onTag : ν → List (ν × Text) → Prop) : Forest ν → Prop
  | .nil => True
  | .text run rest => (∀ c ∈ run, onChar c) ∧ rest.Forall onChar onTag
  | .element name attributes children rest =>
    onTag name attributes ∧ children.Forall onChar onTag ∧ rest.Forall onChar onTag

/-- Whether a forest begins with a run of text. -/
def startsWithText : Forest ν → Bool
  | .text _ _ => true
  | _ => false

/-- No run of text is empty, and no two runs stand side by side. -/
def IsMerged : Forest ν → Prop
  | .nil => True
  | .text run rest => run ≠ [] ∧ rest.startsWithText = false ∧ rest.IsMerged
  | .element _ _ children rest => children.IsMerged ∧ rest.IsMerged

variable {onChar : Char → Prop} {onTag : ν → List (ν × Text) → Prop} {f g : Forest ν}

/-- What holds of anything holds everywhere. -/
theorem forall_of_forall (hchar : ∀ c, onChar c) (htag : ∀ name attributes, onTag name attributes)
    (f : Forest ν) : f.Forall onChar onTag := by
  induction f with
  | nil => trivial
  | text run rest ih => exact ⟨fun c _ => hchar c, ih⟩
  | element name attributes children rest ihChildren ihRest =>
    exact ⟨htag name attributes, ihChildren, ihRest⟩

/-- What follows from what holds everywhere holds everywhere. -/
theorem Forall.mono {onChar' : Char → Prop} {onTag' : ν → List (ν × Text) → Prop}
    (hf : f.Forall onChar onTag) (hchar : ∀ c, onChar c → onChar' c)
    (htag : ∀ name attributes, onTag name attributes → onTag' name attributes) :
    f.Forall onChar' onTag' := by
  induction f with
  | nil => trivial
  | text run rest ih => exact ⟨fun c hc => hchar c (hf.1 c hc), ih hf.2⟩
  | element name attributes children rest ihChildren ihRest =>
    exact ⟨htag name attributes hf.1, ihChildren hf.2.1, ihRest hf.2.2⟩

/-- What holds everywhere holds inside the outermost elements. -/
theorem Forall.of_mem_elements (hf : f.Forall onChar onTag) {e : Element ν} (he : e ∈ f.elements) :
    onTag e.name e.attributes ∧ e.children.Forall onChar onTag := by
  induction f with
  | nil => simp [elements] at he
  | text run rest ih => exact ih hf.2 he
  | element name attributes children rest _ ih =>
    rcases List.mem_cons.1 he with rfl | he
    · exact ⟨hf.1, hf.2.1⟩
    · exact ih hf.2.2 he

/-- What holds everywhere holds inside every element. -/
theorem Forall.of_mem_descendants (hf : f.Forall onChar onTag) {e : Element ν}
    (he : e ∈ f.descendants) : onTag e.name e.attributes ∧ e.children.Forall onChar onTag := by
  induction f with
  | nil => simp [descendants] at he
  | text run rest ih => exact ih hf.2 he
  | element name attributes children rest ihChildren ihRest =>
    rcases List.mem_cons.1 he with rfl | he
    · exact ⟨hf.1, hf.2.1⟩
    · rcases List.mem_append.1 he with he | he
      · exact ihChildren hf.2.1 he
      · exact ihRest hf.2.2 he

/-- The outermost elements of a merged forest are merged inside. -/
theorem IsMerged.of_mem_elements (hf : f.IsMerged) {e : Element ν} (he : e ∈ f.elements) :
    e.children.IsMerged := by
  induction f with
  | nil => simp [elements] at he
  | text run rest ih => exact ih hf.2.2 he
  | element name attributes children rest _ ih =>
    rcases List.mem_cons.1 he with rfl | he
    · exact hf.1
    · exact ih hf.2 he

/-- The elements of a merged forest are merged inside. -/
theorem IsMerged.of_mem_descendants (hf : f.IsMerged) {e : Element ν} (he : e ∈ f.descendants) :
    e.children.IsMerged := by
  induction f with
  | nil => simp [descendants] at he
  | text run rest ih => exact ih hf.2.2 he
  | element name attributes children rest ihChildren ihRest =>
    rcases List.mem_cons.1 he with rfl | he
    · exact hf.1
    · rcases List.mem_append.1 he with he | he
      · exact ihChildren hf.1 he
      · exact ihRest hf.2 he

/-! ## Text in front -/

/-- Only one forest is empty. -/
theorem eq_nil_of_isEmpty (hf : f.isEmpty = true) : f = .nil := by
  cases f with
  | nil => rfl
  | text run rest => simp [isEmpty] at hf
  | element name attributes children rest => simp [isEmpty] at hf

/-- Behind a character a forest is not empty. -/
theorem isEmpty_consChar (c : Char) (f : Forest ν) : (f.consChar c).isEmpty = false := by
  cases f <;> rfl

/-- In front of anything but text, a run becomes a node. -/
theorem consChars_of_not_text {run : Text} (hrun : run ≠ []) (hf : f.startsWithText = false) :
    f.consChars run = .text run f := by
  induction run with
  | nil => exact absurd rfl hrun
  | cons c run ih =>
    cases run with
    | nil =>
      cases f with
      | text => simp [startsWithText] at hf
      | nil => rfl
      | element => rfl
    | cons d run =>
      show (f.consChars (d :: run)).consChar c = _
      rw [ih (by simp)]
      rfl

/-- A character of the right kind keeps what holds everywhere. -/
theorem Forall.consChar (hf : f.Forall onChar onTag) {c : Char} (hc : onChar c) :
    (f.consChar c).Forall onChar onTag := by
  cases f with
  | nil => exact ⟨by simpa using hc, trivial⟩
  | text run rest => exact ⟨List.forall_mem_cons.2 ⟨hc, hf.1⟩, hf.2⟩
  | element name attributes children rest => exact ⟨by simpa using hc, hf⟩

/-- A run of the right kind keeps what holds everywhere. -/
theorem Forall.consChars (hf : f.Forall onChar onTag) {run : Text} (hrun : ∀ c ∈ run, onChar c) :
    (f.consChars run).Forall onChar onTag := by
  induction run with
  | nil => exact hf
  | cons c run ih =>
    exact (ih fun d hd => hrun d (by simp [hd])).consChar (hrun c (by simp))

/-- A character keeps a forest merged. -/
theorem IsMerged.consChar (hf : f.IsMerged) (c : Char) : (f.consChar c).IsMerged := by
  cases f with
  | nil => exact ⟨by simp, rfl, trivial⟩
  | text run rest => exact ⟨by simp, hf.2⟩
  | element name attributes children rest => exact ⟨by simp, rfl, hf⟩

/-- A run keeps a forest merged. -/
theorem IsMerged.consChars (hf : f.IsMerged) (run : Text) : (f.consChars run).IsMerged := by
  induction run with
  | nil => exact hf
  | cons c run ih => exact ih.consChar c

/-! ## Forests side by side -/

/-- Two forests side by side, with the runs of text that meet joined. -/
def meet : Forest ν → Forest ν → Forest ν
  | .nil, g => g
  | .text run rest, g => (meet rest g).consChars run
  | .element name attributes children rest, g => .element name attributes children (meet rest g)

/-- A character in front of the first of two forests is in front of both. -/
theorem consChar_meet (c : Char) (f g : Forest ν) :
    (f.consChar c).meet g = (f.meet g).consChar c := by
  cases f <;> rfl

/-- A run in front of the first of two forests is in front of both. -/
theorem consChars_meet (run : Text) (f g : Forest ν) :
    (f.consChars run).meet g = (f.meet g).consChars run := by
  induction run with
  | nil => rfl
  | cons c run ih =>
    calc ((f.consChars run).consChar c).meet g = ((f.consChars run).meet g).consChar c :=
          consChar_meet c _ g
      _ = ((f.meet g).consChars run).consChar c := by rw [ih]

/-- How forests are grouped does not matter. -/
theorem meet_assoc (f g h : Forest ν) : (f.meet g).meet h = f.meet (g.meet h) := by
  induction f with
  | nil => rfl
  | text run rest ih =>
    show ((rest.meet g).consChars run).meet h = (rest.meet (g.meet h)).consChars run
    rw [consChars_meet, ih]
  | element name attributes children rest _ ih =>
    show Forest.element name attributes children ((rest.meet g).meet h) = _
    rw [ih]
    rfl

/-- A merged forest in front of nothing stays as it is. -/
theorem IsMerged.meet_nil (hf : f.IsMerged) : f.meet .nil = f := by
  induction f with
  | nil => rfl
  | text run rest ih =>
    show (rest.meet .nil).consChars run = .text run rest
    rw [ih hf.2.2, consChars_of_not_text hf.1 hf.2.1]
  | element name attributes children rest _ ih =>
    show Forest.element name attributes children (rest.meet .nil) = _
    rw [ih hf.2]

/-- Merged forests side by side are merged. -/
theorem IsMerged.meet (hf : f.IsMerged) (hg : g.IsMerged) : (f.meet g).IsMerged := by
  induction f with
  | nil => exact hg
  | text run rest ih => exact (ih hf.2.2).consChars run
  | element name attributes children rest _ ih => exact ⟨hf.1, ih hf.2⟩

/-! ## Replaced text -/

/-- A forest with every run of text replaced. -/
def mapText (replace : Text → Text) : Forest ν → Forest ν
  | .nil => .nil
  | .text run rest => .text (replace run) (mapText replace rest)
  | .element name attributes children rest =>
    .element name attributes (mapText replace children) (mapText replace rest)

/-- A forest stays as it is exactly when no run of its text is changed. -/
theorem mapText_eq_self_iff {replace : Text → Text}
    (hreplace : ∀ run, replace run = run ↔ ∀ c ∈ run, onChar c) :
    f.mapText replace = f ↔ f.Forall onChar fun _ _ => True := by
  induction f with
  | nil => exact ⟨fun _ => trivial, fun _ => rfl⟩
  | text run rest ih =>
    show Forest.text (replace run) (rest.mapText replace) = .text run rest ↔ _
    rw [Forest.text.injEq, hreplace run, ih]
    exact Iff.rfl
  | element name attributes children rest ihChildren ihRest =>
    show Forest.element name attributes (children.mapText replace) (rest.mapText replace) =
      .element name attributes children rest ↔ _
    rw [Forest.element.injEq, ihChildren, ihRest]
    constructor
    · rintro ⟨-, -, hchildren, hrest⟩
      exact ⟨trivial, hchildren, hrest⟩
    · rintro ⟨-, hchildren, hrest⟩
      exact ⟨rfl, rfl, hchildren, hrest⟩

/-- What holds of every tag holds when text is replaced by text of the right kind. -/
theorem Forall.mapText {replace : Text → Text}
    (hreplace : ∀ run, (∀ c ∈ run, onChar c) → ∀ c ∈ replace run, onChar c)
    (hf : f.Forall onChar onTag) : (f.mapText replace).Forall onChar onTag := by
  induction f with
  | nil => trivial
  | text run rest ih => exact ⟨hreplace run hf.1, ih hf.2⟩
  | element name attributes children rest ihChildren ihRest =>
    exact ⟨hf.1, ihChildren hf.2.1, ihRest hf.2.2⟩

/-- Replacing text leaves what a forest starts with. -/
theorem startsWithText_mapText (replace : Text → Text) (f : Forest ν) :
    (f.mapText replace).startsWithText = f.startsWithText := by
  cases f <;> rfl

/-- Replacing text keeps a forest merged when no run becomes empty. -/
theorem IsMerged.mapText {replace : Text → Text} (hreplace : ∀ run, run ≠ [] → replace run ≠ [])
    (hf : f.IsMerged) : (f.mapText replace).IsMerged := by
  induction f with
  | nil => trivial
  | text run rest ih =>
    exact ⟨hreplace run hf.1, (startsWithText_mapText replace rest).trans hf.2.1, ih hf.2.2⟩
  | element name attributes children rest ihChildren ihRest =>
    exact ⟨ihChildren hf.1, ihRest hf.2⟩

/-- Replacing text leaves a forest empty or not. -/
theorem isEmpty_mapText (replace : Text → Text) (f : Forest ν) :
    (f.mapText replace).isEmpty = f.isEmpty := by
  cases f <;> rfl

end Forest
end DocMarkup
