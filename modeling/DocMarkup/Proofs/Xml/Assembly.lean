import DocMarkup.Proofs.Forest
import DocMarkup.Proofs.Xml.Event
import DocMarkup.Xml.Content

/-!
# Assembled forests

Events are put in front of what stands behind them. A run of events in which every element is closed
makes the same forest wherever it stands, so runs side by side make forests side by side.

Main definitions:

- {lit}`Xml.Assembles`: the forest that a run of events makes, wherever it stands.
- {lit}`Xml.Assembly.onto`: an assembly in front of another one.

Main results:

- Theorem {lit}`Xml.assembles_of_rawForest?`: a forest that is made alone is made anywhere.
- Theorem {lit}`Xml.Assembles.append`: runs of events side by side make forests side by side.
- Theorem {lit}`Xml.rawForest?_of_putAll`: what stands in a frame that is closed once is a forest.
- Theorem {lit}`Xml.rawForest?_isSound`: what sound events make is sound and merged.
-/

namespace DocMarkup
namespace Xml

variable {es fs : List Event} {f g : Forest Text}

/-! ## Runs of events -/

/-- Events are put in front of what has been assembled from those behind them. -/
theorem Assembly.putAll_append (es fs : List Event) (start : Option Assembly) :
    putAll (es ++ fs) start = putAll es (putAll fs start) := by
  simp [putAll, List.foldr_append]

/-- The first event is put in front last. -/
theorem Assembly.putAll_cons (e : Event) (es : List Event) (start : Option Assembly) :
    putAll (e :: es) start = (putAll es start).bind (put e) := rfl

/-- Behind what cannot be assembled nothing can. -/
theorem Assembly.putAll_none (es : List Event) : putAll es none = none := by
  induction es with
  | nil => rfl
  | cons e es ih =>
    rw [putAll_cons, ih]
    rfl

/-- The forest that a run of events makes, wherever it stands. -/
def Assembles (es : List Event) (f : Forest Text) : Prop :=
  ∀ behind enclosing,
    Assembly.putAll es (some ⟨behind, enclosing⟩) = some ⟨f.meet behind, enclosing⟩

/-- Characters put in front one by one make text. -/
theorem assembles_chars (run : Text) :
    Assembles (run.map fun c => .text [c]) (Forest.nil.consChars run) := by
  intro behind enclosing
  rw [Forest.consChars_meet]
  induction run with
  | nil => rfl
  | cons c run ih =>
    rw [List.map_cons, Assembly.putAll_cons, ih]
    rfl

/-- Runs of events side by side make forests side by side. -/
theorem Assembles.append (hes : Assembles es f) (hfs : Assembles fs g) :
    Assembles (es ++ fs) (f.meet g) := by
  intro behind enclosing
  rw [Assembly.putAll_append, hfs, hes, Forest.meet_assoc]

/-- A run of events between two tags makes an element. -/
theorem Assembles.element (hes : Assembles es f) (hf : f.IsMerged) (name : Text)
    (attributes : List (Text × Text)) :
    Assembles (.startTag name attributes :: (es ++ [.endTag name]))
      (.element name attributes f .nil) := by
  intro behind enclosing
  have hinside : Assembly.putAll (es ++ [.endTag name]) (some ⟨behind, enclosing⟩) =
      some ⟨f, (name, behind) :: enclosing⟩ := by
    rw [Assembly.putAll_append]
    show Assembly.putAll es (some ⟨.nil, (name, behind) :: enclosing⟩) = _
    rw [hes, hf.meet_nil]
  rw [Assembly.putAll_cons, hinside]
  simp [Assembly.put, Forest.meet]

/-- A forest is made alone when no element is left open. -/
theorem rawForest?_eq_some_iff :
    rawForest? es = some f ↔ Assembly.putAll es (some ⟨.nil, []⟩) = some ⟨f, []⟩ := by
  unfold rawForest?
  constructor
  · intro h
    split at h
    · next content halone => rw [halone, Option.some.inj h]
    · simp at h
  · intro h
    rw [h]

/-- A run of events that makes a merged forest anywhere makes it alone. -/
theorem Assembles.rawForest? (hes : Assembles es f) (hf : f.IsMerged) :
    Xml.rawForest? es = some f := by
  simp only [Xml.rawForest?, hes .nil [], hf.meet_nil]

/-! ## From alone to anywhere -/

/-- The frames of an assembly, the outermost of them in front of what follows. -/
def graft (behind : Forest Text) : List (Text × Forest Text) → List (Text × Forest Text)
  | [] => []
  | [(name, after)] => [(name, after.meet behind)]
  | frame :: next :: frames => frame :: graft behind (next :: frames)

/-- An assembly in front of another one. -/
def Assembly.onto (assembly : Assembly) (behind : Forest Text)
    (enclosing : List (Text × Forest Text)) : Assembly :=
  match assembly.enclosing with
  | [] => ⟨assembly.content.meet behind, enclosing⟩
  | frames => ⟨assembly.content, graft behind frames ++ enclosing⟩

/-- An event can be put in front of an assembly wherever the assembly stands. -/
theorem Assembly.put_onto {e : Event} {assembly next : Assembly} (h : put e assembly = some next)
    (behind : Forest Text) (enclosing : List (Text × Forest Text)) :
    put e (assembly.onto behind enclosing) = some (next.onto behind enclosing) := by
  rcases assembly with ⟨content, frames⟩
  cases e with
  | text run =>
    obtain rfl : ⟨content.consChars run, frames⟩ = next := by simpa [put] using h
    cases frames with
    | nil => simp [put, onto, Forest.consChars_meet]
    | cons frame frames => rfl
  | endTag name =>
    obtain rfl : ⟨.nil, (name, content) :: frames⟩ = next := by simpa [put] using h
    cases frames with
    | nil => rfl
    | cons frame frames => rfl
  | startTag name attributes =>
    cases frames with
    | nil => simp [put] at h
    | cons frame frames =>
      rcases frame with ⟨closing, after⟩
      simp only [put] at h
      split at h
      · next hname =>
        obtain rfl : ⟨.element name attributes content after, frames⟩ = next := by simpa using h
        cases frames with
        | nil => simp [put, onto, graft, hname, Forest.meet]
        | cons frame frames => simp [put, onto, graft, hname]
      · simp at h

/-- What a run of events makes alone, it makes in front of anything. -/
theorem Assembly.putAll_onto {es : List Event} {assembly : Assembly}
    (h : putAll es (some ⟨.nil, []⟩) = some assembly) (behind : Forest Text)
    (enclosing : List (Text × Forest Text)) :
    putAll es (some ⟨behind, enclosing⟩) = some (assembly.onto behind enclosing) := by
  induction es generalizing assembly with
  | nil =>
    obtain rfl : (⟨.nil, []⟩ : Assembly) = assembly := by simpa [putAll] using h
    rfl
  | cons e es ih =>
    rw [putAll_cons, Option.bind_eq_some_iff] at h
    rcases h with ⟨assembly', hassembly', hput⟩
    rw [putAll_cons, ih hassembly', Option.bind_some, put_onto hput]

/-- A forest that is made alone is made anywhere. -/
theorem assembles_of_rawForest? (h : rawForest? es = some f) : Assembles es f := by
  simp only [rawForest?] at h
  split at h
  · next content halone =>
    obtain rfl : content = f := by simpa using h
    exact fun behind enclosing => Assembly.putAll_onto halone behind enclosing
  · simp at h

/-! ## A frame that is closed once -/

/-- What stands behind the outermost element that is open, or all of it when none is. -/
def Assembly.bottom (assembly : Assembly) : Forest Text :=
  (assembly.enclosing.getLast?.map Prod.snd).getD assembly.content

/-- An event leaves no forest empty that was not. -/
theorem Assembly.bottom_put {e : Event} {assembly next : Assembly}
    (h : Assembly.put e assembly = some next) (hbottom : assembly.bottom.isEmpty = false) :
    next.bottom.isEmpty = false := by
  rcases assembly with ⟨content, frames⟩
  cases e with
  | text run =>
    obtain rfl : ⟨content.consChars run, frames⟩ = next := by simpa [Assembly.put] using h
    cases hlast : frames.getLast? with
    | none =>
      have hcontent : content.isEmpty = false := by simpa [bottom, hlast] using hbottom
      have hmore : (content.consChars run).isEmpty = false := by
        cases run with
        | nil => exact hcontent
        | cons c run => exact Forest.isEmpty_consChar c (content.consChars run)
      simpa [bottom, hlast] using hmore
    | some frame => simpa [bottom, hlast] using hbottom
  | endTag name =>
    obtain rfl : ⟨.nil, (name, content) :: frames⟩ = next := by simpa [Assembly.put] using h
    cases hlast : frames.getLast? with
    | none => simpa [bottom, hlast, List.getLast?_cons] using hbottom
    | some frame => simpa [bottom, hlast, List.getLast?_cons] using hbottom
  | startTag name attributes =>
    cases frames with
    | nil => simp [Assembly.put] at h
    | cons frame frames =>
      simp only [Assembly.put] at h
      split at h
      · obtain rfl : ⟨.element name attributes content frame.2, frames⟩ = next := by simpa using h
        cases hlast : frames.getLast? with
        | none => simp [bottom, hlast, Forest.isEmpty]
        | some last => simpa [bottom, hlast, List.getLast?_cons] using hbottom
      · simp at h

/-- Events in front of one open element with nothing behind it: either they leave it alone, or there
is something behind the outermost element that is open then. -/
theorem Assembly.putAll_frame {es : List Event} {name : Text} {assembly : Assembly}
    (h : Assembly.putAll es (some ⟨.nil, [(name, .nil)]⟩) = some assembly) :
    (∃ alone, Assembly.putAll es (some ⟨.nil, []⟩) = some alone ∧
        assembly = ⟨alone.content, alone.enclosing ++ [(name, .nil)]⟩) ∨
      assembly.bottom.isEmpty = false := by
  induction es generalizing assembly with
  | nil =>
    obtain rfl : (⟨.nil, [(name, .nil)]⟩ : Assembly) = assembly := by simpa [putAll] using h
    exact Or.inl ⟨⟨.nil, []⟩, rfl, rfl⟩
  | cons e es ih =>
    rw [putAll_cons, Option.bind_eq_some_iff] at h
    rcases h with ⟨before, hbefore, hput⟩
    rcases ih hbefore with ⟨⟨content, frames⟩, halone, rfl⟩ | hbottom
    · rw [putAll_cons, halone, Option.bind_some]
      cases e with
      | text run =>
        have hnext := Option.some.inj hput
        exact Or.inl ⟨_, rfl, hnext.symm⟩
      | endTag last =>
        have hnext := Option.some.inj hput
        exact Or.inl ⟨_, rfl, hnext.symm⟩
      | startTag first attributes =>
        cases frames with
        | nil =>
          simp only [List.nil_append, Assembly.put] at hput
          split at hput
          · have hnext := Option.some.inj hput
            exact Or.inr (by rw [← hnext]; rfl)
          · simp at hput
        | cons frame frames =>
          simp only [List.cons_append, Assembly.put] at hput
          split at hput
          · next hname =>
            have hnext := Option.some.inj hput
            exact Or.inl ⟨_, by simp only [Assembly.put]; rw [if_pos hname], hnext.symm⟩
          · simp at hput
    · exact Or.inr (bottom_put hput hbottom)

/-- What stands in one frame, with nothing behind it, is a forest of its own. -/
theorem rawForest?_of_putAll {es : List Event} {name last : Text} {content : Forest Text}
    (h : Assembly.putAll es (some ⟨.nil, [(name, .nil)]⟩) = some ⟨content, [(last, .nil)]⟩) :
    rawForest? es = some content := by
  rcases Assembly.putAll_frame h with ⟨⟨inner, frames⟩, halone, heq⟩ | hbottom
  · cases frames with
    | nil =>
      obtain rfl : content = inner := congrArg Assembly.content heq
      simp only [rawForest?, halone]
    | cons frame frames => simp at heq
  · simp [Assembly.bottom, Forest.isEmpty] at hbottom

/-! ## Sound events -/

/-- An assembly of merged forests made of sound parts. -/
def Assembly.IsSound (isName : Text → Prop) (assembly : Assembly) : Prop :=
  (assembly.content.Forall (isChar · = true) (IsSoundTag isName) ∧ assembly.content.IsMerged) ∧
    ∀ frame ∈ assembly.enclosing,
      frame.2.Forall (isChar · = true) (IsSoundTag isName) ∧ frame.2.IsMerged

variable {isName : Text → Prop}

/-- Putting a sound event in front keeps an assembly sound. -/
theorem Assembly.IsSound.put {assembly next : Assembly} (hassembly : assembly.IsSound isName)
    {e : Event} (he : e.IsSound isName) (h : Assembly.put e assembly = some next) :
    next.IsSound isName := by
  rcases assembly with ⟨content, frames⟩
  rcases hassembly with ⟨⟨hcontent, hmerged⟩, hframes⟩
  cases e with
  | text run =>
    obtain rfl : ⟨content.consChars run, frames⟩ = next := by simpa [Assembly.put] using h
    exact ⟨⟨hcontent.consChars he, hmerged.consChars run⟩, hframes⟩
  | endTag name =>
    obtain rfl : ⟨.nil, (name, content) :: frames⟩ = next := by simpa [Assembly.put] using h
    exact ⟨⟨trivial, trivial⟩, List.forall_mem_cons.2 ⟨⟨hcontent, hmerged⟩, hframes⟩⟩
  | startTag name attributes =>
    cases frames with
    | nil => simp [Assembly.put] at h
    | cons frame frames =>
      rcases List.forall_mem_cons.1 hframes with ⟨⟨hafter, hafterMerged⟩, hframes⟩
      simp only [Assembly.put] at h
      split at h
      · obtain rfl : ⟨.element name attributes content frame.2, frames⟩ = next := by simpa using h
        exact ⟨⟨⟨he, hcontent, hafter⟩, hmerged, hafterMerged⟩, hframes⟩
      · simp at h

/-- What sound events make is sound and merged. -/
theorem rawForest?_isSound (hes : ∀ e ∈ es, e.IsSound isName) (h : rawForest? es = some f) :
    f.Forall (isChar · = true) (IsSoundTag isName) ∧ f.IsMerged := by
  have hall : ∀ assembly, Assembly.putAll es (some ⟨.nil, []⟩) = some assembly →
      assembly.IsSound isName := by
    clear h
    induction es with
    | nil =>
      rintro assembly h
      obtain rfl : (⟨.nil, []⟩ : Assembly) = assembly := by simpa [Assembly.putAll] using h
      exact ⟨⟨trivial, trivial⟩, by simp⟩
    | cons e es ih =>
      rintro assembly h
      rw [Assembly.putAll_cons, Option.bind_eq_some_iff] at h
      rcases h with ⟨assembly', hassembly', hput⟩
      rcases List.forall_mem_cons.1 hes with ⟨he, hes⟩
      exact (ih hes assembly' hassembly').put he hput
  simp only [rawForest?] at h
  split at h
  · next content halone =>
    obtain rfl : content = f := by simpa using h
    exact (hall _ halone).1
  · simp at h

end Xml
end DocMarkup
