import DocMarkup.Proofs.Xml.Expansion
import DocMarkup.Text.Lines

/-!
# Content that is read

Content has plain local names, namespaces that can be declared and merged text. Contents side by side
are the content of both texts, and lines of content joined by line feeds are content.

Main definitions:

- {lit}`Xml.Builds`: the raw forest that some tokens make, wherever they stand.

Main results:

- Theorem {lit}`Xml.readContent?_eq_some_iff`: content is read in three stages.
- Theorem {lit}`Xml.readContent?_isContent`: what is read can be written.
- Theorem {lit}`Xml.readContent?_append`: texts side by side are read apart.
- Theorem {lit}`Xml.readContent?_line_of_ne`: so are two lines, with a line feed between them.
- Theorem {lit}`Xml.readContent?_joinLines`: lines of content are content.
-/

namespace DocMarkup
namespace Xml

variable {s t : Text} {f g : Forest QName} {a b : List Token} {raw raw₁ raw₂ : Forest Text}

/-! ## From tokens to forests -/

/-- The merged raw forest that some tokens make, wherever they stand, when nothing is declared. -/
def Builds (tokens : List Token) (raw : Forest Text) : Prop :=
  raw.IsMerged ∧ ∃ events, Declarations.none.events? tokens = some events ∧ Assembles events raw

/-- Tokens side by side make forests side by side. -/
theorem Builds.append (ha : Builds a raw₁) (hb : Builds b raw₂) :
    Builds (a ++ b) (raw₁.meet raw₂) := by
  rcases ha with ⟨hmerged₁, es, hes, hassembles₁⟩
  rcases hb with ⟨hmerged₂, fs, hfs, hassembles₂⟩
  refine ⟨hmerged₁.meet hmerged₂, es ++ fs, ?_, hassembles₁.append hassembles₂⟩
  simp [Declarations.events?_append, hes, hfs]

/-- Characters make text. -/
theorem builds_charTokens (run : Text) : Builds (charTokens run) (Forest.nil.consChars run) :=
  ⟨Forest.IsMerged.consChars (f := .nil) trivial run, _, Declarations.events?_charTokens run,
    assembles_chars run⟩

/-- Characters in front of tokens make a run in front of their forest. -/
theorem Builds.consChars (hb : Builds b raw) (run : Text) :
    Builds (charTokens run ++ b) (raw.consChars run) := by
  simpa [Forest.consChars_meet, Forest.meet] using (builds_charTokens run).append hb

/-- Tokens between two tags make an element. -/
theorem Builds.element (ha : Builds a raw) (name : Text) (attributes : List (Text × Text)) :
    Builds (.startTag name (attributes.map fun e => (e.1, e.2.map .char)) :: (a ++ [.endTag name]))
      (.element name attributes raw .nil) := by
  rcases ha with ⟨hmerged, es, hes, hassembles⟩
  refine ⟨⟨hmerged, trivial⟩, .startTag name attributes :: (es ++ [.endTag name]), ?_,
    hassembles.element hmerged name attributes⟩
  rw [← List.singleton_append, Declarations.events?_append, Declarations.events?_append, hes,
    Declarations.events?_singleton, Declarations.events?_singleton]
  simp [Declarations.attributes?_none]

/-! ## Stages -/

/-- A text is read in three stages: its tokens, their raw forest, and its expansion. -/
theorem readContent?_eq_some_iff :
    readContent? s = some f ↔ ∃ tokens raw, Lexes .standard s tokens ∧ Builds tokens raw ∧
      expand? .initial raw = some f := by
  have hstandard := CharRule.standard_isLawful
  simp only [readContent?, Option.bind_eq_bind, Option.bind_eq_some_iff,
    tokens?_eq_some_iff hstandard]
  constructor
  · rintro ⟨tokens, htokens, events, hevents, raw, hraw, hexpand⟩
    have hsound := Declarations.events?_isSound Declarations.none_isSound (fun _ h => h)
      (fun _ h => h) (htokens.isSound hstandard) hevents
    exact ⟨tokens, raw, htokens,
      ⟨(rawForest?_isSound hsound hraw).2, events, hevents, assembles_of_rawForest? hraw⟩, hexpand⟩
  · rintro ⟨tokens, raw, htokens, ⟨hmerged, events, hevents, hassembles⟩, hexpand⟩
    exact ⟨tokens, htokens, events, hevents, raw, hassembles.rawForest? hmerged, hexpand⟩

/-- What is read as content can be written: its names are plain, its namespaces can be declared, and
its text is merged. -/
theorem readContent?_isContent (h : readContent? s = some f) :
    IsContent (fun name => isPlainName .standard name = true) f := by
  have hstandard := CharRule.standard_isLawful
  obtain ⟨tokens, raw, htokens, ⟨hmerged, events, hevents, hassembles⟩, hexpand⟩ :=
    readContent?_eq_some_iff.1 h
  have hsound := Declarations.events?_isSound Declarations.none_isSound (fun _ h => h)
    (fun _ h => h) (htokens.isSound hstandard) hevents
  have hraw := (rawForest?_isSound hsound (hassembles.rawForest? hmerged)).1
  exact ⟨expand?_isSound (cutsTo_plain hstandard) Bindings.initial_isSound hraw hexpand,
    expand?_isMerged hmerged hexpand⟩

/-! ## Texts side by side -/

/-- Texts side by side are read apart when they make nothing new where they meet. -/
theorem readContent?_append (hs : readContent? s = some f) (ht : readContent? t = some g)
    (hmeets : Meets s t) : readContent? (s ++ t) = some (f.meet g) := by
  rcases readContent?_eq_some_iff.1 hs with ⟨a, raw₁, ha, hbuilds₁, hexpand₁⟩
  rcases readContent?_eq_some_iff.1 ht with ⟨b, raw₂, hb, hbuilds₂, hexpand₂⟩
  exact readContent?_eq_some_iff.2 ⟨a ++ b, raw₁.meet raw₂,
    ha.append CharRule.standard_isLawful hb hmeets, hbuilds₁.append hbuilds₂,
    expand?_meet hexpand₁ hexpand₂⟩

/-- Two lines of content are content. A carriage return at the end of the first line takes the line
feed between them with it. -/
theorem readContent?_line (hs : readContent? s = some f) (ht : readContent? t = some g) :
    ∃ lineBreak, (lineBreak = ['\n'] ∨ lineBreak = []) ∧
      readContent? (s ++ '\n' :: t) = some (f.meet (g.consChars lineBreak)) := by
  rcases readContent?_eq_some_iff.1 hs with ⟨a, raw₁, ha, hbuilds₁, hexpand₁⟩
  rcases readContent?_eq_some_iff.1 ht with ⟨b, raw₂, hb, hbuilds₂, hexpand₂⟩
  rcases ha.joined CharRule.standard_isLawful hb with ⟨lineBreak, hbreak, hlexes⟩
  exact ⟨lineBreak, hbreak, readContent?_eq_some_iff.2 ⟨_, raw₁.meet (raw₂.consChars lineBreak),
    hlexes, hbuilds₁.append (hbuilds₂.consChars lineBreak),
    expand?_meet hexpand₁ (expand?_consChars hexpand₂ lineBreak)⟩⟩

/-- A line feed in front of content is its first character. -/
theorem readContent?_feed (ht : readContent? t = some g) :
    readContent? ('\n' :: t) = some (g.consChar '\n') := by
  rcases readContent?_eq_some_iff.1 ht with ⟨b, raw, hb, hbuilds, hexpand⟩
  have hfeed : Lexes .standard ('\n' :: t) (charTokens ['\n'] ++ b) :=
    .step (by rw [step?_char (by decide) (by decide) (by simp [Seam])]; rfl) hb
  exact readContent?_eq_some_iff.2 ⟨_, raw.consChars ['\n'], hfeed, hbuilds.consChars ['\n'],
    expand?_consChars hexpand ['\n']⟩

/-- Two lines of content are the content of both with a line feed between them, unless a carriage
return at the end of the first line takes it. -/
theorem readContent?_line_of_ne (hs : readContent? s = some f) (ht : readContent? t = some g)
    (hend : s.getLast? ≠ some '\r') :
    readContent? (s ++ '\n' :: t) = some (f.meet (g.consChar '\n')) :=
  readContent?_append hs (readContent?_feed ht)
    { lineBreak := fun hlast => absurd hlast hend, close := by simp, closeRest := by simp }

/-- Lines of content are content. -/
theorem readContent?_joinLines {lines : List Text}
    (hlines : ∀ line ∈ lines, (readContent? line).isSome) :
    (readContent? (Text.joinLines lines)).isSome := by
  induction lines with
  | nil => rfl
  | cons line lines ih =>
    rcases List.forall_mem_cons.1 hlines with ⟨hline, hlines⟩
    cases lines with
    | nil => simpa [Text.joinLines, List.intercalate] using hline
    | cons next lines =>
      rcases Option.isSome_iff_exists.1 hline with ⟨f, hf⟩
      rcases Option.isSome_iff_exists.1 (ih hlines) with ⟨g, hg⟩
      rcases readContent?_line hf hg with ⟨lineBreak, _, hjoined⟩
      have hsplit : Text.joinLines (line :: next :: lines) =
          line ++ '\n' :: Text.joinLines (next :: lines) := by
        simp [Text.joinLines, List.intercalate]
      rw [hsplit, hjoined]
      rfl

end Xml
end DocMarkup
