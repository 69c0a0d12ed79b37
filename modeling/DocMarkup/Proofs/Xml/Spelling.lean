import DocMarkup.Proofs.Text.Breaks
import DocMarkup.Proofs.Xml.Content
import DocMarkup.Xml.Writer

/-!
# Spelled forests

A raw forest is spelled with its marks escaped. Values are read back as they are; of a run of text
the line breaks are unified, because carriage returns are written out.

Main definitions:

- {lit}`Xml.IsFence`: what may stand behind a run of text.
- {lit}`Xml.Spells`: a text that is read as a raw forest wherever it stands.
- {lit}`Xml.spell`: a raw forest as written.

Main results:

- Theorem {lit}`Xml.quotedValue?_escapeValue`: an attribute value is read back.
- Theorem {lit}`Xml.lexes_escapeRun`: a run of text is read back with unified line breaks.
- Theorems {lit}`Xml.Spells.text` and {lit}`Xml.Spells.element`: spellings of the nodes of a forest.
- Theorem {lit}`Xml.readContent?_spell`: a spelled forest is read back.
-/

namespace DocMarkup
namespace Xml

open Text (unifyBreaks)

/-! ## Escapes -/

/-- A text that stands for a character when it is written between an ampersand and a semicolon. -/
def IsReference (escaped : Text) (c : Char) : Prop :=
  ∃ body, escaped = '&' :: (body ++ [';']) ∧ ';' ∉ body ∧ '"' ∉ body ∧
    reference? .standard body = some (.char c)

/-- A character of a run is written by reference, or as it is when it is no mark. -/
theorem escapeRunChar_eq (c : Char) :
    IsReference (escapeRunChar c) c ∨
      escapeRunChar c = [c] ∧ c ≠ '&' ∧ c ≠ '<' ∧ c ≠ '>' := by
  unfold escapeRunChar
  split
  · next h => exact .inl ⟨"amp".toList, rfl, by decide, by decide, by rw [h]; decide⟩
  · split
    · next h => exact .inl ⟨"lt".toList, rfl, by decide, by decide, by rw [h]; decide⟩
    · split
      · next h => exact .inl ⟨"gt".toList, rfl, by decide, by decide, by rw [h]; decide⟩
      · next hamp hlt hgt => exact .inr ⟨rfl, hamp, hlt, hgt⟩

/-- A character of a value is written by reference, or as it is when it is no mark and no space but
the plain one. -/
theorem escapeValueChar_eq (c : Char) :
    IsReference (escapeValueChar c) c ∨
      escapeValueChar c = [c] ∧ c ≠ '&' ∧ c ≠ '<' ∧ c ≠ '"' ∧ (isSpace c = true → c = ' ') := by
  unfold escapeValueChar
  split
  · next h => exact .inl ⟨"quot".toList, rfl, by decide, by decide, by rw [h]; decide⟩
  · split
    · next h => exact .inl ⟨"#13".toList, rfl, by decide, by decide, by rw [h]; decide⟩
    · split
      · next h => exact .inl ⟨"#10".toList, rfl, by decide, by decide, by rw [h]; decide⟩
      · split
        · next h => exact .inl ⟨"#09".toList, rfl, by decide, by decide, by rw [h]; decide⟩
        · next hquote hreturn hfeed htab =>
          rcases escapeRunChar_eq c with href | ⟨heq, hamp, hlt, _⟩
          · exact .inl href
          · exact .inr ⟨heq, hamp, hlt, hquote, by simp [isSpace, hreturn, hfeed, htab]⟩

/-! ## Values -/

/-- A reference in a value is read up to its semicolon. -/
theorem valueReference?_append {rule : CharRule} {body : Text} (hbody : ';' ∉ body)
    (read rest : Text) :
    valueReference? rule read (body ++ ';' :: rest) =
      (reference? rule (read ++ body)).bind fun piece =>
        (piece :: ·) <$> valuePieces? rule rest := by
  induction body generalizing read with
  | nil => simp [valueReference?]
  | cons c body ih =>
    rw [List.cons_append, valueReference?, ih (fun h => hbody (List.mem_cons_of_mem _ h))]
    · simp
    · rintro rfl
      simp at hbody

/-- A value is read back from between its quotes. -/
theorem valuePieces?_escapeValue {value : Text} (hvalue : IsRun value) :
    valuePieces? .standard (escapeValue value) = some (value.map .char) := by
  induction value with
  | nil => rfl
  | cons c value ih =>
    rcases List.forall_mem_cons.1 hvalue with ⟨hc, hvalue⟩
    have hcons : escapeValue (c :: value) = escapeValueChar c ++ escapeValue value := rfl
    rw [hcons]
    rcases escapeValueChar_eq c with ⟨body, heq, hbody, _, href⟩ | ⟨heq, hamp, hlt, _, hspace⟩
    · rw [heq, List.cons_append, List.append_assoc, List.singleton_append, valuePieces?,
        valueReference?_append hbody, List.nil_append, href, ih hvalue]
      rfl
    · have hreturn : c ≠ '\r' := by
        rintro rfl
        have hspaceEq : '\r' = ' ' := hspace rfl
        simp at hspaceEq
      rw [heq, List.singleton_append, valuePieces?, ih hvalue]
      · by_cases hblank : isSpace c = true
        · obtain rfl := hspace hblank
          rfl
        · simp [hblank, hc]
      · exact hlt
      · exact hamp
      · exact fun _ h _ => hreturn h

/-- A value is spelled without a double quote. -/
theorem quote_not_mem_escapeValue (value : Text) : '"' ∉ escapeValue value := by
  intro hmem
  rcases List.mem_flatMap.1 hmem with ⟨c, _, hc⟩
  rcases escapeValueChar_eq c with ⟨body, heq, _, hquote, _⟩ | ⟨heq, _, _, hquote, _⟩
  · rw [heq] at hc
    simp [hquote] at hc
  · rw [heq] at hc
    exact hquote (Eq.symm (by simpa using hc))

/-- An attribute value is read back. -/
theorem quotedValue?_escapeValue {value : Text} (hvalue : IsRun value) (rest : Text) :
    quotedValue? .standard ('"' :: (escapeValue value ++ ['"']) ++ rest) =
      some (value.map .char, rest) := by
  have hrun : ∀ c ∈ escapeValue value, (c != '"') = true := fun c hc =>
    bne_iff_ne.2 fun h => quote_not_mem_escapeValue value (h ▸ hc)
  have hstop : Text.Stops (· != '"') ('"' :: rest) := by simp
  rw [List.cons_append, List.append_assoc, List.singleton_append]
  simp only [quotedValue?, Text.dropWhile_run hrun hstop, Text.takeWhile_run hrun hstop,
    valuePieces?_escapeValue hvalue]
  rfl

/-! ## Tags -/

/-- Attributes as written, under raw names. -/
def spellAttributes (attributes : List (Text × Text)) : Text :=
  attributes.flatMap fun (raw, value) =>
    ' ' :: raw ++ "=\"".toList ++ escapeValue value ++ ['"']

/-- Attributes are a spelling of themselves, with or without space behind them. -/
theorem spelled_spellAttributes {attributes : List (Text × Text)}
    (hattributes : ∀ e ∈ attributes, IsQualified .standard e.1 ∧ IsRun e.2) {spaces : Text}
    (hspaces : ∀ c ∈ spaces, isSpace c = true) :
    Spelled .standard (spellAttributes attributes ++ spaces)
      (attributes.map fun e => (e.1, e.2.map .char)) := by
  induction attributes with
  | nil => exact .nil hspaces
  | cons e attributes ih =>
    rcases e with ⟨raw, value⟩
    rcases List.forall_mem_cons.1 hattributes with ⟨⟨hraw, hvalue⟩, hattributes⟩
    have hspelled : Spelled .standard ([' '] ++ (raw ++ ([] ++ '=' :: ([] ++
        (('"' :: (escapeValue value ++ ['"'])) ++ (spellAttributes attributes ++ spaces))))))
        ((raw, value.map .char) :: attributes.map fun e => (e.1, e.2.map .char)) :=
      .cons (List.forall_mem_singleton.2 rfl) (by simp) hraw (by simp) (by simp)
        (quotedValue?_escapeValue hvalue) (ih hattributes)
    simpa [spellAttributes] using hspelled

/-- A tag begins with the first character of its name. -/
theorem step?_startTag {rule : CharRule} {raw : Text} (hraw : IsRaw raw) (rest : Text) :
    step? rule ('<' :: (raw ++ rest)) = startTag? rule (raw ++ rest) := by
  rcases hraw.exists_cons with ⟨c, tail, rfl, hmark⟩
  rw [List.cons_append, step?]
  · rintro more hmore
    exact hmark '/' (by decide) (by decide) (List.cons.inj hmore).1
  · rintro more hmore
    exact hmark '!' (by decide) (by decide) (List.cons.inj hmore).1
  · rintro more hmore
    exact hmark '?' (by decide) (by decide) (List.cons.inj hmore).1

/-! ## Text -/

/-- What may stand behind a run of text: a tag, or nothing. -/
def IsFence (t : Text) : Prop := ∀ c ∈ t.head?, c = '<'

/-- A tag is a fence. -/
theorem isFence_tag (t : Text) : IsFence ('<' :: t) := by simp [IsFence]

/-- No run of text, with a fence behind it, begins with a closing bracket. -/
theorem head?_escapeRun (run : Text) {t : Text} (ht : IsFence t) :
    (escapeRun run ++ t).head? ≠ some '>' := by
  cases run with
  | nil =>
    intro hhead
    exact absurd (ht _ hhead) (by decide)
  | cons c run =>
    have hcons : escapeRun (c :: run) = escapeRunChar c ++ escapeRun run := rfl
    rw [hcons]
    rcases escapeRunChar_eq c with ⟨body, heq, _⟩ | ⟨heq, _, _, hgt⟩
    · simp [heq]
    · simpa [heq] using hgt

/-- A character of a run that is no mark keeps its seam when the run goes on, unless it makes a line
break with the next one. -/
theorem seam_escapeRun {c : Char} {run t : Text} (ht : IsFence t)
    (hbreak : ∀ rest, c = '\r' → run = '\n' :: rest → False) : Seam [c] (escapeRun run ++ t) := by
  cases run with
  | nil =>
    constructor
    · intro _ hhead
      exact absurd (ht _ hhead) (by decide)
    · rintro _ ⟨more, rfl⟩
      exact absurd (ht ']' rfl) (by decide)
  | cons d run =>
    have hcons : escapeRun (d :: run) = escapeRunChar d ++ escapeRun run := rfl
    rw [hcons]
    rcases escapeRunChar_eq d with ⟨body, heq, _⟩ | ⟨heq, _, _, _⟩
    · simp [heq, Seam]
    · rw [heq, List.append_assoc, List.singleton_append]
      constructor
      · intro hc hhead
        obtain rfl : d = '\n' := by simpa using hhead
        exact hbreak run (by simpa using hc) rfl
      · rintro _ ⟨more, hmore⟩
        obtain ⟨_, hbehind⟩ : ']' = d ∧ '>' :: more = escapeRun run ++ t := by simpa using hmore
        exact head?_escapeRun run ht (by simp [← hbehind])

/-- A character of a run is read from its escape, a carriage return as a line feed. -/
theorem step?_escapeRunChar {c : Char} {run t : Text} (hc : isChar c = true) (ht : IsFence t)
    (hbreak : ∀ rest, c = '\r' → run = '\n' :: rest → False) :
    step? .standard (escapeRunChar c ++ (escapeRun run ++ t)) =
      some (charTokens [if c = '\r' then '\n' else c], escapeRun run ++ t) := by
  rcases escapeRunChar_eq c with ⟨body, heq, hbody, _, href⟩ | ⟨heq, hamp, hlt, _⟩
  · have hreturn : c ≠ '\r' := by
      rintro rfl
      simp [escapeRunChar] at heq
    rw [heq, if_neg hreturn, List.cons_append, List.append_assoc, List.singleton_append]
    exact step?_reference.2 ⟨body, .char c, rfl, hbody, href, rfl⟩
  · have hread : (if c = '\r' then CharRule.standard.lineEnd [c] else [c]) =
        [if c = '\r' then '\n' else c] := by
      rw [CharRule.standard_lineEnd]
      split <;> rfl
    rw [heq, List.singleton_append, step?_char hlt hamp (seam_escapeRun ht hbreak), if_pos hc, hread]

/-- A run of text is read back character by character, with its line breaks unified. -/
theorem lexes_escapeRun {run : Text} (hrun : IsRun run) {t : Text} {tokens : List Token}
    (ht : IsFence t) (hlexes : Lexes .standard t tokens) :
    Lexes .standard (escapeRun run ++ t) (charTokens (unifyBreaks run) ++ tokens) := by
  induction run using Text.unifyBreaks.induct with
  | case1 => exact hlexes
  | case2 rest ih =>
    have hread := ih fun c hc => hrun c (by simp [hc])
    exact (.step rfl hread : Lexes .standard ('\r' :: '\n' :: (escapeRun rest ++ t))
      ([.piece (.char '\n')] ++ (charTokens (unifyBreaks rest) ++ tokens)))
  | case3 c rest hbreak ih =>
    rcases List.forall_mem_cons.1 hrun with ⟨hc, hrest⟩
    have hcons : escapeRun (c :: rest) = escapeRunChar c ++ escapeRun rest := rfl
    have hunified : unifyBreaks (c :: rest) =
        (if c = '\r' then '\n' else c) :: unifyBreaks rest := by
      rw [unifyBreaks]
      exact hbreak
    rw [hcons, hunified, List.append_assoc]
    have hread := Lexes.step (step?_escapeRunChar hc ht hbreak) (ih hrest)
    exact hread

/-! ## Spellings of forests -/

/-- A text that is read as a raw forest wherever a fence stands behind it. -/
def Spells (s : Text) (f : Forest Text) : Prop :=
  ∃ tokens, Builds tokens f ∧ ∀ {t behind}, IsFence t → Lexes .standard t behind →
    Lexes .standard (s ++ t) (tokens ++ behind)

namespace Spells

variable {raw s content : Text} {attributes : List (Text × Text)} {f children : Forest Text}

/-- Nothing spells the forest without nodes. -/
theorem nil : Spells [] .nil := ⟨[], builds_charTokens [], fun _ ht => ht⟩

/-- An escaped run of text spells it in front of anything else, with unified line breaks. -/
theorem text {run : Text} (hrun : IsRun run) (hne : run ≠ []) (hs : Spells s f)
    (hstarts : f.startsWithText = false) (hfence : ∀ {t}, IsFence t → IsFence (s ++ t)) :
    Spells (escapeRun run ++ s) (.text (unifyBreaks run) f) := by
  rcases hs with ⟨tokens, hbuilds, hlexes⟩
  refine ⟨charTokens (unifyBreaks run) ++ tokens, ?_, fun ht hbehind => ?_⟩
  · have hjoined := hbuilds.consChars (unifyBreaks run)
    rwa [Forest.consChars_of_not_text (Text.unifyBreaks_ne_nil hne) hstarts] at hjoined
  · rw [List.append_assoc, List.append_assoc]
    exact lexes_escapeRun hrun (hfence ht) (hlexes ht hbehind)

/-- Tokens between two tags make an element in front of what the tokens behind it make. -/
theorem builds_element {inside tokens : List Token} (hinside : Builds inside children)
    (hbuilds : Builds tokens f) (raw : Text) (attributes : List (Text × Text)) :
    Builds (.startTag raw (attributes.map fun e => (e.1, e.2.map .char)) ::
      (inside ++ .endTag raw :: tokens)) (.element raw attributes children f) := by
  simpa [Forest.meet] using (hinside.element raw attributes).append hbuilds

/-- A single tag spells an element without content. -/
theorem emptyElement (hraw : IsQualified .standard raw)
    (hattributes : ∀ e ∈ attributes, IsQualified .standard e.1 ∧ IsRun e.2) (hs : Spells s f) :
    Spells ('<' :: (raw ++ ((spellAttributes attributes ++ [' ']) ++ '/' :: '>' :: s)))
      (.element raw attributes .nil f) := by
  have hrule := CharRule.standard_isLawful
  rcases hs with ⟨tokens, hbuilds, hlexes⟩
  refine ⟨_, builds_element (builds_charTokens []) hbuilds raw attributes, fun ht hbehind => ?_⟩
  have hspelled : Spelled .standard (spellAttributes attributes ++ [' ']) _ :=
    spelled_spellAttributes hattributes (List.forall_mem_singleton.2 rfl)
  have hwhole := Lexes.step
    ((step?_startTag (hraw.isRaw hrule) _).trans (hspelled.emptyTag? hrule hraw _))
    (hlexes ht hbehind)
  simpa [charTokens] using hwhole

/-- Two tags spell an element around what spells its content. -/
theorem element (hraw : IsQualified .standard raw)
    (hattributes : ∀ e ∈ attributes, IsQualified .standard e.1 ∧ IsRun e.2)
    (hcontent : Spells content children) (hs : Spells s f) :
    Spells ('<' :: (raw ++ (spellAttributes attributes ++ '>' :: (content ++
      '<' :: '/' :: (raw ++ '>' :: s))))) (.element raw attributes children f) := by
  have hrule := CharRule.standard_isLawful
  rcases hcontent with ⟨inside, hinside, hlexesInside⟩
  rcases hs with ⟨tokens, hbuilds, hlexes⟩
  refine ⟨_, builds_element hinside hbuilds raw attributes, fun {t behind} ht hbehind => ?_⟩
  have hspelled : Spelled .standard (spellAttributes attributes ++ []) _ :=
    spelled_spellAttributes hattributes (by simp)
  have hclose : Lexes .standard ('<' :: '/' :: (raw ++ ([] ++ '>' :: (s ++ t))))
      ([.endTag raw] ++ (tokens ++ behind)) :=
    .step (endTag?_append hrule hraw (by simp) (s ++ t)) (hlexes ht hbehind)
  have hopen := hlexesInside (isFence_tag _) hclose
  have hwhole := Lexes.step
    ((step?_startTag (hraw.isRaw hrule) _).trans (hspelled.startTag? hrule hraw _)) hopen
  simpa using hwhole

/-- What spells a raw forest is read as its expansion. -/
theorem readContent?_eq (hs : Spells s f) {g : Forest QName}
    (hexpand : expand? .initial f = some g) : readContent? s = some g := by
  rcases hs with ⟨tokens, hbuilds, hlexes⟩
  have hread := hlexes (t := []) (by simp [IsFence]) .nil
  rw [List.append_nil, List.append_nil] at hread
  exact readContent?_eq_some_iff.2 ⟨tokens, f, hread, hbuilds, hexpand⟩

end Spells

/-! ## Forests -/

/-- A raw forest as written. -/
def spell : Forest Text → Text
  | .nil => []
  | .text run rest => escapeRun run ++ spell rest
  | .element raw attributes children rest =>
    '<' :: raw ++ spellAttributes attributes ++
      (if children.isEmpty then " />".toList
       else '>' :: spell children ++ "</".toList ++ raw ++ ['>']) ++ spell rest

/-- What is spelled is a fence unless it begins with text. -/
theorem isFence_spell {f : Forest Text} (hf : f.startsWithText = false) {t : Text}
    (ht : IsFence t) : IsFence (spell f ++ t) := by
  cases f with
  | nil => exact ht
  | text => simp [Forest.startsWithText] at hf
  | element => simp [spell, IsFence]

/-- The parts of a spelled element without content. -/
theorem spell_empty_append (raw : Text) (attributes : List (Text × Text)) (rest : Forest Text)
    (t : Text) :
    spell (.element raw attributes .nil rest) ++ t =
      '<' :: (raw ++ ((spellAttributes attributes ++ [' ']) ++
        '/' :: '>' :: (spell rest ++ t))) := by
  simp [spell, Forest.isEmpty]

/-- The parts of a spelled element with content. -/
theorem spell_element_append (raw : Text) (attributes : List (Text × Text)) {children : Forest Text}
    (hchildren : ¬children.isEmpty = true) (rest : Forest Text) (t : Text) :
    spell (.element raw attributes children rest) ++ t =
      '<' :: (raw ++ ((spellAttributes attributes ++ []) ++ '>' :: (spell children ++
        '<' :: '/' :: (raw ++ ([] ++ '>' :: (spell rest ++ t)))))) := by
  simp [spell, hchildren]

/-- A spelled forest is read back in front of a fence, with its line breaks unified. -/
theorem spells_spell {f : Forest Text}
    (hf : f.Forall (isChar · = true) (IsSoundTag (IsQualified .standard))) (hmerged : f.IsMerged) :
    Spells (spell f) (f.mapText unifyBreaks) := by
  induction f with
  | nil => exact .nil
  | text run rest ih =>
    rcases hmerged with ⟨hne, hstarts, hmerged⟩
    exact .text hf.1 hne (ih hf.2 hmerged) ((Forest.startsWithText_mapText _ rest).trans hstarts)
      (isFence_spell hstarts)
  | element raw attributes children rest ihChildren ihRest =>
    rcases hf with ⟨⟨hraw, hattributes⟩, hchildren, hrest⟩
    have hinside := ihChildren hchildren hmerged.1
    have hbehind := ihRest hrest hmerged.2
    by_cases hempty : children.isEmpty = true
    · obtain rfl : children = .nil := Forest.eq_nil_of_isEmpty hempty
      have hspell := spell_empty_append raw attributes rest []
      rw [List.append_nil, List.append_nil] at hspell
      exact hspell ▸ .emptyElement hraw hattributes hbehind
    · have hspell := spell_element_append raw attributes hempty rest []
      rw [List.append_nil, List.append_nil, List.append_nil, List.nil_append] at hspell
      exact hspell ▸ .element hraw hattributes hinside hbehind

/-- A spelled forest is read back, with its line breaks unified. -/
theorem readContent?_spell {f : Forest Text} {g : Forest QName}
    (hf : f.Forall (isChar · = true) (IsSoundTag (IsQualified .standard))) (hmerged : f.IsMerged)
    (hexpand : expand? .initial (f.mapText unifyBreaks) = some g) :
    readContent? (spell f) = some g :=
  (spells_spell hf hmerged).readContent?_eq hexpand

end Xml
end DocMarkup
