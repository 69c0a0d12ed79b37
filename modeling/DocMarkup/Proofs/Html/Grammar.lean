import DocMarkup.Html.Basic
import DocMarkup.Proofs.Forest
import DocMarkup.Proofs.Xml.RawName

/-!
# The grammar of spelled HTML

Spelled HTML is characters, references to five of them, and elements with both tags, whose attributes
are classes and addresses between double quotes. A text has at most one reading by this grammar, and
what is spelled reads as the forest that it was spelled from.

Main definitions:

- {lit}`Html.Reads`: the readings of a text as a forest.
- {lit}`Html.content`: a forest with the text that stands side by side merged.
- {lit}`Html.IsWellNamed`: a forest whose tags and attributes the grammar allows.

Main results:

- Theorem {lit}`Html.Reads.unique`: a text has at most one reading.
- Theorem {lit}`Html.reads_print`: what is spelled reads as it was.
-/

namespace DocMarkup
namespace Html

open Xml (isPlainName CharRule tagMarks)

/-! ## Readings -/

/-- The references of the grammar. -/
def references : List (Text × Char) :=
  [("&amp;".toList, '&'), ("&lt;".toList, '<'), ("&gt;".toList, '>'), ("&quot;".toList, '"'),
   ("&#x27;".toList, '\'')]

/-- The spellings of a character: itself unless it is a mark, or a reference to it. -/
inductive IsSymbol : Text → Char → Prop
  | plain {c : Char} (hlt : c ≠ '<') (hgt : c ≠ '>') (hamp : c ≠ '&') : IsSymbol [c] c
  | reference {s : Text} {c : Char} (hmem : (s, c) ∈ references) : IsSymbol s c

/-- The readings of what stands between the quotes of an attribute. -/
inductive ReadsValue : Text → Text → Prop
  | nil : ReadsValue [] []
  | cons {s rest value : Text} {c : Char} (hs : IsSymbol s c) (hquote : '"' ∉ s)
      (hrest : ReadsValue rest value) : ReadsValue (s ++ rest) (c :: value)

/-- The readings of the attributes of a tag. -/
inductive ReadsAttributes : Text → List (Text × Text) → Prop
  | nil : ReadsAttributes [] []
  | cons {name s value rest : Text} {others : List (Text × Text)}
      (hname : name = "class".toList ∨ name = "href".toList) (hvalue : ReadsValue s value)
      (hrest : ReadsAttributes rest others) :
      ReadsAttributes (' ' :: (name ++ '=' :: '"' :: (s ++ '"' :: rest))) ((name, value) :: others)

/-- The readings of a text as a forest in which characters side by side are one run. -/
inductive Reads : Text → Forest Text → Prop
  | nil : Reads [] .nil
  | symbol {s rest : Text} {c : Char} {f : Forest Text} (hs : IsSymbol s c)
      (hrest : Reads rest f) : Reads (s ++ rest) (f.consChar c)
  | element {tag marks inside rest : Text} {attributes : List (Text × Text)}
      {children f : Forest Text} (htag : isPlainName .standard tag = true)
      (hattributes : ReadsAttributes marks attributes) (hchildren : Reads inside children)
      (hrest : Reads rest f) :
      Reads ('<' :: (tag ++ (marks ++ '>' :: (inside ++ '<' :: '/' :: (tag ++ '>' :: rest)))))
        (.element tag attributes children f)

/-! ## One reading at most -/

/-- A symbol begins with the character that it stands for or with an ampersand, and no tag. -/
theorem IsSymbol.exists_cons {s : Text} {c : Char} (h : IsSymbol s c) :
    ∃ d tail, s = d :: tail ∧ d ≠ '<' := by
  cases h with
  | plain hlt _ _ => exact ⟨c, [], rfl, hlt⟩
  | reference hmem =>
    have hhead : ∀ e ∈ references, e.1 = '&' :: e.1.tail := by decide
    exact ⟨'&', s.tail, hhead _ hmem, by decide⟩

/-- A symbol is found again at the head of a text. -/
theorem IsSymbol.unique {s s' rest rest' : Text} {c c' : Char} (h : IsSymbol s c)
    (h' : IsSymbol s' c') (heq : s ++ rest = s' ++ rest') : s = s' ∧ c = c' ∧ rest = rest' := by
  have hhead : ∀ e ∈ references, e.1 = '&' :: e.1.tail := by decide
  have hinitial : ∀ e ∈ references, ∀ e' ∈ references, e.1 <+: e'.1 → e = e' := by decide
  cases h with
  | plain _ _ hamp =>
    cases h' with
    | plain _ _ _ =>
      obtain ⟨rfl, rfl⟩ : c = c' ∧ rest = rest' := by simpa using heq
      exact ⟨rfl, rfl, rfl⟩
    | reference hmem' =>
      have hs' : s' = '&' :: s'.tail := hhead _ hmem'
      rw [hs'] at heq
      exact absurd (List.cons.inj heq).1 hamp
  | reference hmem =>
    cases h' with
    | plain _ _ hamp =>
      have hs : s = '&' :: s.tail := hhead _ hmem
      rw [hs] at heq
      exact absurd (List.cons.inj heq).1.symm hamp
    | reference hmem' =>
      have hone : (s, c) = (s', c') := by
        rcases List.prefix_or_prefix_of_prefix (List.prefix_append s rest)
          (heq ▸ List.prefix_append s' rest') with hle | hle
        · exact hinitial _ hmem _ hmem' hle
        · exact (hinitial _ hmem' _ hmem hle).symm
      rcases Prod.mk.inj hone with ⟨rfl, rfl⟩
      exact ⟨rfl, rfl, List.append_cancel_left heq⟩

/-- The value of an attribute ends at its closing quote. -/
theorem ReadsValue.unique {s s' value value' rest rest' : Text} (h : ReadsValue s value)
    (h' : ReadsValue s' value') (heq : s ++ '"' :: rest = s' ++ '"' :: rest') :
    s = s' ∧ value = value' ∧ rest = rest' := by
  induction h generalizing s' value' with
  | nil =>
    cases h' with
    | nil => exact ⟨rfl, rfl, (List.cons.inj heq).2⟩
    | cons hs hquote _ =>
      rcases hs.exists_cons with ⟨d, tail, rfl, _⟩
      obtain rfl : '"' = d := (List.cons.inj heq).1
      simp at hquote
  | cons hs hquote _ ih =>
    cases h' with
    | nil =>
      rcases hs.exists_cons with ⟨d, tail, rfl, _⟩
      obtain rfl : d = '"' := (List.cons.inj heq).1
      simp at hquote
    | cons hs' _ hrest' =>
      rw [List.append_assoc, List.append_assoc] at heq
      rcases hs.unique hs' heq with ⟨rfl, rfl, heq⟩
      rcases ih hrest' heq with ⟨rfl, rfl, rfl⟩
      exact ⟨rfl, rfl, rfl⟩

/-- The attributes of a tag end at the bracket that closes it. -/
theorem ReadsAttributes.unique {s s' rest rest' : Text}
    {attributes attributes' : List (Text × Text)}
    (h : ReadsAttributes s attributes) (h' : ReadsAttributes s' attributes')
    (heq : s ++ '>' :: rest = s' ++ '>' :: rest') :
    s = s' ∧ attributes = attributes' ∧ rest = rest' := by
  induction h generalizing s' attributes' with
  | nil =>
    cases h' with
    | nil => exact ⟨rfl, rfl, (List.cons.inj heq).2⟩
    | cons _ _ _ => simp at heq
  | @cons name _ _ _ _ hname hvalue _ ih =>
    cases h' with
    | nil => simp at heq
    | @cons name' _ _ _ _ hname' hvalue' hrest' =>
      simp only [List.cons_append, List.append_assoc] at heq
      have hnames := (List.cons.inj heq).2
      obtain ⟨rfl, hbehind⟩ : name = name' ∧ _ = _ := by
        rcases hname with rfl | rfl <;> rcases hname' with rfl | rfl
        · exact ⟨rfl, List.append_cancel_left hnames⟩
        · exact absurd (List.cons.inj hnames).1 (by decide)
        · exact absurd (List.cons.inj hnames).1 (by decide)
        · exact ⟨rfl, List.append_cancel_left hnames⟩
      rcases hvalue.unique hvalue' (List.cons.inj (List.cons.inj hbehind).2).2 with ⟨rfl, rfl, heq⟩
      rcases ih hrest' heq with ⟨rfl, rfl, rfl⟩
      exact ⟨rfl, rfl, rfl⟩

/-- Attributes end the name of a tag, and so does the bracket behind them. -/
theorem ReadsAttributes.stops {s : Text} {attributes : List (Text × Text)}
    (h : ReadsAttributes s attributes) (rest : Text) :
    Text.Stops CharRule.standard.more (s ++ '>' :: rest) := by
  have hrule := CharRule.standard_isLawful
  cases h with
  | nil => exact hrule.stops (by decide) rest
  | cons _ _ _ => exact hrule.stops (by decide) _

/-- The name of a tag is found again. -/
theorem plainName_unique {tag tag' rest rest' : Text} (htag : isPlainName .standard tag = true)
    (htag' : isPlainName .standard tag' = true) (hrest : Text.Stops CharRule.standard.more rest)
    (hrest' : Text.Stops CharRule.standard.more rest') (heq : tag ++ rest = tag' ++ rest') :
    tag = tag' ∧ rest = rest' := by
  have h := Xml.plainName?_append htag hrest
  rw [heq, Xml.plainName?_append htag' hrest'] at h
  exact ⟨(Prod.mk.inj (Option.some.inj h)).1.symm, (Prod.mk.inj (Option.some.inj h)).2.symm⟩

/-- What may stand behind content: the end, or an end tag. -/
def IsClose (t : Text) : Prop := t = [] ∨ ∃ rest, t = '<' :: '/' :: rest

/-- Behind content no symbol stands. -/
theorem IsClose.not_symbol {t s rest : Text} {c : Char} (ht : IsClose t) (hs : IsSymbol s c) :
    t ≠ s ++ rest := by
  rcases hs.exists_cons with ⟨d, tail, rfl, hd⟩
  rintro rfl
  rcases ht with h | ⟨more, h⟩
  · simp at h
  · exact hd (List.cons.inj h).1

/-- Behind content no start tag stands. -/
theorem IsClose.not_tag {t tag rest : Text} (ht : IsClose t)
    (htag : isPlainName .standard tag = true) : t ≠ '<' :: (tag ++ rest) := by
  rintro rfl
  rcases ht with h | ⟨more, h⟩
  · simp at h
  · cases tag with
    | nil => simp [isPlainName] at htag
    | cons d tag =>
      obtain rfl : d = '/' := (List.cons.inj (List.cons.inj h).2).1
      exact Xml.mark_not_mem_plainName CharRule.standard_isLawful htag
        (by decide : '/' ∈ tagMarks) (by simp)

/-- Content that is followed by an end tag, or by nothing, has one reading and one end. -/
theorem Reads.unique_close {s s' t t' : Text} {f f' : Forest Text} (h : Reads s f)
    (h' : Reads s' f') (ht : IsClose t) (ht' : IsClose t') (heq : s ++ t = s' ++ t') :
    s = s' ∧ f = f' ∧ t = t' := by
  induction h generalizing s' f' t t' with
  | nil =>
    cases h' with
    | nil => exact ⟨rfl, rfl, heq⟩
    | symbol hs' _ => exact absurd (heq.trans (List.append_assoc ..)) (ht.not_symbol hs')
    | element htag' _ _ _ => exact absurd (heq.trans (by simp; rfl)) (ht.not_tag htag')
  | symbol hs _ ih =>
    cases h' with
    | nil => exact absurd (heq.symm.trans (List.append_assoc ..)) (ht'.not_symbol hs)
    | symbol hs' hrest' =>
      rw [List.append_assoc, List.append_assoc] at heq
      rcases hs.unique hs' heq with ⟨rfl, rfl, heq⟩
      rcases ih hrest' ht ht' heq with ⟨rfl, rfl, rfl⟩
      exact ⟨rfl, rfl, rfl⟩
    | element _ _ _ _ =>
      rcases hs.exists_cons with ⟨d, tail, rfl, hd⟩
      exact absurd (List.cons.inj heq).1 hd
  | element htag hattributes _ _ ihChildren ihRest =>
    cases h' with
    | nil => exact absurd (heq.symm.trans (by simp; rfl)) (ht'.not_tag htag)
    | symbol hs' _ =>
      rcases hs'.exists_cons with ⟨d, tail, rfl, hd⟩
      exact absurd (List.cons.inj heq).1.symm hd
    | element htag' hattributes' hchildren' hrest' =>
      simp only [List.cons_append, List.append_assoc] at heq
      rcases plainName_unique htag htag' (hattributes.stops _)
        (hattributes'.stops _) (List.cons.inj heq).2 with ⟨rfl, heq⟩
      rcases hattributes.unique hattributes' heq with ⟨rfl, rfl, heq⟩
      obtain ⟨rfl, rfl, heq⟩ :=
        ihChildren hchildren' (.inr ⟨_, rfl⟩) (.inr ⟨_, rfl⟩) heq
      have hbehind := (List.cons.inj (List.cons.inj heq).2).2
      obtain ⟨rfl, rfl, rfl⟩ :=
        ihRest hrest' ht ht' (List.cons.inj (List.append_cancel_left hbehind)).2
      exact ⟨rfl, rfl, rfl⟩

/-- A text has at most one reading. -/
theorem Reads.unique {s : Text} {f f' : Forest Text} (h : Reads s f) (h' : Reads s f') : f = f' :=
  (h.unique_close h' (.inl rfl) (.inl rfl) rfl).2.1

/-! ## Spelled forests -/

/-- A forest with the text that stands side by side merged, and how text is quoted left out. -/
def content : Html → Forest Text
  | .nil => .nil
  | .text _ run rest => (content rest).consChars run
  | .element tag attributes children rest =>
    .element tag attributes (content children) (content rest)

/-- A forest whose tags are plain names and whose attributes are classes and addresses. -/
def IsWellNamed : Html → Prop
  | .nil => True
  | .text _ _ rest => rest.IsWellNamed
  | .element tag attributes children rest =>
    isPlainName .standard tag = true ∧
      (∀ e ∈ attributes, e.1 = "class".toList ∨ e.1 = "href".toList) ∧
      children.IsWellNamed ∧ rest.IsWellNamed

/-- A character of text is spelled by a symbol. -/
theorem isSymbol_escapeTextChar (c : Char) : IsSymbol (escapeTextChar c) c := by
  unfold escapeTextChar
  split
  · next h => exact .reference (by rw [h]; decide)
  · next hamp =>
    split
    · next h => exact .reference (by rw [h]; decide)
    · next hlt =>
      split
      · next h => exact .reference (by rw [h]; decide)
      · next hgt => exact .plain hlt hgt hamp

/-- A character of an attribute value is spelled by a symbol without a double quote. -/
theorem isSymbol_escapeAttributeChar (c : Char) :
    IsSymbol (escapeAttributeChar c) c ∧ '"' ∉ escapeAttributeChar c := by
  unfold escapeAttributeChar
  split
  · next h => exact ⟨.reference (by rw [h]; decide), by decide⟩
  · next hquote =>
    split
    · next h => exact ⟨.reference (by rw [h]; decide), by decide⟩
    · refine ⟨isSymbol_escapeTextChar c, ?_⟩
      unfold escapeTextChar
      split
      · decide
      · split
        · decide
        · split
          · decide
          · simpa using Ne.symm hquote

/-- Escaped characters read as themselves. -/
theorem reads_flatMap {escape : Char → Text} (hescape : ∀ c, IsSymbol (escape c) c) (run : Text)
    {rest : Text} {f : Forest Text} (hrest : Reads rest f) :
    Reads (run.flatMap escape ++ rest) (f.consChars run) := by
  induction run with
  | nil => exact hrest
  | cons c run ih =>
    rw [List.flatMap_cons, List.append_assoc]
    exact .symbol (hescape c) ih

/-- An escaped attribute value reads as it was. -/
theorem readsValue_escapeAttribute (value : Text) : ReadsValue (escapeAttribute value) value := by
  induction value with
  | nil => exact .nil
  | cons c value ih =>
    rcases isSymbol_escapeAttributeChar c with ⟨hsymbol, hquote⟩
    exact .cons hsymbol hquote ih

/-- Spelled attributes read as they were. -/
theorem readsAttributes_printAttributes {attributes : List (Text × Text)}
    (h : ∀ e ∈ attributes, e.1 = "class".toList ∨ e.1 = "href".toList) :
    ReadsAttributes (printAttributes attributes) attributes := by
  induction attributes with
  | nil => exact .nil
  | cons e attributes ih =>
    rcases e with ⟨name, value⟩
    rcases List.forall_mem_cons.1 h with ⟨hname, hrest⟩
    have hread := ReadsAttributes.cons hname (readsValue_escapeAttribute value) (ih hrest)
    simpa [printAttributes] using hread

/-- What is spelled reads as it was. -/
theorem reads_print {h : Html} (hnamed : h.IsWellNamed) : Reads (print h) (content h) := by
  induction h with
  | nil => exact .nil
  | text quoting run rest ih =>
    cases quoting with
    | plain => exact reads_flatMap isSymbol_escapeTextChar run (ih hnamed)
    | escaped => exact reads_flatMap (fun c => (isSymbol_escapeAttributeChar c).1) run (ih hnamed)
  | element tag attributes children rest ihChildren ihRest =>
    rcases hnamed with ⟨htag, hattributes, hchildren, hrest⟩
    have hread := Reads.element htag (readsAttributes_printAttributes hattributes)
      (ihChildren hchildren) (ihRest hrest)
    simpa [print, content] using hread

/-! ## Forests side by side -/

/-- Forests side by side have their contents side by side. -/
theorem content_append (f g : Html) : content (f ++ g) = (content f).meet (content g) := by
  induction f with
  | nil => rfl
  | text quoting run rest ih =>
    show (content (rest ++ g)).consChars run = ((content rest).consChars run).meet (content g)
    rw [ih, Forest.consChars_meet]
  | element tag attributes children rest _ ih =>
    show Forest.element tag attributes (content children) (content (rest ++ g)) = _
    rw [ih]
    rfl

/-- Well-named forests side by side are well named. -/
theorem IsWellNamed.append {f g : Html} (hf : f.IsWellNamed) (hg : g.IsWellNamed) :
    (f ++ g).IsWellNamed := by
  induction f with
  | nil => exact hg
  | text quoting run rest ih => exact ih hf
  | element tag attributes children rest _ ih => exact ⟨hf.1, hf.2.1, hf.2.2.1, ih hf.2.2.2⟩

end Html
end DocMarkup
