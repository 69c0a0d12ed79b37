import DocMarkup.Proofs.Xml.RoundTrip

/-!
# When written content can be read

Content may have names that no document in UTF-8 may hold. It is written all the same, but what is
written can be read only when every name is one: a tag is read up to the mark behind its name, and so
is each of its attributes.

Main definitions:

- {lit}`Xml.HasStandardNames`: a forest with names that every document may hold.
- {lit}`Xml.IsQualifiedTag`: a tag with raw names of such documents.

Main results:

- Theorem {lit}`Xml.isQualified_of_lexes_spell`: what is spelled is read only with such names.
- Theorem {lit}`Xml.readContent?_writeContent_iff`: when written content can be read.
-/

namespace DocMarkup
namespace Xml

variable {rest : Text} {tokens : List Token}

/-! ## Tags -/

/-- A tag whose names are raw names of every document. -/
def IsQualifiedTag (raw : Text) (attributes : List (Text × Text)) : Prop :=
  IsQualified .standard raw ∧ ∀ e ∈ attributes, IsQualified .standard e.1

/-- Attributes, and the mark behind them, stand where a name ends. -/
theorem isTagRest_spellAttributes (attributes : List (Text × Text)) {tail : Text}
    (htail : IsTagRest tail) : IsTagRest (spellAttributes attributes ++ tail) := by
  cases attributes with
  | nil => exact htail
  | cons e attributes => exact ⟨' ', _, rfl, Or.inl rfl⟩

/-- A name ends where an equals sign comes next, with or without space in front. -/
theorem isNameEnd_of_equals {afterName afterEquals : Text}
    (h : afterName.dropWhile isSpace = '=' :: afterEquals) : IsNameEnd afterName := by
  cases afterName with
  | nil => simp at h
  | cons c afterName =>
    by_cases hspace : isSpace c = true
    · exact ⟨c, afterName, rfl, mark_of_isSpace hspace⟩
    · rw [List.dropWhile_cons_of_neg hspace] at h
      exact ⟨c, afterName, rfl, (List.cons.inj h).1 ▸ by decide⟩

/-- A spelled attribute is read only with a name that is a raw one, and then the others are read. -/
theorem isQualified_of_attribute? {raw value behind : Text} (hraw : IsRaw raw)
    (hvalue : IsRun value) {fuel : Nat} {read : List (Text × List Piece)}
    (h : attributes? .standard fuel
      (' ' :: (raw ++ '=' :: (('"' :: (escapeValue value ++ ['"'])) ++ behind))) =
        some (read, rest)) :
    IsQualified .standard raw ∧
      ∃ fuel others, attributes? .standard fuel behind = some (others, rest) := by
  generalize hquoted : ('"' :: (escapeValue value ++ ['"'])) ++ behind = quoted at h
  cases fuel with
  | zero => simp [attributes?] at h
  | succ fuel =>
    have hspaces : ∀ c ∈ [' '], isSpace c = true := List.forall_mem_singleton.2 rfl
    have hstops : Text.Stops isSpace (raw ++ '=' :: quoted) := hraw.stops_isSpace _
    have hdrop : (' ' :: (raw ++ '=' :: quoted)).dropWhile isSpace = raw ++ '=' :: quoted :=
      Text.dropWhile_run hspaces hstops
    have hlength : ¬(' ' :: (raw ++ '=' :: quoted)).length = (raw ++ '=' :: quoted).length := by
      simp
    rcases hraw.exists_cons with ⟨c, more, hcons, hmark⟩
    rw [attributes?, hdrop] at h
    split at h
    · next r hgt =>
      rw [hcons] at hgt
      exact absurd (List.cons.inj hgt).1 (hmark '>' (by decide) (by decide))
    · next r hslash =>
      rw [hcons] at hslash
      exact absurd (List.cons.inj hslash).1 (hmark '/' (by decide) (by decide))
    · rw [if_neg hlength] at h
      simp only [Option.bind_eq_bind, Option.bind_eq_some_iff, Prod.exists] at h
      rcases h with ⟨name, afterName, hname, h⟩
      split at h
      · next afterEquals hequals =>
        rcases hraw.isQualified CharRule.standard_isLawful ⟨'=', quoted, rfl, by decide⟩ hname
          (isNameEnd_of_equals hequals) with ⟨hqualified, rfl⟩
        obtain rfl : quoted = afterEquals := by simpa [isSpace] using hequals
        simp only [Option.bind_eq_some_iff, Prod.exists] at h
        rcases h with ⟨_, afterValue, hread, others, last, hothers, hlast⟩
        obtain rfl : last = rest := (Prod.mk.inj (Option.some.inj hlast)).2
        have hquote : quoted.dropWhile isSpace = quoted := by
          rw [← hquoted]
          rfl
        rw [hquote, ← hquoted, quotedValue?_escapeValue hvalue] at hread
        obtain rfl : behind = afterValue := (Prod.mk.inj (Option.some.inj hread)).2
        exact ⟨hqualified, fuel, others, hothers⟩
      · simp at h

/-- Spelled attributes are read only with names that are raw ones. -/
theorem isQualified_of_attributes? {attributes : List (Text × Text)}
    (hattributes : ∀ e ∈ attributes, IsRaw e.1 ∧ IsRun e.2) {tail : Text} {fuel : Nat}
    {read : List (Text × List Piece)}
    (h : attributes? .standard fuel (spellAttributes attributes ++ tail) = some (read, rest)) :
    ∀ e ∈ attributes, IsQualified .standard e.1 := by
  induction attributes generalizing fuel read with
  | nil => simp
  | cons e attributes ih =>
    rcases e with ⟨raw, value⟩
    rcases List.forall_mem_cons.1 hattributes with ⟨⟨hraw, hvalue⟩, hothers⟩
    have htext : spellAttributes ((raw, value) :: attributes) ++ tail =
        ' ' :: (raw ++ '=' :: (('"' :: (escapeValue value ++ ['"'])) ++
          (spellAttributes attributes ++ tail))) := by
      simp [spellAttributes]
    rw [htext] at h
    rcases isQualified_of_attribute? hraw hvalue h with ⟨hqualified, fuel', others, hread⟩
    exact List.forall_mem_cons.2 ⟨hqualified, ih hothers hread⟩

/-- A spelled tag is read only with names that are raw ones. -/
theorem isQualifiedTag_of_lexes {raw : Text} {attributes : List (Text × Text)}
    (htag : IsSoundTag IsRaw raw attributes) {tail : Text} (htail : IsTagRest tail)
    (h : Lexes .standard ('<' :: (raw ++ (spellAttributes attributes ++ tail))) tokens) :
    IsQualifiedTag raw attributes := by
  have hrule := CharRule.standard_isLawful
  have hstart : ∃ first after, startTag? .standard (raw ++ (spellAttributes attributes ++ tail)) =
      some (first, after) := by
    cases h with
    | step hstep hrest => exact ⟨_, _, (step?_startTag htag.1 _).symm.trans hstep⟩
  rcases hstart with ⟨first, after, hstart⟩
  simp only [startTag?, Option.bind_eq_bind, Option.bind_eq_some_iff, Prod.exists] at hstart
  rcases hstart with ⟨name, afterName, hname, read, afterRead, hread, _⟩
  rcases attributes?_eq_some hrule hread with ⟨hend, taken, rfl, hspelled⟩
  rcases htag.1.isQualified hrule (isTagRest_spellAttributes attributes htail).isNameEnd hname
    (hspelled.isTagRest hend).isNameEnd with ⟨hqualified, heq⟩
  rw [heq] at hread
  exact ⟨hqualified, isQualified_of_attributes? htag.2 hread⟩

/-- A tag with raw names is spelled soundly. -/
theorem IsQualifiedTag.spelled {raw : Text} {attributes : List (Text × Text)}
    (hqualified : IsQualifiedTag raw attributes) (htag : IsSoundTag IsRaw raw attributes)
    (spaces : Text) (hspaces : ∀ c ∈ spaces, isSpace c = true) :
    Spelled .standard (spellAttributes attributes ++ spaces)
      (attributes.map fun e => (e.1, e.2.map .char)) :=
  spelled_spellAttributes (fun e he => ⟨hqualified.2 e he, (htag.2 e he).2⟩) hspaces

/-! ## Forests -/

/-- What is read begins with the construct that is read first. -/
theorem Lexes.behind {rule : CharRule} {s : Text} {first : List Token} (h : Lexes rule s tokens)
    (hstep : step? rule s = some (first, rest)) : ∃ others, Lexes rule rest others := by
  cases h with
  | nil => simp [step?] at hstep
  | step hfirst hrest =>
    rw [hstep] at hfirst
    rcases Prod.mk.inj (Option.some.inj hfirst) with ⟨rfl, rfl⟩
    exact ⟨_, hrest⟩

/-- What stands behind a run of text is read when all of it is. -/
theorem lexes_behind_escapeRun {run : Text} (hrun : IsRun run) {t : Text} (ht : IsFence t)
    (h : Lexes .standard (escapeRun run ++ t) tokens) : ∃ others, Lexes .standard t others := by
  induction run using Text.unifyBreaks.induct generalizing tokens with
  | case1 => exact ⟨tokens, h⟩
  | case2 more ih =>
    have hstep : step? .standard ('\r' :: '\n' :: (escapeRun more ++ t)) =
        some ([.piece (.char '\n')], escapeRun more ++ t) := rfl
    rcases h.behind hstep with ⟨_, hmore⟩
    exact ih (fun c hc => hrun c (by simp [hc])) hmore
  | case3 c more hbreak ih =>
    rcases List.forall_mem_cons.1 hrun with ⟨hc, hmore⟩
    have hcons : escapeRun (c :: more) = escapeRunChar c ++ escapeRun more := rfl
    rw [hcons, List.append_assoc] at h
    rcases h.behind (step?_escapeRunChar hc ht hbreak) with ⟨_, hbehind⟩
    exact ih hmore hbehind

/-- What is spelled is read only when all its names are raw ones, and then what stands behind it is
read too. -/
theorem isQualified_of_lexes_spell {f : Forest Text}
    (hf : f.Forall (isChar · = true) (IsSoundTag IsRaw)) (hmerged : f.IsMerged) {t : Text}
    (ht : IsFence t) (h : Lexes .standard (spell f ++ t) tokens) :
    f.Forall (fun _ => True) IsQualifiedTag ∧ ∃ others, Lexes .standard t others := by
  have hrule := CharRule.standard_isLawful
  induction f generalizing t tokens with
  | nil => exact ⟨trivial, tokens, h⟩
  | text run rest ih =>
    rcases hmerged with ⟨_, hstarts, hmerged⟩
    rw [spell, List.append_assoc] at h
    rcases lexes_behind_escapeRun hf.1 (isFence_spell hstarts ht) h with ⟨_, hrest⟩
    rcases ih hf.2 hmerged ht hrest with ⟨hnames, hbehind⟩
    exact ⟨⟨fun _ _ => trivial, hnames⟩, hbehind⟩
  | element raw attributes children rest ihChildren ihRest =>
    rcases hf with ⟨htag, hchildren, hrest⟩
    by_cases hempty : children.isEmpty = true
    · obtain rfl : children = .nil := Forest.eq_nil_of_isEmpty hempty
      rw [spell_empty_append, List.append_assoc] at h
      have hqualified := isQualifiedTag_of_lexes htag ⟨' ', _, rfl, Or.inl rfl⟩ h
      have hstep := (step?_startTag htag.1 _).trans
        ((hqualified.spelled htag [' '] (List.forall_mem_singleton.2 rfl)).emptyTag? hrule
          hqualified.1 (spell rest ++ t))
      rw [List.append_assoc] at hstep
      rcases h.behind hstep with ⟨_, hafter⟩
      rcases ihRest hrest hmerged.2 ht hafter with ⟨hnames, hbehind⟩
      exact ⟨⟨hqualified, trivial, hnames⟩, hbehind⟩
    · rw [spell_element_append _ _ hempty, List.append_nil] at h
      have hqualified := isQualifiedTag_of_lexes htag ⟨'>', _, rfl, Or.inr (Or.inl rfl)⟩ h
      have hstep := (step?_startTag htag.1 _).trans
        ((hqualified.spelled htag [] (by simp)).startTag? hrule hqualified.1
          (spell children ++ '<' :: '/' :: (raw ++ ([] ++ '>' :: (spell rest ++ t)))))
      rw [List.append_nil] at hstep
      rcases h.behind hstep with ⟨_, hinside⟩
      rcases ihChildren hchildren hmerged.1 (isFence_tag _) hinside with ⟨hnamesInside, _, hclose⟩
      have hspaces : ∀ c ∈ ([] : Text), isSpace c = true := by simp
      have hend := endTag?_append hrule hqualified.1 hspaces (spell rest ++ t)
      rcases hclose.behind hend with ⟨_, hafter⟩
      rcases ihRest hrest hmerged.2 ht hafter with ⟨hnames, hbehind⟩
      exact ⟨⟨hqualified, hnamesInside, hnames⟩, hbehind⟩

/-! ## Written names -/

/-- A forest with names that every document may hold. -/
def HasStandardNames (f : Forest QName) : Prop :=
  ∀ name ∈ names f, isPlainName .standard name.localPart = true

instance (f : Forest QName) : Decidable (HasStandardNames f) :=
  inferInstanceAs (Decidable (∀ name ∈ names f, isPlainName .standard name.localPart = true))

/-- The names of an element are those of its tag, of its children and of its later siblings. -/
theorem hasStandardNames_element {name : QName} {attributes : List (QName × Text)}
    {children rest : Forest QName} :
    HasStandardNames (.element name attributes children rest) ↔
      isPlainName .standard name.localPart = true ∧
        (∀ e ∈ attributes, isPlainName .standard e.1.localPart = true) ∧
        HasStandardNames children ∧ HasStandardNames rest := by
  simp only [HasStandardNames, names, List.cons_append, List.forall_mem_cons,
    List.forall_mem_append, List.forall_mem_map]

/-- The names of a tag are names of its element. -/
theorem mem_names_of_tag {name other : QName} {attributes : List (QName × Text)}
    {children rest : Forest QName} (hother : other ∈ names (.element name attributes .nil .nil)) :
    other ∈ names (.element name attributes children rest) := by
  simp only [names, List.append_nil, List.cons_append, List.mem_cons, List.mem_append] at hother ⊢
  rcases hother with hother | hother
  · exact Or.inl hother
  · exact Or.inr (Or.inl hother)

variable {onChar : Char → Prop} {prefixes : Prefixes} {f : Forest QName}

/-- Names without marks are written as texts without marks but colons. -/
theorem writes_unmarked : Writes IsUnmarked IsRaw where
  ofQualified _ hraw := hraw.isRaw CharRule.standard_isLawful
  ofLocal hfit hcovers hlocal := by
    rcases Prefixes.write_cases hfit hcovers with ⟨_, hwrite⟩ | ⟨_, _, _, hwrite, hmark, _⟩
    · exact hwrite ▸ hlocal.isRaw.1
    · exact hwrite ▸ hlocal.isRaw.2 hmark

/-- A name without marks that is written as a raw name is plain. -/
theorem isPlainName_of_write {name : QName} (hfit : prefixes.IsFit) (hcovers : prefixes.Covers name)
    (hlocal : IsUnmarked name.localPart) (h : IsQualified .standard (prefixes.write name)) :
    isPlainName .standard name.localPart = true := by
  have hrule := CharRule.standard_isLawful
  rcases Prefixes.write_cases hfit hcovers with ⟨_, hwrite⟩ | ⟨_, _, _, hwrite, hmark, _⟩
  · exact (hlocal.isPlainName hrule).1 (hwrite ▸ h)
  · exact (hlocal.isPlainName hrule).2 (mark_not_mem_plainName hrule hmark (by decide)) (hwrite ▸ h)

/-- A tag that is written with raw names has plain ones. -/
theorem isPlainName_of_isQualifiedTag {name : QName} {attributes : List (QName × Text)}
    (hfit : prefixes.IsFit)
    (hcovers : ∀ other ∈ names (.element name attributes .nil .nil), prefixes.Covers other)
    (htag : IsSoundElement IsUnmarked name attributes)
    (h : IsQualifiedTag (prefixes.write name) (rawAttributes prefixes attributes)) :
    isPlainName .standard name.localPart = true ∧
      ∀ e ∈ attributes, isPlainName .standard e.1.localPart = true := by
  refine ⟨isPlainName_of_write hfit (hcovers name (by simp [names])) htag.soundName.1 h.1, ?_⟩
  intro e he
  exact isPlainName_of_write hfit (hcovers e.1 (mem_names_of_mem_attributes he))
    (htag.soundAttributes e he).1.1 (h.2 _ (List.mem_map_of_mem he))

/-- Inside an element, a forest that is written with raw names has standard ones. -/
theorem hasStandardNames_of_rawWithin (hfit : prefixes.IsFit)
    (hcovers : ∀ name ∈ names f, prefixes.Covers name)
    (hf : f.Forall onChar (IsSoundElement IsUnmarked))
    (h : (rawWithin prefixes f).Forall (fun _ => True) IsQualifiedTag) : HasStandardNames f := by
  induction f with
  | nil => exact fun _ hname => by cases hname
  | text run rest ih => exact ih hcovers hf.2 h.2
  | element name attributes children rest ihChildren ihRest =>
    rcases hf with ⟨htag, hchildren, hrest⟩
    rcases h with ⟨hqualified, hinside, hbehind⟩
    rcases isPlainName_of_isQualifiedTag hfit
      (fun other hother => hcovers other (mem_names_of_tag hother)) htag hqualified with
      ⟨hname, hattributes⟩
    exact hasStandardNames_element.2 ⟨hname, hattributes,
      ihChildren (fun other hother => hcovers other (by simp [names, hother])) hchildren hinside,
      ihRest (fun other hother => hcovers other (by simp [names, hother])) hrest hbehind⟩

/-- A forest that is written with raw names has standard ones. -/
theorem hasStandardNames_of_rawContent (hf : f.Forall onChar (IsSoundElement IsUnmarked))
    (h : (rawContent f).Forall (fun _ => True) IsQualifiedTag) : HasStandardNames f := by
  induction f with
  | nil => exact fun _ hname => by cases hname
  | text run rest ih => exact ih hf.2 h.2
  | element name attributes children rest _ ih =>
    rcases hf with ⟨htag, hchildren, hrest⟩
    rcases h with ⟨hqualified, hinside, hbehind⟩
    rcases Prefixes.isFit_of (f := .element name attributes children .nil)
      ⟨htag, hchildren, trivial⟩ with ⟨hfit, hcovers⟩
    rcases isPlainName_of_isQualifiedTag hfit
      (fun other hother => hcovers other (mem_names_of_tag hother)) htag
      ⟨hqualified.1, fun e he => hqualified.2 e (List.mem_append_right _ he)⟩ with
      ⟨hname, hattributes⟩
    exact hasStandardNames_element.2 ⟨hname, hattributes,
      hasStandardNames_of_rawWithin hfit
        (fun other hother => hcovers other (by simp [names, hother])) hchildren hinside,
      ih hrest hbehind⟩

/-- Sound content with standard names is content on its own. -/
theorem IsContent.isPlain (hf : IsContent IsUnmarked f) (hnames : HasStandardNames f) :
    IsPlainContent f := by
  rcases hf with ⟨hsound, hmerged⟩
  refine ⟨?_, hmerged⟩
  clear hmerged
  induction f with
  | nil => trivial
  | text run rest ih => exact ⟨hsound.1, ih hnames hsound.2⟩
  | element name attributes children rest ihChildren ihRest =>
    rcases hsound with ⟨htag, hchildren, hrest⟩
    rcases hasStandardNames_element.1 hnames with ⟨hname, hattributes, hinside, hbehind⟩
    refine ⟨?_, ihChildren hinside hchildren, ihRest hbehind hrest⟩
    exact
      { soundName := ⟨hname, htag.soundName.2⟩
        soundAttributes := fun e he =>
          ⟨⟨hattributes e he, (htag.soundAttributes e he).1.2⟩, (htag.soundAttributes e he).2⟩
        notDeclaration := htag.notDeclaration
        distinct := htag.distinct }

/-- Written content can be read exactly when its names are names of every document. -/
theorem readContent?_writeContent_iff (hf : IsContent IsUnmarked f) :
    (readContent? (writeContent f)).isSome ↔ HasStandardNames f := by
  constructor
  · intro hread
    rcases Option.isSome_iff_exists.1 hread with ⟨g, hg⟩
    rcases readContent?_eq_some_iff.1 hg with ⟨tokens, _, hlexes, _⟩
    rw [writeContent_eq_spell, ← List.append_nil (spell (rawContent f))] at hlexes
    have hfence : IsFence [] := by simp [IsFence]
    exact hasStandardNames_of_rawContent hf.1
      (isQualified_of_lexes_spell (rawContent_isSound writes_unmarked hf.1)
        (rawContent_isMerged hf.2) hfence hlexes).1
  · intro hnames
    rw [readContent?_writeContent (hf.isPlain hnames)]
    rfl

end Xml
end DocMarkup
