import DocMarkup.Proofs.Xml.Prefix

/-!
# Written content is read back

Writing content and reading it again gives the same elements, names and values. Of text only the
line breaks change, and only where a carriage return is written.

Main definitions:

- {lit}`Xml.rawWithin`, {lit}`Xml.rawContent`: content with its names as they are written.

Main results:

- Theorem {lit}`Xml.writeContent_eq_spell`: content is written by spelling its raw forest.
- Theorem {lit}`Xml.expand?_rawContent`: written names mean what they did before.
- Theorem {lit}`Xml.readContent?_writeContent`: written content is read back, with unified line
  breaks.
-/

namespace DocMarkup
namespace Xml

open Text (unifyBreaks)

/-! ## Raw forests -/

/-- Attributes under their written names. -/
def rawAttributes (prefixes : Prefixes) (attributes : List (QName × Text)) : List (Text × Text) :=
  attributes.map fun e => (prefixes.write e.1, e.2)

/-- A forest under its written names, inside an element that declares the prefixes. -/
def rawWithin (prefixes : Prefixes) : Forest QName → Forest Text
  | .nil => .nil
  | .text run rest => .text run (rawWithin prefixes rest)
  | .element name attributes children rest =>
    .element (prefixes.write name) (rawAttributes prefixes attributes)
      (rawWithin prefixes children) (rawWithin prefixes rest)

/-- A forest under its written names, in which every outermost element declares the prefixes that it
needs. -/
def rawContent : Forest QName → Forest Text
  | .nil => .nil
  | .text run rest => .text run (rawContent rest)
  | .element name attributes children rest =>
    let prefixes := Prefixes.of (.element name attributes children .nil)
    .element (prefixes.write name)
      (prefixes.declarationAttributes ++ rawAttributes prefixes attributes)
      (rawWithin prefixes children) (rawContent rest)

/-- Attributes are written by spelling them under their written names. -/
theorem writeAttributes_eq_spell (prefixes : Prefixes) (attributes : List (QName × Text)) :
    writeAttributes prefixes attributes = spellAttributes (rawAttributes prefixes attributes) := by
  simp [writeAttributes, spellAttributes, rawAttributes, List.flatMap_map]

/-- Declarations are written by spelling them as attributes. -/
theorem declarations_eq_spell (prefixes : Prefixes) :
    prefixes.declarations = spellAttributes prefixes.declarationAttributes := by
  simp [Prefixes.declarations, spellAttributes, Prefixes.declarationAttributes, Prefixes.sorted,
    List.flatMap_map]

/-- Writing under other names leaves a forest empty or not. -/
theorem isEmpty_rawWithin (prefixes : Prefixes) (f : Forest QName) :
    (rawWithin prefixes f).isEmpty = f.isEmpty := by
  cases f <;> rfl

/-- Inside an element, content is written by spelling its raw forest. -/
theorem writeWithin_eq_spell (prefixes : Prefixes) (f : Forest QName) :
    writeWithin prefixes f = spell (rawWithin prefixes f) := by
  induction f with
  | nil => rfl
  | text run rest ih => rw [writeWithin, rawWithin, spell, ih]
  | element name attributes children rest ihChildren ihRest =>
    simp only [writeWithin, rawWithin, spell, writeElement, isEmpty_rawWithin, ihChildren, ihRest,
      writeAttributes_eq_spell, List.append_nil]

/-- Content is written by spelling its raw forest. -/
theorem writeContent_eq_spell (f : Forest QName) : writeContent f = spell (rawContent f) := by
  induction f with
  | nil => rfl
  | text run rest ih => rw [writeContent, rawContent, spell, ih]
  | element name attributes children rest _ ih =>
    simp only [writeContent, rawContent, spell, writeElement, isEmpty_rawWithin, ih,
      writeWithin_eq_spell, writeAttributes_eq_spell, declarations_eq_spell]
    simp [spellAttributes, List.append_assoc]

/-! ## Declarations -/

/-- Attributes are declared one after another. -/
theorem declare?_append {bindings : Bindings} {a b : List (Text × Text)} :
    bindings.declare? (a ++ b) = (bindings.declare? a).bind (·.declare? b) := by
  induction a generalizing bindings with
  | nil => rfl
  | cons e a ih =>
    rcases e with ⟨raw, value⟩
    rw [List.cons_append, Bindings.declare?, Bindings.declare?]
    split
    · exact ih
    · split
      · exact ih
      · rfl

/-- Attributes that declare nothing leave the bindings. -/
theorem declare?_of_none {bindings : Bindings} {attributes : List (Text × Text)}
    (h : ∀ e ∈ attributes, declaredPrefix? e.1 = none) :
    bindings.declare? attributes = some bindings := by
  induction attributes with
  | nil => rfl
  | cons e attributes ih =>
    rcases List.forall_mem_cons.1 h with ⟨he, hrest⟩
    rcases e with ⟨raw, value⟩
    simp only [Bindings.declare?, he, ih hrest]

/-- The declaration of a prefix is recognized. -/
theorem declaredPrefix?_declaration (mark : Text) :
    declaredPrefix? ("xmlns:".toList ++ mark) = some mark := by
  have hcut : cutName ("xmlns".toList ++ ':' :: mark) = (some "xmlns".toList, mark) :=
    cutName_append (by decide) mark
  show declaredPrefix? ("xmlns".toList ++ ':' :: mark) = some mark
  simp only [declaredPrefix?, hcut, if_true]

/-- Declared prefixes are bound. -/
theorem declare?_declarations {entries : Prefixes}
    (hbind : ∀ e ∈ entries, mayBind e.2 e.1 = true) (bindings : Bindings) :
    bindings.declare? (entries.map fun e => ("xmlns:".toList ++ e.2, e.1)) =
      some ((entries.map fun e => (e.2, e.1)).reverse ++ bindings) := by
  induction entries generalizing bindings with
  | nil => rfl
  | cons e entries ih =>
    rcases List.forall_mem_cons.1 hbind with ⟨he, hrest⟩
    simp only [List.map_cons, Bindings.declare?, declaredPrefix?_declaration, he, if_true,
      ih hrest]
    simp

/-- The names of the attributes of an element are among the names of the forest. -/
theorem mem_names_of_mem_attributes {name : QName} {attributes : List (QName × Text)}
    {children rest : Forest QName} {e : QName × Text} (he : e ∈ attributes) :
    e.1 ∈ names (.element name attributes children rest) := by
  simp only [names, List.cons_append, List.mem_cons, List.mem_append, List.mem_map]
  exact .inr (.inl ⟨e, he, rfl⟩)

/-- The names of sound elements are sound. -/
theorem isSound_of_mem_names {isLocal : Text → Prop} {onChar : Char → Prop} {f : Forest QName}
    (hf : f.Forall onChar (IsSoundElement isLocal)) : ∀ name ∈ names f, name.IsSound isLocal := by
  induction f with
  | nil => simp [names]
  | text run rest ih => exact ih hf.2
  | element name attributes children rest ihChildren ihRest =>
    rcases hf with ⟨htag, hchildren, hrest⟩
    intro other hother
    rcases List.mem_cons.1 hother with rfl | hother
    · exact htag.soundName
    · rcases List.mem_append.1 hother with hother | hother
      · rcases List.mem_map.1 hother with ⟨e, he, rfl⟩
        exact (htag.soundAttributes e he).1
      · rcases List.mem_append.1 hother with hother | hother
        · exact ihChildren hchildren other hother
        · exact ihRest hrest other hother

/-- Content of plain names. -/
abbrev IsPlainContent (f : Forest QName) : Prop :=
  IsContent (fun name => isPlainName .standard name = true) f

/-- A tag of plain names. -/
abbrev IsPlainElement (name : QName) (attributes : List (QName × Text)) : Prop :=
  IsSoundElement (fun name => isPlainName .standard name = true) name attributes

variable {onChar : Char → Prop}

/-- The prefixes for a sound forest can be declared together, and cover all its names. -/
theorem Prefixes.isFit_of {isLocal : Text → Prop} {f : Forest QName}
    (hf : f.Forall onChar (IsSoundElement isLocal)) :
    (Prefixes.of f).IsFit ∧ ∀ name ∈ names f, (Prefixes.of f).Covers name := by
  rcases Prefixes.foldl_add .nil with ⟨hgenerated, hcovers, hmem⟩
  refine ⟨hgenerated.isFit ?_, fun name hname => hcovers name (.inr hname)⟩
  intro e he
  rcases hmem e he with he | ⟨name, hname, hspace⟩
  · simp at he
  · exact (isSound_of_mem_names hf name hname).2 e.1 hspace

/-! ## Expansion of written names -/

variable {prefixes : Prefixes} {attributes : List (QName × Text)} {name : QName}

/-- Written attributes declare nothing. -/
theorem declaredPrefix?_rawAttributes (hfit : prefixes.IsFit)
    (hcovers : ∀ e ∈ attributes, prefixes.Covers e.1) (htag : IsPlainElement name attributes) :
    ∀ e ∈ rawAttributes prefixes attributes, declaredPrefix? e.1 = none := by
  intro raw hraw
  rcases List.mem_map.1 hraw with ⟨e, he, rfl⟩
  exact Prefixes.declaredPrefix?_write hfit (hcovers e he) (htag.soundAttributes e he).1.1
    (htag.notDeclaration e he)

/-- Written attributes are expanded to what they were. -/
theorem attributes?_rawAttributes (hfit : prefixes.IsFit)
    (hcovers : ∀ e ∈ attributes, prefixes.Covers e.1) (htag : IsPlainElement name attributes) :
    prefixes.bindings.attributes? (rawAttributes prefixes attributes) = some attributes := by
  have hnone := declaredPrefix?_rawAttributes hfit hcovers htag
  have hlocal : ∀ e ∈ attributes, isPlainName .standard e.1.localPart = true :=
    fun e he => (htag.soundAttributes e he).1.1
  clear htag
  induction attributes with
  | nil => rfl
  | cons e attributes ih =>
    rcases List.forall_mem_cons.1 hnone with ⟨he, hrest⟩
    rcases List.forall_mem_cons.1 hcovers with ⟨hcoversHead, hcoversRest⟩
    rcases List.forall_mem_cons.1 hlocal with ⟨hlocalHead, hlocalRest⟩
    have hname := Prefixes.attributeName?_write hfit hcoversHead hlocalHead
    show prefixes.bindings.attributes?
      ((prefixes.write e.1, e.2) :: rawAttributes prefixes attributes) = _
    simp [Bindings.attributes?, he, hname, ih hcoversRest hrest hlocalRest]

/-- Attributes of different names are written under different names. -/
theorem nodup_rawAttributes (hfit : prefixes.IsFit)
    (hcovers : ∀ e ∈ attributes, prefixes.Covers e.1) (htag : IsPlainElement name attributes) :
    ((rawAttributes prefixes attributes).map Prod.fst).Nodup := by
  have hnames : (rawAttributes prefixes attributes).map Prod.fst =
      (attributes.map Prod.fst).map prefixes.write := by
    simp [rawAttributes]
  rw [hnames, List.nodup_iff_pairwise_ne, List.pairwise_map]
  refine List.Pairwise.imp_of_mem ?_ htag.distinct
  intro a b ha hb hne heq
  -- a written name gives back the name that was written
  rcases List.mem_map.1 ha with ⟨e, he, rfl⟩
  rcases List.mem_map.1 hb with ⟨e', he', rfl⟩
  have hback := Prefixes.attributeName?_write hfit (hcovers e he) (htag.soundAttributes e he).1.1
  have hback' :=
    Prefixes.attributeName?_write hfit (hcovers e' he') (htag.soundAttributes e' he').1.1
  rw [heq, hback'] at hback
  exact hne (Option.some.inj hback).symm

/-- Inside an element that declares the prefixes, a written forest is expanded to what it was. -/
theorem expand?_rawWithin (hfit : prefixes.IsFit) {f : Forest QName}
    (hcovers : ∀ name ∈ names f, prefixes.Covers name) (hf : f.Forall onChar IsPlainElement) :
    expand? prefixes.bindings (rawWithin prefixes f) = some f := by
  induction f with
  | nil => rfl
  | text run rest ih =>
    show Forest.text run <$> expand? prefixes.bindings (rawWithin prefixes rest) = _
    rw [ih hcovers hf.2]
    rfl
  | element name attributes children rest ihChildren ihRest =>
    rcases hf with ⟨htag, hchildren, hrest⟩
    have hcoversName : prefixes.Covers name := hcovers name (by simp [names])
    have hcoversAttributes : ∀ e ∈ attributes, prefixes.Covers e.1 := fun e he =>
      hcovers e.1 (mem_names_of_mem_attributes he)
    exact expand?_element.2 ⟨prefixes.bindings, name, attributes, children, rest,
      nodup_rawAttributes hfit hcoversAttributes htag,
      declare?_of_none (declaredPrefix?_rawAttributes hfit hcoversAttributes htag),
      Prefixes.elementName?_write hfit hcoversName htag.soundName.1,
      attributes?_rawAttributes hfit hcoversAttributes htag, htag.distinct,
      ihChildren (fun other hother => hcovers other (by simp [names, hother])) hchildren,
      ihRest (fun other hother => hcovers other (by simp [names, hother])) hrest, rfl⟩

/-- Declarations are no attributes. -/
theorem attributes?_declarations (bindings : Bindings) (entries : Prefixes)
    (attributes : List (Text × Text)) :
    bindings.attributes? ((entries.map fun e => ("xmlns:".toList ++ e.2, e.1)) ++ attributes) =
      bindings.attributes? attributes := by
  induction entries with
  | nil => rfl
  | cons e entries ih =>
    rw [List.map_cons, List.cons_append, Bindings.attributes?, declaredPrefix?_declaration]
    exact ih

/-- Declarations and written attributes have different names. -/
theorem nodup_declarations (hfit : prefixes.IsFit)
    (hcovers : ∀ e ∈ attributes, prefixes.Covers e.1) (htag : IsPlainElement name attributes) :
    ((prefixes.declarationAttributes ++ rawAttributes prefixes attributes).map Prod.fst).Nodup := by
  rw [List.map_append, List.nodup_append]
  refine ⟨?_, nodup_rawAttributes hfit hcovers htag, fun a ha b hb hab => ?_⟩
  · have hmarks : (prefixes.sorted.map Prod.snd).Nodup :=
      ((List.mergeSort_perm _ _).map Prod.snd).nodup_iff.2 hfit.nodup
    have hnames : prefixes.declarationAttributes.map Prod.fst =
        (prefixes.sorted.map Prod.snd).map ("xmlns:".toList ++ ·) := by
      simp [Prefixes.declarationAttributes]
    rw [hnames, List.nodup_iff_pairwise_ne, List.pairwise_map]
    exact hmarks.imp fun hne heq => hne (List.append_cancel_left heq)
  · rcases List.mem_map.1 ha with ⟨declaration, hdeclaration, rfl⟩
    rcases List.mem_map.1 hdeclaration with ⟨e, _, rfl⟩
    rcases List.mem_map.1 hb with ⟨raw, hraw, rfl⟩
    have hnone := declaredPrefix?_rawAttributes hfit hcovers htag raw hraw
    rw [← hab, declaredPrefix?_declaration] at hnone
    simp at hnone

/-- Written names mean what they did before. -/
theorem expand?_rawContent {f : Forest QName} (hf : f.Forall onChar IsPlainElement) :
    expand? .initial (rawContent f) = some f := by
  induction f with
  | nil => rfl
  | text run rest ih =>
    show Forest.text run <$> expand? .initial (rawContent rest) = _
    rw [ih hf.2]
    rfl
  | element name attributes children rest _ ih =>
    rcases hf with ⟨htag, hchildren, hrest⟩
    rcases Prefixes.isFit_of
      (f := .element name attributes children .nil) ⟨htag, hchildren, trivial⟩ with ⟨hfit, hcovers⟩
    rw [rawContent]
    generalize Prefixes.of (.element name attributes children .nil) = prefixes at hfit hcovers ⊢
    have hcoversAttributes : ∀ e ∈ attributes, prefixes.Covers e.1 := fun e he =>
      hcovers e.1 (mem_names_of_mem_attributes he)
    have hdeclare : Bindings.initial.declare?
        (prefixes.declarationAttributes ++ rawAttributes prefixes attributes) =
        some prefixes.bindings := by
      rw [declare?_append, Prefixes.declarationAttributes, declare?_declarations fun e he =>
        hfit.mayBind e (Prefixes.mem_sorted.1 he)]
      exact declare?_of_none (declaredPrefix?_rawAttributes hfit hcoversAttributes htag)
    exact expand?_element.2 ⟨prefixes.bindings, name, attributes, children, rest,
      nodup_declarations hfit hcoversAttributes htag, hdeclare,
      Prefixes.elementName?_write hfit (hcovers name (by simp [names])) htag.soundName.1,
      (attributes?_declarations ..).trans (attributes?_rawAttributes hfit hcoversAttributes htag),
      htag.distinct,
      expand?_rawWithin hfit (fun other hother => hcovers other (by simp [names, hother]))
        hchildren,
      ih hrest, rfl⟩

/-! ## Sound spellings -/

/-- Names whose local parts are of a kind are written as raw names of another one. -/
structure Writes (isLocal isName : Text → Prop) : Prop where
  ofQualified : ∀ raw, IsQualified .standard raw → isName raw
  ofLocal : ∀ {prefixes : Prefixes} {name : QName}, prefixes.IsFit → prefixes.Covers name →
    isLocal name.localPart → isName (prefixes.write name)

/-- Plain names are written as qualified ones. -/
theorem writes_plain :
    Writes (fun name => isPlainName .standard name = true) (IsQualified .standard) where
  ofQualified _ hraw := hraw
  ofLocal hfit hcovers hlocal := Prefixes.isQualified_write hfit hcovers hlocal

variable {isLocal isName : Text → Prop}

/-- Written attributes are sound. -/
theorem rawAttributes_isSound (hwrites : Writes isLocal isName) (hfit : prefixes.IsFit)
    (hcovers : ∀ e ∈ attributes, prefixes.Covers e.1)
    (htag : IsSoundElement isLocal name attributes) :
    ∀ e ∈ rawAttributes prefixes attributes, isName e.1 ∧ IsRun e.2 := by
  intro raw hraw
  rcases List.mem_map.1 hraw with ⟨e, he, rfl⟩
  rcases htag.soundAttributes e he with ⟨hname, hvalue⟩
  exact ⟨hwrites.ofLocal hfit (hcovers e he) hname.1, hvalue⟩

/-- Declarations are sound. -/
theorem declarationAttributes_isSound (hwrites : Writes isLocal isName) (hfit : prefixes.IsFit) :
    ∀ e ∈ prefixes.declarationAttributes, isName e.1 ∧ IsRun e.2 := by
  intro declaration hdeclaration
  rcases List.mem_map.1 hdeclaration with ⟨e, he, rfl⟩
  have hmem := Prefixes.mem_sorted.1 he
  have hxmlns : isPlainName .standard "xmlns".toList = true := by decide
  exact ⟨hwrites.ofQualified _ (.prefixed hxmlns (hfit.isPlain e hmem)), hfit.isRun e hmem⟩

/-- Inside an element that declares the prefixes, a written forest is sound. -/
theorem rawWithin_isSound (hwrites : Writes isLocal isName) (hfit : prefixes.IsFit)
    {f : Forest QName} (hcovers : ∀ name ∈ names f, prefixes.Covers name)
    (hf : f.Forall onChar (IsSoundElement isLocal)) :
    (rawWithin prefixes f).Forall onChar (IsSoundTag isName) := by
  induction f with
  | nil => trivial
  | text run rest ih => exact ⟨hf.1, ih hcovers hf.2⟩
  | element name attributes children rest ihChildren ihRest =>
    rcases hf with ⟨htag, hchildren, hrest⟩
    have hcoversAttributes : ∀ e ∈ attributes, prefixes.Covers e.1 := fun e he =>
      hcovers e.1 (mem_names_of_mem_attributes he)
    exact ⟨⟨hwrites.ofLocal hfit (hcovers name (by simp [names])) htag.soundName.1,
        rawAttributes_isSound hwrites hfit hcoversAttributes htag⟩,
      ihChildren (fun other hother => hcovers other (by simp [names, hother])) hchildren,
      ihRest (fun other hother => hcovers other (by simp [names, hother])) hrest⟩

/-- A written forest is sound. -/
theorem rawContent_isSound (hwrites : Writes isLocal isName) {f : Forest QName}
    (hf : f.Forall onChar (IsSoundElement isLocal)) :
    (rawContent f).Forall onChar (IsSoundTag isName) := by
  induction f with
  | nil => trivial
  | text run rest ih => exact ⟨hf.1, ih hf.2⟩
  | element name attributes children rest _ ih =>
    rcases hf with ⟨htag, hchildren, hrest⟩
    rcases Prefixes.isFit_of
      (f := .element name attributes children .nil) ⟨htag, hchildren, trivial⟩ with ⟨hfit, hcovers⟩
    have hcoversAttributes : ∀ e ∈ attributes, Prefixes.Covers _ e.1 := fun e he =>
      hcovers e.1 (mem_names_of_mem_attributes he)
    refine ⟨⟨hwrites.ofLocal hfit (hcovers name (by simp [names])) htag.soundName.1,
        ?_⟩,
      rawWithin_isSound hwrites hfit
        (fun other hother => hcovers other (by simp [names, hother])) hchildren,
      ih hrest⟩
    intro e he
    rcases List.mem_append.1 he with he | he
    · exact declarationAttributes_isSound hwrites hfit e he
    · exact rawAttributes_isSound hwrites hfit hcoversAttributes htag e he

/-- Inside an element, writing leaves a forest merged. -/
theorem rawWithin_isMerged {f : Forest QName} (hf : f.IsMerged) :
    (rawWithin prefixes f).IsMerged := by
  induction f with
  | nil => trivial
  | text run rest ih =>
    have hstarts : (rawWithin prefixes rest).startsWithText = rest.startsWithText := by
      cases rest <;> rfl
    exact ⟨hf.1, hstarts.trans hf.2.1, ih hf.2.2⟩
  | element name attributes children rest ihChildren ihRest =>
    exact ⟨ihChildren hf.1, ihRest hf.2⟩

/-- Writing leaves a forest merged. -/
theorem rawContent_isMerged {f : Forest QName} (hf : f.IsMerged) : (rawContent f).IsMerged := by
  induction f with
  | nil => trivial
  | text run rest ih =>
    have hstarts : (rawContent rest).startsWithText = rest.startsWithText := by
      cases rest <;> rfl
    exact ⟨hf.1, hstarts.trans hf.2.1, ih hf.2.2⟩
  | element name attributes children rest _ ihRest => exact ⟨rawWithin_isMerged hf.1, ihRest hf.2⟩

/-! ## The round trip -/

/-- Replacing text leaves the names. -/
theorem names_mapText (replace : Text → Text) (f : Forest QName) :
    names (f.mapText replace) = names f := by
  induction f with
  | nil => rfl
  | text run rest ih => exact ih
  | element name attributes children rest ihChildren ihRest =>
    simp only [Forest.mapText, names, ihChildren, ihRest]

/-- Inside an element, replacing text and writing names can be done in any order. -/
theorem rawWithin_mapText (replace : Text → Text) (f : Forest QName) :
    rawWithin prefixes (f.mapText replace) = (rawWithin prefixes f).mapText replace := by
  induction f with
  | nil => rfl
  | text run rest ih => simp only [Forest.mapText, rawWithin, ih]
  | element name attributes children rest ihChildren ihRest =>
    simp only [Forest.mapText, rawWithin, ihChildren, ihRest]

/-- Replacing text and writing names can be done in any order. -/
theorem rawContent_mapText (replace : Text → Text) (f : Forest QName) :
    rawContent (f.mapText replace) = (rawContent f).mapText replace := by
  induction f with
  | nil => rfl
  | text run rest ih => simp only [Forest.mapText, rawContent, ih]
  | element name attributes children rest _ ih =>
    have hprefixes : Prefixes.of (.element name attributes (children.mapText replace) .nil) =
        Prefixes.of (.element name attributes children .nil) := by
      simp only [Prefixes.of, names, names_mapText]
    simp only [Forest.mapText, rawContent, ih, hprefixes, rawWithin_mapText]

/-- Unified text is made of characters that a document may hold. -/
theorem isRun_unifyBreaks {run : Text} (hrun : IsRun run) : IsRun (unifyBreaks run) := by
  intro c hc
  rcases Text.mem_of_mem_unifyBreaks hc with rfl | hc
  · decide
  · exact hrun c hc

/-- Written content is read back, with the line breaks of its text unified. -/
theorem readContent?_writeContent {f : Forest QName} (hf : IsPlainContent f) :
    readContent? (writeContent f) = some (f.mapText unifyBreaks) := by
  rcases hf with ⟨hsound, hmerged⟩
  rw [writeContent_eq_spell]
  refine readContent?_spell (rawContent_isSound writes_plain hsound)
    (rawContent_isMerged hmerged) ?_
  rw [← rawContent_mapText]
  exact expand?_rawContent (hsound.mapText fun run hrun => isRun_unifyBreaks hrun)

/-- A forest is the same with unified line breaks exactly when its text has no carriage return. -/
theorem mapText_unifyBreaks_eq_self_iff {ν : Type} (f : Forest ν) :
    f.mapText unifyBreaks = f ↔ f.Forall (· ≠ '\r') fun _ _ => True := by
  refine Forest.mapText_eq_self_iff ?_
  intro run
  rw [Text.unifyBreaks_eq_self_iff]
  constructor
  · intro hreturn c hc heq
    exact hreturn (heq ▸ hc)
  · intro hrun hreturn
    exact hrun '\r' hreturn rfl

/-- Content that is not empty is not written as nothing. -/
theorem writeContent_ne_nil {f : Forest QName} (hf : f.IsMerged) (hne : f.isEmpty = false) :
    writeContent f ≠ [] := by
  cases f with
  | nil => simp [Forest.isEmpty] at hne
  | element name attributes children rest => simp [writeContent, writeElement]
  | text run rest =>
    cases run with
    | nil => exact absurd rfl hf.1
    | cons c run =>
      have hchar : escapeRunChar c ≠ [] := by
        rcases escapeRunChar_eq c with ⟨body, hreference, _⟩ | ⟨hplain, _⟩
        · rw [hreference]
          simp
        · rw [hplain]
          simp
      intro hnil
      have happend := List.append_eq_nil_iff.1 hnil
      exact hchar (List.append_eq_nil_iff.1 happend.1).1

end Xml
end DocMarkup
