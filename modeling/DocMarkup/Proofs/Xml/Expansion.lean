import DocMarkup.Proofs.Xml.Assembly

/-!
# Expanded forests

Expansion looks up every prefix among bindings that were admitted when they were declared. What it
gives has namespaces that can be declared again, attributes of distinct names, and the text that was
there before.

Main definitions:

- {lit}`Xml.IsSpaceName`: a namespace that can be declared with a prefix.
- {lit}`Xml.IsSoundElement`: an element that can be written.
- {lit}`Xml.IsContent`: a merged forest of elements that can be written.

Main results:

- Theorem {lit}`Xml.expand?_isSound`: expansion gives sound elements.
- Theorem {lit}`Xml.expand?_meet`: forests side by side are expanded apart.
-/

namespace DocMarkup
namespace Xml

/-! ## Sound names -/

/-- A namespace that can be declared with a prefix. -/
structure IsSpaceName (space : Text) : Prop where
  ne_nil : space ≠ []
  isRun : IsRun space
  ne_declarationSpace : space ≠ declarationSpace
  not_mem_brace : '}' ∉ space

/-- An expanded name whose local part is of a kind and whose namespace can be declared. -/
def QName.IsSound (isLocal : Text → Prop) (name : QName) : Prop :=
  isLocal name.localPart ∧ ∀ space ∈ name.space, IsSpaceName space

/-- An element with sound names and values, no two attributes of one name, and none that would be
read as a declaration. -/
structure IsSoundElement (isLocal : Text → Prop) (name : QName) (attributes : List (QName × Text)) :
    Prop where
  soundName : name.IsSound isLocal
  soundAttributes : ∀ e ∈ attributes, e.1.IsSound isLocal ∧ IsRun e.2
  notDeclaration : ∀ e ∈ attributes, e.1 ≠ ⟨none, "xmlns".toList⟩
  distinct : (attributes.map Prod.fst).Nodup

/-- A merged forest of sound elements. -/
def IsContent (isLocal : Text → Prop) (f : Forest QName) : Prop :=
  f.Forall (isChar · = true) (IsSoundElement isLocal) ∧ f.IsMerged

/-- A binding that was admitted when it was declared. -/
structure IsBinding (mark space : Text) : Prop where
  isRun : IsRun space
  ne_declarationSpace : space ≠ declarationSpace
  not_mem_brace : '}' ∉ space
  ne_nil : mark ≠ [] → space ≠ []

/-- Bindings that were admitted when they were declared. -/
def Bindings.IsSound (bindings : Bindings) : Prop := ∀ e ∈ bindings, IsBinding e.1 e.2

/-- No name occurs twice exactly when the test says so. -/
theorem areDistinct_iff {ν : Type} [DecidableEq ν] {names : List ν} :
    areDistinct names = true ↔ names.Nodup := by
  induction names with
  | nil => simp [areDistinct]
  | cons name names ih => simp [areDistinct, ih]

/-! ## Bindings -/

/-- The bindings outside all elements are sound. -/
theorem Bindings.initial_isSound : Bindings.initial.IsSound :=
  List.forall_mem_singleton.2
    { isRun := List.all_eq_true.1 (by decide +kernel)
      ne_declarationSpace := by decide +kernel
      not_mem_brace := by decide +kernel
      ne_nil := fun _ => by decide +kernel }

/-- What may be bound is bound soundly. -/
theorem IsBinding.of_mayBind {mark space : Text} (hrun : IsRun space)
    (h : mayBind mark space = true) : IsBinding mark space := by
  simp only [mayBind, Bool.and_eq_true, bne_iff_ne, Bool.or_eq_true, Bool.not_eq_true',
    List.isEmpty_iff, List.isEmpty_eq_false_iff, List.contains_eq_mem,
    decide_eq_false_iff_not] at h
  rcases h with ⟨⟨⟨⟨_, hspace⟩, _⟩, hempty⟩, hbrace⟩
  exact ⟨hrun, hspace, hbrace, fun hmark => hempty.resolve_left hmark⟩

/-- What is bound to a prefix was admitted. -/
theorem Bindings.IsSound.of_get? {bindings : Bindings} (hbindings : bindings.IsSound)
    {mark space : Text} (h : Assoc.get? mark bindings = some space) : IsBinding mark space := by
  induction bindings with
  | nil => simp [Assoc.get?] at h
  | cons e bindings ih =>
    rcases List.forall_mem_cons.1 hbindings with ⟨he, hrest⟩
    simp only [Assoc.get?] at h
    split at h
    · next hmark =>
      obtain rfl : e.1 = mark := by simpa using hmark
      exact Option.some.inj h ▸ he
    · exact ih hrest h

/-- Declarations add sound bindings. -/
theorem Bindings.IsSound.declare? {bindings inner : Bindings} (hbindings : bindings.IsSound)
    {attributes : List (Text × Text)} (hattributes : ∀ e ∈ attributes, IsRun e.2)
    (h : bindings.declare? attributes = some inner) : inner.IsSound := by
  induction attributes generalizing bindings with
  | nil => exact Option.some.inj h ▸ hbindings
  | cons e attributes ih =>
    rcases e with ⟨raw, value⟩
    rcases List.forall_mem_cons.1 hattributes with ⟨he, hrest⟩
    rw [Bindings.declare?] at h
    split at h
    · exact ih hbindings hrest h
    · split at h
      · next mark _ hbind =>
        have hbinding : IsBinding mark value := .of_mayBind he hbind
        exact ih (List.forall_mem_cons.2 ⟨hbinding, hbindings⟩) hrest h
      · simp at h

/-! ## Expansion -/

variable {isName isLocal : Text → Prop}

/-- Raw names of a kind, whose local parts are of another one and whose prefixes are not empty. -/
def CutsTo (isName isLocal : Text → Prop) : Prop :=
  ∀ raw, isName raw → isLocal (cutName raw).2 ∧ (cutName raw).1 ≠ some []

/-- Qualified names are cut to plain ones. -/
theorem cutsTo_plain {rule : CharRule} (hrule : rule.IsLawful) :
    CutsTo (IsQualified rule) fun name => isPlainName rule name = true := by
  intro raw hraw
  cases hraw with
  | plain hname => simp [cutName_plain hrule hname, hname]
  | prefixed hmark hlocal =>
    simp [cutName_prefixed hrule hmark, hlocal, ne_nil_of_isPlainName hmark]

/-- The name of an element is sound. -/
theorem Bindings.IsSound.elementName? {bindings : Bindings} (hbindings : bindings.IsSound)
    (hcut : CutsTo isName isLocal) {raw : Text} {name : QName} (hraw : isName raw)
    (h : bindings.elementName? raw = some name) : name.IsSound isLocal := by
  rcases hcut raw hraw with ⟨hlocal, hmark⟩
  unfold Bindings.elementName? at h
  split at h
  · next mark localPart heq =>
    rw [heq] at hlocal hmark
    rcases Option.map_eq_some_iff.1 h with ⟨space, hspace, rfl⟩
    have hbinding := hbindings.of_get? hspace
    refine ⟨hlocal, ?_⟩
    intro space' hspace'
    obtain rfl : space = space' := by simpa using hspace'
    exact ⟨hbinding.ne_nil fun h => hmark (by rw [h]), hbinding.isRun,
      hbinding.ne_declarationSpace, hbinding.not_mem_brace⟩
  · next localPart heq =>
    rw [heq] at hlocal
    split at h
    · exact Option.some.inj h ▸ ⟨hlocal, by simp⟩
    · next space hspace =>
      have hbinding := hbindings.of_get? hspace
      obtain rfl := Option.some.inj h
      refine ⟨hlocal, ?_⟩
      intro space' hspace'
      by_cases hempty : space.isEmpty = true
      · simp [hempty] at hspace'
      · obtain rfl : space = space' := by simpa [hempty] using hspace'
        exact ⟨by simpa using hempty, hbinding.isRun, hbinding.ne_declarationSpace,
          hbinding.not_mem_brace⟩

/-- The name of an attribute is sound. -/
theorem Bindings.IsSound.attributeName? {bindings : Bindings} (hbindings : bindings.IsSound)
    (hcut : CutsTo isName isLocal) {raw : Text} {name : QName} (hraw : isName raw)
    (h : bindings.attributeName? raw = some name) : name.IsSound isLocal := by
  rcases hcut raw hraw with ⟨hlocal, hmark⟩
  unfold Bindings.attributeName? at h
  split at h
  · next mark localPart heq =>
    rw [heq] at hlocal hmark
    rcases Option.map_eq_some_iff.1 h with ⟨space, hspace, rfl⟩
    have hbinding := hbindings.of_get? hspace
    refine ⟨hlocal, ?_⟩
    intro space' hspace'
    obtain rfl : space = space' := by simpa using hspace'
    exact ⟨hbinding.ne_nil fun h => hmark (by rw [h]), hbinding.isRun,
      hbinding.ne_declarationSpace, hbinding.not_mem_brace⟩
  · next localPart heq =>
    rw [heq] at hlocal
    exact Option.some.inj h ▸ ⟨hlocal, by simp⟩

/-- An attribute that is no declaration is not named like one. -/
theorem attributeName?_ne {bindings : Bindings} {raw : Text} {name : QName}
    (hraw : (declaredPrefix? raw).isSome = false) (h : bindings.attributeName? raw = some name) :
    name ≠ ⟨none, "xmlns".toList⟩ := by
  unfold Bindings.attributeName? at h
  unfold declaredPrefix? at hraw
  split at h
  · rcases Option.map_eq_some_iff.1 h with ⟨space, _, rfl⟩
    exact fun hname => by simpa using congrArg QName.space hname
  · next localPart heq =>
    rw [heq] at hraw
    obtain rfl := Option.some.inj h
    intro hname
    obtain rfl : localPart = "xmlns".toList := congrArg QName.localPart hname
    simp at hraw

/-- The attributes of an element are sound, and none is named like a declaration. -/
theorem Bindings.IsSound.attributes? {bindings : Bindings} (hbindings : bindings.IsSound)
    (hcut : CutsTo isName isLocal) {attributes : List (Text × Text)}
    {expanded : List (QName × Text)} (hattributes : ∀ e ∈ attributes, isName e.1 ∧ IsRun e.2)
    (h : bindings.attributes? attributes = some expanded) :
    ∀ e ∈ expanded, (e.1.IsSound isLocal ∧ IsRun e.2) ∧ e.1 ≠ ⟨none, "xmlns".toList⟩ := by
  induction attributes generalizing expanded with
  | nil => simp [← Option.some.inj h]
  | cons e attributes ih =>
    rcases e with ⟨raw, value⟩
    rcases List.forall_mem_cons.1 hattributes with ⟨⟨hraw, hvalue⟩, hrest⟩
    rw [Bindings.attributes?] at h
    split at h
    · exact ih hrest h
    · next hdeclared =>
      simp only [Option.bind_eq_bind, Option.bind_eq_some_iff, Option.some.injEq] at h
      rcases h with ⟨name, hname, others, hothers, rfl⟩
      exact List.forall_mem_cons.2
        ⟨⟨⟨hbindings.attributeName? hcut hraw hname, hvalue⟩,
          attributeName?_ne (by simpa using hdeclared) hname⟩, ih hrest hothers⟩

/-- An element is expanded when its names are, no attribute occurs twice, and what is inside and
behind it is expanded too. -/
theorem expand?_element {bindings : Bindings} {raw : Text} {attributes : List (Text × Text)}
    {children rest : Forest Text} {g : Forest QName} :
    expand? bindings (.element raw attributes children rest) = some g ↔
      ∃ inner name expanded children' rest',
        (attributes.map Prod.fst).Nodup ∧ bindings.declare? attributes = some inner ∧
        inner.elementName? raw = some name ∧ inner.attributes? attributes = some expanded ∧
        (expanded.map Prod.fst).Nodup ∧ expand? inner children = some children' ∧
        expand? bindings rest = some rest' ∧ g = .element name expanded children' rest' := by
  rw [expand?]
  constructor
  · intro h
    split at h
    · next hraw =>
      simp only [Option.bind_eq_bind, Option.bind_eq_some_iff] at h
      rcases h with ⟨inner, hinner, name, hname, expanded, hexpanded, h⟩
      split at h
      · next hdistinct =>
        simp only [Option.bind_eq_some_iff, Option.some.injEq] at h
        rcases h with ⟨children', hchildren', rest', hrest', rfl⟩
        exact ⟨inner, name, expanded, children', rest', areDistinct_iff.1 hraw, hinner, hname,
          hexpanded, areDistinct_iff.1 hdistinct, hchildren', hrest', rfl⟩
      · simp at h
    · simp at h
  · rintro ⟨inner, name, expanded, children', rest', hraw, hinner, hname, hexpanded, hdistinct,
      hchildren', hrest', rfl⟩
    rw [← areDistinct_iff] at hraw hdistinct
    simp [hraw, hinner, hname, hexpanded, hdistinct, hchildren', hrest']

/-- Expansion gives sound elements. -/
theorem expand?_isSound (hcut : CutsTo isName isLocal) {bindings : Bindings}
    (hbindings : bindings.IsSound) {f : Forest Text} {g : Forest QName}
    (hf : f.Forall (isChar · = true) (IsSoundTag isName)) (h : expand? bindings f = some g) :
    g.Forall (isChar · = true) (IsSoundElement isLocal) := by
  induction f generalizing bindings g with
  | nil => exact Option.some.inj h ▸ trivial
  | text run rest ih =>
    rcases Option.map_eq_some_iff.1 h with ⟨rest', hrest, rfl⟩
    exact ⟨hf.1, ih hbindings hf.2 hrest⟩
  | element raw attributes children rest ihChildren ihRest =>
    rcases hf with ⟨⟨hraw, hattributes⟩, hchildren, hrest⟩
    obtain ⟨inner, name, expanded, children', rest', _, hinner, hname, hexpanded, hdistinct,
      hchildren', hrest', rfl⟩ := expand?_element.1 h
    have hinside := hbindings.declare? (fun e he => (hattributes e he).2) hinner
    have hall := hinside.attributes? hcut hattributes hexpanded
    exact ⟨⟨hinside.elementName? hcut hraw hname, fun e he => (hall e he).1,
        fun e he => (hall e he).2, hdistinct⟩,
      ihChildren hinside hchildren hchildren', ihRest hbindings hrest hrest'⟩

/-- Expansion keeps the kind of the first node. -/
theorem startsWithText_expand? {bindings : Bindings} {f : Forest Text} {g : Forest QName}
    (h : expand? bindings f = some g) : g.startsWithText = f.startsWithText := by
  cases f with
  | nil => exact Option.some.inj h ▸ rfl
  | text run rest =>
    rcases Option.map_eq_some_iff.1 h with ⟨rest', _, rfl⟩
    rfl
  | element raw attributes children rest =>
    rcases expand?_element.1 h with ⟨_, _, _, _, _, _, _, _, _, _, _, _, rfl⟩
    rfl

/-- Expansion leaves a forest merged. -/
theorem expand?_isMerged {bindings : Bindings} {f : Forest Text} {g : Forest QName}
    (hf : f.IsMerged) (h : expand? bindings f = some g) : g.IsMerged := by
  induction f generalizing bindings g with
  | nil => exact Option.some.inj h ▸ trivial
  | text run rest ih =>
    rcases Option.map_eq_some_iff.1 h with ⟨rest', hrest, rfl⟩
    exact ⟨hf.1, (startsWithText_expand? hrest).trans hf.2.1, ih hf.2.2 hrest⟩
  | element raw attributes children rest ihChildren ihRest =>
    obtain ⟨_, _, _, children', rest', _, _, _, _, _, hchildren', hrest', rfl⟩ :=
      expand?_element.1 h
    exact ⟨ihChildren hf.1 hchildren', ihRest hf.2 hrest'⟩

/-! ## Forests side by side -/

/-- A character in front is expanded to itself. -/
theorem expand?_consChar {bindings : Bindings} {f : Forest Text} {g : Forest QName}
    (h : expand? bindings f = some g) (c : Char) :
    expand? bindings (f.consChar c) = some (g.consChar c) := by
  cases f with
  | nil =>
    obtain rfl : .nil = g := Option.some.inj h
    rfl
  | text run rest =>
    rcases Option.map_eq_some_iff.1 h with ⟨rest', hrest, rfl⟩
    show Forest.text (c :: run) <$> expand? bindings rest = _
    rw [hrest]
    rfl
  | element raw attributes children rest =>
    have hstarts := startsWithText_expand? h
    show Forest.text [c] <$> expand? bindings (.element raw attributes children rest) = _
    rw [h]
    cases g with
    | nil => rfl
    | text => simp [Forest.startsWithText] at hstarts
    | element => rfl

/-- A run of text in front is expanded to itself. -/
theorem expand?_consChars {bindings : Bindings} {f : Forest Text} {g : Forest QName}
    (h : expand? bindings f = some g) (run : Text) :
    expand? bindings (f.consChars run) = some (g.consChars run) := by
  induction run with
  | nil => exact h
  | cons c run ih => exact expand?_consChar ih c

/-- Forests side by side are expanded apart. -/
theorem expand?_meet {bindings : Bindings} {f₁ f₂ : Forest Text} {g₁ g₂ : Forest QName}
    (h₁ : expand? bindings f₁ = some g₁) (h₂ : expand? bindings f₂ = some g₂) :
    expand? bindings (f₁.meet f₂) = some (g₁.meet g₂) := by
  induction f₁ generalizing g₁ with
  | nil => exact Option.some.inj h₁ ▸ h₂
  | text run rest ih =>
    rcases Option.map_eq_some_iff.1 h₁ with ⟨rest', hrest, rfl⟩
    exact expand?_consChars (ih hrest) run
  | element raw attributes children rest _ ih =>
    obtain ⟨inner, name, expanded, children', rest', hraw, hinner, hname, hexpanded, hdistinct,
      hchildren', hrest', rfl⟩ := expand?_element.1 h₁
    exact expand?_element.2 ⟨inner, name, expanded, children', rest'.meet g₂, hraw, hinner, hname,
      hexpanded, hdistinct, hchildren', ih hrest', rfl⟩

end Xml
end DocMarkup
