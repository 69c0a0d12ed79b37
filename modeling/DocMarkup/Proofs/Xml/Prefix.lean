import DocMarkup.Proofs.Assoc
import DocMarkup.Proofs.Xml.Spelling

/-!
# Generated prefixes

Every namespace of an element gets a prefix of its own: a customary one, or the next numbered one.
Declared on the element, the prefixes are bound to their namespaces, so that a written name means
what it did before.

Main definitions:

- {lit}`Xml.generatedPrefix`: the prefix that a new namespace gets.
- {lit}`Xml.Prefixes.Generated`: prefixes given out one after another.
- {lit}`Xml.Prefixes.IsFit`: prefixes that can be declared together.
- {lit}`Xml.Prefixes.bindings`: the bindings of declared prefixes.

Main results:

- Theorem {lit}`Xml.Prefixes.isFit_of`: the prefixes of sound names can be declared together.
- Theorem {lit}`Xml.Prefixes.write_cases`: the prefix of a written name is bound to its namespace.
-/

namespace DocMarkup
namespace Xml

/-! ## Marks -/

/-- The prefix that a new namespace gets when `n` have one already. -/
def generatedPrefix (space : Text) (n : Nat) : Text :=
  (Assoc.get? space customaryPrefixes).getD ("ns".toList ++ Text.ofNat n)

/-- A generated prefix is a customary or a numbered one. -/
theorem generatedPrefix_cases (space : Text) (n : Nat) :
    (space, generatedPrefix space n) ∈ customaryPrefixes ∨
      generatedPrefix space n = "ns".toList ++ Text.ofNat n := by
  unfold generatedPrefix
  cases h : Assoc.get? space customaryPrefixes with
  | none => exact .inr rfl
  | some mark => exact .inl (Assoc.mem_of_get? h)

/-- The digits of a number may stand in a name. -/
theorem isNameChar_of_mem_ofNat {n : Nat} {c : Char} (hc : c ∈ Text.ofNat n) :
    isNameChar c = true := by
  have hdigit : c.isDigit = true := Nat.isDigit_of_mem_toDigits (by decide) (by decide) hc
  have hrange : '0' ≤ c ∧ c ≤ '9' := by
    simp only [Char.isDigit, Bool.and_eq_true, decide_eq_true_eq] at hdigit
    exact hdigit
  have hascii : c.toNat < 0x80 := by
    have hle : c.toNat ≤ '9'.toNat := hrange.2
    exact Nat.lt_of_le_of_lt hle (by decide)
  simp [isNameChar, hascii, Text.isDigit, hrange]

/-- A generated prefix is a plain name, and neither of the two reserved ones. -/
theorem generatedPrefix_isPlain (space : Text) (n : Nat) :
    isPlainName .standard (generatedPrefix space n) = true ∧
      generatedPrefix space n ≠ "xml".toList ∧ generatedPrefix space n ≠ "xmlns".toList := by
  rcases generatedPrefix_cases space n with hmem | hnumbered
  · have hall : ∀ e ∈ customaryPrefixes, isPlainName .standard e.2 = true ∧
        e.2 ≠ "xml".toList ∧ e.2 ≠ "xmlns".toList := by decide +kernel
    exact hall _ hmem
  · rw [hnumbered]
    refine ⟨isPlainName_cons.2 ⟨by decide, List.forall_mem_cons.2 ⟨by decide, fun c hc =>
      isNameChar_of_mem_ofNat hc⟩⟩, by simp, by simp⟩

/-- Two namespaces get one prefix only when they are the same, or get it at the same place. -/
theorem generatedPrefix_inj {space space' : Text} {m n : Nat}
    (h : generatedPrefix space m = generatedPrefix space' n) : space = space' ∨ m = n := by
  have hcustomary : ∀ e ∈ customaryPrefixes, ∀ e' ∈ customaryPrefixes, e.2 = e'.2 → e.1 = e'.1 := by
    decide +kernel
  have hnumbered : ∀ e ∈ customaryPrefixes, e.2.take 2 ≠ "ns".toList := by decide +kernel
  rcases generatedPrefix_cases space m with hmem | heq
  · rcases generatedPrefix_cases space' n with hmem' | heq'
    · exact .inl (hcustomary _ hmem _ hmem' h)
    · exact absurd (by rw [h, heq']; rfl) (hnumbered _ hmem)
  · rcases generatedPrefix_cases space' n with hmem' | heq'
    · exact absurd (by rw [← h, heq]; rfl) (hnumbered _ hmem')
    · have hdigits : Text.ofNat m = Text.ofNat n :=
        List.append_cancel_left (heq.symm.trans (h.trans heq'))
      refine .inr ?_
      have hvalue := congrArg (fun digits => Nat.ofDigitChars 10 digits 0) hdigits
      simpa [Text.ofNat] using hvalue

/-! ## Prefixes given out -/

namespace Prefixes

/-- Prefixes given out one after another, each to a new namespace. -/
inductive Generated : Prefixes → Prop
  | nil : Generated []
  | snoc {prefixes : Prefixes} {space : Text} (hprefixes : Generated prefixes)
      (hnew : space ∉ prefixes.map Prod.fst) (hxml : space ≠ xmlSpace) :
      Generated (prefixes ++ [(space, generatedPrefix space prefixes.length)])

/-- A name adds a prefix for its namespace unless it needs none. -/
theorem add_eq (prefixes : Prefixes) (name : QName) :
    prefixes.add name = prefixes ∨ ∃ space, name.space = some space ∧
      space ∉ prefixes.map Prod.fst ∧ space ≠ xmlSpace ∧
      prefixes.add name = prefixes ++ [(space, generatedPrefix space prefixes.length)] := by
  unfold Prefixes.add
  split
  · exact .inl rfl
  · next space hspace =>
    split
    · exact .inl rfl
    · next hxml =>
      by_cases hmem : space ∈ prefixes.map Prod.fst
      · exact .inl (Assoc.insertNew_of_mem hmem)
      · exact .inr ⟨space, hspace, hmem, hxml, Assoc.insertNew_of_not_mem hmem⟩

/-- The namespaces that have a prefix, or need none. -/
def Covers (prefixes : Prefixes) (name : QName) : Prop :=
  ∀ space ∈ name.space, space = xmlSpace ∨ space ∈ prefixes.map Prod.fst

/-- A name is covered when it has been added. -/
theorem covers_add (prefixes : Prefixes) (name : QName) : (prefixes.add name).Covers name := by
  intro space hspace
  rcases name with ⟨nameSpace, localPart⟩
  obtain rfl : nameSpace = some space := by simpa using hspace
  by_cases hxml : space = xmlSpace
  · exact .inl hxml
  · refine .inr ?_
    show space ∈ (if space = xmlSpace then prefixes
      else Assoc.insertNew space (generatedPrefix space prefixes.length) prefixes).map Prod.fst
    rw [if_neg hxml]
    by_cases hmem : space ∈ prefixes.map Prod.fst
    · rwa [Assoc.insertNew_of_mem hmem]
    · simp [Assoc.insertNew_of_not_mem hmem]

/-- What was covered stays covered. -/
theorem Covers.add {prefixes : Prefixes} {name : QName} (h : prefixes.Covers name)
    (other : QName) : (prefixes.add other).Covers name := by
  intro space hspace
  refine (h space hspace).imp_right ?_
  intro hmem
  rcases add_eq prefixes other with heq | ⟨_, _, _, _, heq⟩
  · rwa [heq]
  · rw [heq, List.map_append]
    exact List.mem_append_left _ hmem

/-- The prefixes for some names, given out after others. -/
theorem foldl_add {names : List QName} {prefixes : Prefixes} (hprefixes : prefixes.Generated) :
    (names.foldl Prefixes.add prefixes).Generated ∧
      (∀ name, prefixes.Covers name ∨ name ∈ names →
        (names.foldl Prefixes.add prefixes).Covers name) ∧
      ∀ e ∈ names.foldl Prefixes.add prefixes,
        e ∈ prefixes ∨ ∃ name ∈ names, name.space = some e.1 := by
  induction names generalizing prefixes with
  | nil => exact ⟨hprefixes, fun name h => h.resolve_right (by simp), fun e he => .inl he⟩
  | cons name names ih =>
    have hnext : (prefixes.add name).Generated ∧
        ∀ e ∈ prefixes.add name, e ∈ prefixes ∨ name.space = some e.1 := by
      rcases add_eq prefixes name with heq | ⟨space, hspace, hmem, hxml, heq⟩
      · rw [heq]
        exact ⟨hprefixes, fun e he => .inl he⟩
      · rw [heq]
        refine ⟨.snoc hprefixes hmem hxml, ?_⟩
        intro e he
        rcases List.mem_append.1 he with he | he
        · exact .inl he
        · obtain rfl := List.mem_singleton.1 he
          exact .inr hspace
    rcases ih hnext.1 with ⟨hgenerated, hcovers, hmem⟩
    refine ⟨hgenerated, fun other hother => hcovers other ?_, fun e he => ?_⟩
    · rcases hother with hother | hother
      · exact .inl (hother.add name)
      · rcases List.mem_cons.1 hother with rfl | hother
        · exact .inl (covers_add prefixes other)
        · exact .inr hother
    · rcases hmem e he with he | ⟨other, hother, hspace⟩
      · exact (hnext.2 e he).imp_right fun hspace => ⟨name, by simp, hspace⟩
      · exact .inr ⟨other, by simp [hother], hspace⟩

/-- No namespace and no prefix is given out twice. -/
theorem Generated.nodup {prefixes : Prefixes} (h : prefixes.Generated) :
    (prefixes.map Prod.fst).Nodup ∧ (prefixes.map Prod.snd).Nodup ∧
      ∀ e ∈ prefixes, e.1 ≠ xmlSpace ∧ ∃ k < prefixes.length, e.2 = generatedPrefix e.1 k := by
  induction h with
  | nil => simp
  | @snoc prefixes space hprefixes hnew hxml ih =>
    rcases ih with ⟨hspaces, hmarks, hall⟩
    refine ⟨?_, ?_, ?_⟩
    · rw [List.map_append, List.nodup_append]
      refine ⟨hspaces, by simp, ?_⟩
      intro a ha b hb
      obtain rfl : b = space := by simpa using hb
      rintro rfl
      exact hnew ha
    · rw [List.map_append, List.nodup_append]
      refine ⟨hmarks, by simp, ?_⟩
      intro a ha b hb
      obtain rfl : b = generatedPrefix space prefixes.length := by simpa using hb
      rintro rfl
      rcases List.mem_map.1 ha with ⟨e, he, hmark⟩
      rcases hall e he with ⟨_, k, hk, heq⟩
      rcases generatedPrefix_inj (hmark.symm.trans heq) with hspace | hlength
      · exact hnew (hspace ▸ List.mem_map_of_mem he)
      · omega
    · intro e he
      rcases List.mem_append.1 he with he | he
      · rcases hall e he with ⟨hxml', k, hk, heq⟩
        exact ⟨hxml', k, by simp only [List.length_append]; omega, heq⟩
      · obtain rfl := List.mem_singleton.1 he
        exact ⟨hxml, prefixes.length, by simp, rfl⟩

/-! ## Declared prefixes -/

/-- Prefixes that can be declared together: all different, all plain names, and each one may be
bound to its namespace. -/
structure IsFit (prefixes : Prefixes) : Prop where
  nodup : (prefixes.map Prod.snd).Nodup
  isPlain : ∀ e ∈ prefixes, isPlainName .standard e.2 = true
  mayBind : ∀ e ∈ prefixes, Xml.mayBind e.2 e.1 = true
  isRun : ∀ e ∈ prefixes, IsRun e.1
  ne_xml : ∀ e ∈ prefixes, e.2 ≠ "xml".toList
  ne_xmlns : ∀ e ∈ prefixes, e.2 ≠ "xmlns".toList

/-- Generated prefixes of namespaces that can be declared can be declared together. -/
theorem Generated.isFit {prefixes : Prefixes} (h : prefixes.Generated)
    (hspaces : ∀ e ∈ prefixes, IsSpaceName e.1) : prefixes.IsFit := by
  rcases h.nodup with ⟨_, hmarks, hall⟩
  have hplain : ∀ e ∈ prefixes, isPlainName .standard e.2 = true ∧
      e.2 ≠ "xml".toList ∧ e.2 ≠ "xmlns".toList := by
    intro e he
    rcases hall e he with ⟨_, k, _, heq⟩
    rw [heq]
    exact generatedPrefix_isPlain e.1 k
  refine ⟨hmarks, fun e he => (hplain e he).1, ?_, fun e he => (hspaces e he).isRun,
    fun e he => (hplain e he).2.1, fun e he => (hplain e he).2.2⟩
  intro e he
  have hmark : (e.2 == "xml".toList) = (e.1 == xmlSpace) := by
    rw [beq_eq_false_iff_ne.2 (hplain e he).2.1, beq_eq_false_iff_ne.2 (hall e he).1]
  simp only [Xml.mayBind, bne_iff_ne.2 (hplain e he).2.2, hmark,
    bne_iff_ne.2 (hspaces e he).ne_declarationSpace]
  simp [(hspaces e he).ne_nil, (hspaces e he).not_mem_brace]

/-- The prefixes in the order of their declarations. -/
def sorted (prefixes : Prefixes) : Prefixes := prefixes.mergeSort fun a b => precedes a.2 b.2

/-- The declarations of prefixes as attributes. -/
def declarationAttributes (prefixes : Prefixes) : List (Text × Text) :=
  prefixes.sorted.map fun e => ("xmlns:".toList ++ e.2, e.1)

/-- The bindings inside an element that declares the prefixes, outside of any other. -/
def bindings (prefixes : Prefixes) : Bindings :=
  (prefixes.sorted.map fun e => (e.2, e.1)).reverse ++ Bindings.initial

/-- Sorting keeps the prefixes. -/
theorem mem_sorted {prefixes : Prefixes} {e : Text × Text} : e ∈ prefixes.sorted ↔ e ∈ prefixes :=
  (List.mergeSort_perm _ _).mem_iff

/-- Every declared prefix is bound to its namespace. -/
theorem IsFit.get?_bindings {prefixes : Prefixes} (hfit : prefixes.IsFit) {e : Text × Text}
    (he : e ∈ prefixes) : Assoc.get? e.2 prefixes.bindings = some e.1 := by
  have hnodup : (((prefixes.sorted.map fun e => (e.2, e.1)).reverse).map Prod.fst).Nodup := by
    rw [List.map_reverse, List.map_map]
    exact (List.reverse_perm _).nodup_iff.2
      (((List.mergeSort_perm _ _).map Prod.snd).nodup_iff.2 hfit.nodup)
  have hmem : (e.2, e.1) ∈ (prefixes.sorted.map fun e => (e.2, e.1)).reverse :=
    List.mem_reverse.2 (List.mem_map.2 ⟨e, mem_sorted.2 he, rfl⟩)
  rw [bindings, Assoc.get?_append, Assoc.get?_of_mem hnodup hmem]
  rfl

/-- What no prefix is declared as is bound as outside all elements. -/
theorem get?_bindings_of_ne {prefixes : Prefixes} {mark : Text}
    (hmark : ∀ e ∈ prefixes, e.2 ≠ mark) :
    Assoc.get? mark prefixes.bindings = Assoc.get? mark Bindings.initial := by
  have hnone : Assoc.get? mark (prefixes.sorted.map fun e => (e.2, e.1)).reverse = none := by
    rw [Assoc.get?_eq_none_iff]
    intro hmem
    rcases List.mem_map.1 hmem with ⟨swapped, hswapped, rfl⟩
    rcases List.mem_map.1 (List.mem_reverse.1 hswapped) with ⟨e, he, rfl⟩
    exact hmark e (mem_sorted.1 he) rfl
  rw [bindings, Assoc.get?_append, hnone]
  rfl

/-! ## Written names -/

/-- A written name is its local part alone, or stands behind a prefix that is bound to its
namespace. -/
theorem write_cases {prefixes : Prefixes} (hfit : prefixes.IsFit) {name : QName}
    (hcovers : prefixes.Covers name) :
    (⟨none, name.localPart⟩ = name ∧ prefixes.write name = name.localPart) ∨
      ∃ mark space, ⟨some space, name.localPart⟩ = name ∧
        prefixes.write name = mark ++ ':' :: name.localPart ∧
        isPlainName .standard mark = true ∧ mark ≠ "xmlns".toList ∧
        Assoc.get? mark prefixes.bindings = some space := by
  rcases name with ⟨nameSpace, localPart⟩
  cases nameSpace with
  | none => exact .inl ⟨rfl, rfl⟩
  | some space =>
    refine .inr ?_
    by_cases hxml : space = xmlSpace
    · refine ⟨"xml".toList, space, rfl, ?_, by decide +kernel, by decide, ?_⟩
      · simp only [Prefixes.write, if_pos hxml]
        rfl
      · rw [get?_bindings_of_ne hfit.ne_xml, hxml]
        rfl
    · have hmem := (hcovers space rfl).resolve_left hxml
      cases hget : Assoc.get? space prefixes with
      | none => exact absurd hmem (Assoc.get?_eq_none_iff.1 hget)
      | some mark =>
        have he := Assoc.mem_of_get? hget
        refine ⟨mark, space, rfl, ?_, hfit.isPlain _ he, hfit.ne_xmlns _ he,
          hfit.get?_bindings he⟩
        simp only [Prefixes.write, if_neg hxml, hget, Option.getD_some]

variable {prefixes : Prefixes} {name : QName}

/-- A written name is a qualified one. -/
theorem isQualified_write (hfit : prefixes.IsFit) (hcovers : prefixes.Covers name)
    (hlocal : isPlainName .standard name.localPart = true) :
    IsQualified .standard (prefixes.write name) := by
  rcases write_cases hfit hcovers with ⟨_, hwrite⟩ | ⟨mark, space, _, hwrite, hmark, _⟩
  · rw [hwrite]
    exact .plain hlocal
  · rw [hwrite]
    exact .prefixed hmark hlocal

/-- A written name of an element means what it did before. -/
theorem elementName?_write (hfit : prefixes.IsFit) (hcovers : prefixes.Covers name)
    (hlocal : isPlainName .standard name.localPart = true) :
    prefixes.bindings.elementName? (prefixes.write name) = some name := by
  have hrule := CharRule.standard_isLawful
  rcases write_cases hfit hcovers with
    ⟨hname, hwrite⟩ | ⟨mark, space, hname, hwrite, hmark, _, hget⟩
  · have hdefault : Assoc.get? [] prefixes.bindings = none := by
      rw [get?_bindings_of_ne fun e he => ne_nil_of_isPlainName (hfit.isPlain e he)]
      rfl
    simp only [hwrite, Bindings.elementName?, cutName_plain hrule hlocal, hdefault, hname]
  · simp only [hwrite, Bindings.elementName?, cutName_prefixed hrule hmark, hget,
      Option.map_some, hname]

/-- A written name of an attribute means what it did before. -/
theorem attributeName?_write (hfit : prefixes.IsFit) (hcovers : prefixes.Covers name)
    (hlocal : isPlainName .standard name.localPart = true) :
    prefixes.bindings.attributeName? (prefixes.write name) = some name := by
  have hrule := CharRule.standard_isLawful
  rcases write_cases hfit hcovers with
    ⟨hname, hwrite⟩ | ⟨mark, space, hname, hwrite, hmark, _, hget⟩
  · simp only [hwrite, Bindings.attributeName?, cutName_plain hrule hlocal, hname]
  · simp only [hwrite, Bindings.attributeName?, cutName_prefixed hrule hmark, hget,
      Option.map_some, hname]

/-- A written name declares nothing. -/
theorem declaredPrefix?_write (hfit : prefixes.IsFit) (hcovers : prefixes.Covers name)
    (hlocal : isPlainName .standard name.localPart = true)
    (hname : name ≠ ⟨none, "xmlns".toList⟩) : declaredPrefix? (prefixes.write name) = none := by
  have hrule := CharRule.standard_isLawful
  rcases write_cases hfit hcovers with
    ⟨heq, hwrite⟩ | ⟨mark, space, _, hwrite, hmark, hxmlns, _⟩
  · have hne : name.localPart ≠ "xmlns".toList := fun h => hname (by rw [← heq, h])
    simp only [hwrite, declaredPrefix?, cutName_plain hrule hlocal, if_neg hne]
  · simp only [hwrite, declaredPrefix?, cutName_prefixed hrule hmark, if_neg hxmlns]

end Prefixes
end Xml
end DocMarkup
