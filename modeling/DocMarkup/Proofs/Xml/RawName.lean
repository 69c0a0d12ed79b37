import DocMarkup.Proofs.Text.Run
import DocMarkup.Xml.Name
import DocMarkup.Xml.Reference

/-!
# Raw names

A raw name is a plain name, or two plain names with a colon between them. Reading finds a raw name
again that stands in front of a character of another kind, and cutting it at its colon gives back
its two parts.

Main definitions:

- {lit}`Xml.CharRule.IsLawful`: a rule whose names hold none of the marks of a tag.
- {lit}`Xml.IsQualified`: the raw names of a rule.
- {lit}`Xml.IsUnmarked`, {lit}`Xml.IsRaw`: texts without marks, or with colons only.

Main results:

- Theorems {lit}`Xml.qualifiedName?_append` and {lit}`Xml.qualifiedName?_eq_some`: a raw name is
  read back, and what is read is a raw name.
- Theorem {lit}`Xml.IsRaw.isQualified`: what is read as a name is one.
- Theorems {lit}`Xml.cutName_plain` and {lit}`Xml.cutName_prefixed`: the two parts of a raw name.
-/

namespace DocMarkup
namespace Xml

open Text (Stops takeWhile_run dropWhile_run)

/-! ## Rules -/

/-- The space and the marks that stand between the names of a tag. -/
def tagMarks : Text := " \t\r\n<>/&;=\"'!?#:".toList

/-- A rule whose names may go on with every character that begins one, and which hold no mark. -/
structure CharRule.IsLawful (rule : CharRule) : Prop where
  more_of_start : ∀ c, rule.start c = true → rule.more c = true
  not_more : ∀ c ∈ tagMarks, rule.more c = false

/-- No mark goes on a name when the test of all of them says so. -/
theorem CharRule.not_more_of_all {rule : CharRule}
    (h : (tagMarks.all fun c => !rule.more c) = true) : ∀ c ∈ tagMarks, rule.more c = false := by
  intro c hc
  simpa using List.all_eq_true.1 h c hc

/-- A character that begins a name may stand inside one. -/
theorem isNameChar_of_isNameStart {c : Char} (hc : isNameStart c = true) :
    isNameChar c = true := by
  unfold isNameStart at hc
  unfold isNameChar
  split at hc
  · next hascii =>
    rw [if_pos hascii]
    rcases Bool.or_eq_true .. ▸ hc with hletter | hline
    · simp [hletter]
    · simp [hline]
  · next hascii => simp [hascii, hc]

theorem CharRule.standard_isLawful : CharRule.standard.IsLawful where
  more_of_start _ hc := isNameChar_of_isNameStart hc
  not_more := not_more_of_all (by decide +kernel)

/-- A replacement text has the names of documents in UTF-8. -/
theorem CharRule.replacement_isLawful : CharRule.replacement.IsLawful where
  more_of_start := standard_isLawful.more_of_start
  not_more := standard_isLawful.not_more

theorem CharRule.withOrdinals_isLawful : CharRule.withOrdinals.IsLawful where
  more_of_start c hc := by
    rcases Bool.or_eq_true .. ▸ hc with hstart | hordinal
    · simp [CharRule.withOrdinals, isNameChar_of_isNameStart hstart]
    · simp [CharRule.withOrdinals, hordinal]
  not_more := not_more_of_all (by decide +kernel)

variable {rule : CharRule}

/-- A name may not go on with a mark. -/
theorem CharRule.IsLawful.stops (hrule : rule.IsLawful) {c : Char} (hc : c ∈ tagMarks)
    (rest : Text) : Stops rule.more (c :: rest) := by
  simpa using hrule.not_more c hc

/-! ## Plain names -/

/-- A plain name begins with a character that may begin one and goes on with those that may follow. -/
theorem isPlainName_cons {c : Char} {rest : Text} :
    isPlainName rule (c :: rest) = true ↔ rule.start c = true ∧ ∀ d ∈ rest, rule.more d = true := by
  simp [isPlainName]

theorem ne_nil_of_isPlainName {name : Text} (hname : isPlainName rule name = true) :
    name ≠ [] := by
  rintro rfl
  simp [isPlainName] at hname

/-- Every character of a plain name may stand inside one. -/
theorem more_of_mem_plainName (hrule : rule.IsLawful) {name : Text}
    (hname : isPlainName rule name = true) : ∀ c ∈ name, rule.more c = true := by
  cases name with
  | nil => simp
  | cons c rest =>
    rcases isPlainName_cons.1 hname with ⟨hc, hrest⟩
    intro d hd
    rcases List.mem_cons.1 hd with rfl | hd
    · exact hrule.more_of_start d hc
    · exact hrest d hd

/-- No mark stands in a plain name. -/
theorem mark_not_mem_plainName (hrule : rule.IsLawful) {name : Text}
    (hname : isPlainName rule name = true) {c : Char} (hc : c ∈ tagMarks) : c ∉ name := by
  intro hmem
  have hmore := more_of_mem_plainName hrule hname c hmem
  rw [hrule.not_more c hc] at hmore
  contradiction

/-- A plain name is read back in front of a character that cannot continue it. -/
theorem plainName?_append {name rest : Text} (hname : isPlainName rule name = true)
    (hstop : Stops rule.more rest) : plainName? rule (name ++ rest) = some (name, rest) := by
  cases name with
  | nil => simp [isPlainName] at hname
  | cons c name =>
    rcases isPlainName_cons.1 hname with ⟨hc, hmore⟩
    rw [List.cons_append, plainName?, if_pos hc, takeWhile_run hmore hstop,
      dropWhile_run hmore hstop]

/-- What is read as a plain name is one, and it is read as far as it goes. -/
theorem plainName?_eq_some {s name rest : Text} (h : plainName? rule s = some (name, rest)) :
    s = name ++ rest ∧ isPlainName rule name = true ∧ Stops rule.more rest := by
  cases s with
  | nil => simp [plainName?] at h
  | cons c s =>
    simp only [plainName?] at h
    split at h
    · next hc =>
      obtain ⟨rfl, rfl⟩ : c :: s.takeWhile rule.more = name ∧ s.dropWhile rule.more = rest := by
        simpa using h
      refine ⟨?_, isPlainName_cons.2 ⟨hc, fun d hd => Text.of_mem_takeWhile hd⟩,
        Text.stops_dropWhile _ _⟩
      rw [List.cons_append, List.takeWhile_append_dropWhile]
    · simp at h

/-! ## Qualified names -/

/-- The raw names of a rule: a plain name, or two with a colon between them. -/
inductive IsQualified (rule : CharRule) : Text → Prop
  | plain {name : Text} (hname : isPlainName rule name = true) : IsQualified rule name
  | prefixed {mark localPart : Text} (hmark : isPlainName rule mark = true)
      (hlocal : isPlainName rule localPart = true) : IsQualified rule (mark ++ ':' :: localPart)

/-- The raw names of a replacement text are those of documents in UTF-8. -/
theorem IsQualified.standard {raw : Text} (hraw : IsQualified .replacement raw) :
    IsQualified .standard raw := by
  cases hraw with
  | plain hname => exact .plain hname
  | prefixed hmark hlocal => exact .prefixed hmark hlocal

/-- Where a raw name may end: neither a character of a name nor a colon follows. -/
def EndsName (rule : CharRule) (rest : Text) : Prop :=
  Stops rule.more rest ∧ rest.head? ≠ some ':'

/-- A raw name ends in front of any mark but the colon. -/
theorem endsName_cons (hrule : rule.IsLawful) {c : Char} (hc : c ∈ tagMarks) (hcolon : c ≠ ':')
    (rest : Text) : EndsName rule (c :: rest) :=
  ⟨hrule.stops hc rest, by simpa using hcolon⟩

/-- A raw name is read back where it ends. -/
theorem qualifiedName?_append (hrule : rule.IsLawful) {raw rest : Text}
    (hraw : IsQualified rule raw) (hend : EndsName rule rest) :
    qualifiedName? rule (raw ++ rest) = some (raw, rest) := by
  rcases hend with ⟨hstop, hcolon⟩
  cases hraw with
  | plain hname =>
    simp only [qualifiedName?, plainName?_append hname hstop, Option.bind_eq_bind,
      Option.bind_some]
    split
    · simp at hcolon
    · rfl
  | @prefixed mark localPart hmark hlocal =>
    have hfirst : plainName? rule (mark ++ ':' :: (localPart ++ rest)) =
        some (mark, ':' :: (localPart ++ rest)) :=
      plainName?_append hmark (hrule.stops (by decide) _)
    rw [List.append_assoc, List.cons_append]
    simp only [qualifiedName?, hfirst, plainName?_append hlocal hstop, Option.bind_eq_bind,
      Option.bind_some]

/-- What is read as a raw name is one. -/
theorem qualifiedName?_eq_some {s raw rest : Text} (h : qualifiedName? rule s = some (raw, rest)) :
    s = raw ++ rest ∧ IsQualified rule raw := by
  simp only [qualifiedName?, Option.bind_eq_bind, Option.bind_eq_some_iff, Prod.exists] at h
  rcases h with ⟨first, afterFirst, hfirst, h⟩
  rcases plainName?_eq_some hfirst with ⟨rfl, hfirstName, _⟩
  split at h
  · next afterColon =>
    simp only [Option.bind_eq_some_iff, Prod.exists] at h
    rcases h with ⟨second, afterSecond, hsecond, h⟩
    rcases plainName?_eq_some hsecond with ⟨rfl, hsecondName, _⟩
    obtain ⟨rfl, rfl⟩ : first ++ ':' :: second = raw ∧ afterSecond = rest := by simpa using h
    exact ⟨by simp, .prefixed hfirstName hsecondName⟩
  · obtain ⟨rfl, rfl⟩ : first = raw ∧ afterFirst = rest := by simpa using h
    exact ⟨rfl, .plain hfirstName⟩

/-- A raw name begins with a character that may begin a plain one. -/
theorem IsQualified.exists_cons {raw : Text} (hraw : IsQualified rule raw) :
    ∃ c rest, raw = c :: rest ∧ rule.start c = true := by
  cases hraw with
  | plain hname =>
    cases raw with
    | nil => simp [isPlainName] at hname
    | cons c rest => exact ⟨c, rest, rfl, (isPlainName_cons.1 hname).1⟩
  | @prefixed mark localPart hmark hlocal =>
    cases mark with
    | nil => simp [isPlainName] at hmark
    | cons c mark => exact ⟨c, mark ++ ':' :: localPart, rfl, (isPlainName_cons.1 hmark).1⟩

/-- No mark but the colon stands in a raw name. -/
theorem IsQualified.mark_not_mem (hrule : rule.IsLawful) {raw : Text} (hraw : IsQualified rule raw)
    {c : Char} (hc : c ∈ tagMarks) (hcolon : c ≠ ':') : c ∉ raw := by
  cases hraw with
  | plain hname => exact mark_not_mem_plainName hrule hname hc
  | prefixed hmark hlocal =>
    simp [mark_not_mem_plainName hrule hmark hc, mark_not_mem_plainName hrule hlocal hc, hcolon]

/-! ## Texts without marks -/

/-- A text in which no mark stands. -/
structure IsUnmarked (name : Text) : Prop where
  ne_nil : name ≠ []
  not_mark : ∀ c ∈ name, c ∉ tagMarks

/-- A text in which no mark stands but the colon. -/
structure IsRaw (raw : Text) : Prop where
  ne_nil : raw ≠ []
  isColon : ∀ c ∈ raw, c ∈ tagMarks → c = ':'

/-- No mark stands in a plain name. -/
theorem isUnmarked_of_isPlainName (hrule : rule.IsLawful) {name : Text}
    (hname : isPlainName rule name = true) : IsUnmarked name where
  ne_nil := ne_nil_of_isPlainName hname
  not_mark _ hmem hc := mark_not_mem_plainName hrule hname hc hmem

/-- No mark stands in a raw name but the colon. -/
theorem IsQualified.isRaw (hrule : rule.IsLawful) {raw : Text} (hraw : IsQualified rule raw) :
    IsRaw raw where
  ne_nil := by
    rcases hraw.exists_cons with ⟨c, rest, rfl, _⟩
    simp
  isColon c hmem hc := by
    by_cases hcolon : c = ':'
    · exact hcolon
    · exact absurd hmem (hraw.mark_not_mem hrule hc hcolon)

/-- A text without marks may stand alone or behind a plain name and a colon. -/
theorem IsUnmarked.isRaw {name : Text} (hname : IsUnmarked name) :
    IsRaw name ∧ ∀ {mark : Text}, isPlainName .standard mark = true →
      IsRaw (mark ++ ':' :: name) := by
  refine ⟨⟨hname.ne_nil, fun c hmem hc => absurd hc (hname.not_mark c hmem)⟩, ?_⟩
  intro mark hmark
  refine ⟨by simp, ?_⟩
  intro c hmem hc
  rcases List.mem_append.1 hmem with hmem | hmem
  · exact absurd hmem (mark_not_mem_plainName CharRule.standard_isLawful hmark hc)
  · rcases List.mem_cons.1 hmem with hcolon | hmem
    · exact hcolon
    · exact absurd hc (hname.not_mark c hmem)

/-- A text without marks but colons begins with neither. -/
theorem IsRaw.exists_cons {raw : Text} (hraw : IsRaw raw) :
    ∃ c more, raw = c :: more ∧ ∀ d ∈ tagMarks, d ≠ ':' → c ≠ d := by
  cases raw with
  | nil => exact absurd rfl hraw.ne_nil
  | cons c more =>
    refine ⟨c, more, rfl, ?_⟩
    rintro d hd hdcolon rfl
    exact hdcolon (hraw.isColon c (by simp) hd)

/-- Where a text of a tag ends: at a mark other than the colon. -/
def IsNameEnd (rest : Text) : Prop := ∃ c more, rest = c :: more ∧ c ∈ tagMarks ∧ c ≠ ':'

/-- Two texts without marks but colons that end at marks of one text are the same. -/
theorem IsRaw.unique {raw raw' rest rest' : Text} (hraw : IsRaw raw) (hraw' : IsRaw raw')
    (hrest : IsNameEnd rest) (hrest' : IsNameEnd rest') (heq : raw ++ rest = raw' ++ rest') :
    raw = raw' ∧ rest = rest' := by
  have htake : ∀ {raw rest : Text}, IsRaw raw → IsNameEnd rest →
      (raw ++ rest).takeWhile (fun c => decide (c ∈ tagMarks → c = ':')) = raw := by
    intro raw rest hraw hrest
    rcases hrest with ⟨c, more, rfl, hc, hcolon⟩
    refine takeWhile_run (fun d hd => decide_eq_true (hraw.isColon d hd)) ?_
    simp [hc, hcolon]
  have hname : raw = raw' := by
    rw [← htake hraw hrest, heq, htake hraw' hrest']
  subst hname
  exact ⟨rfl, List.append_cancel_left heq⟩

/-- A text without marks but colons is read as a name only when it is one. -/
theorem IsRaw.isQualified (hrule : rule.IsLawful) {raw rest name rest' : Text} (hraw : IsRaw raw)
    (hrest : IsNameEnd rest) (h : qualifiedName? rule (raw ++ rest) = some (name, rest'))
    (hrest' : IsNameEnd rest') : IsQualified rule raw ∧ rest' = rest := by
  rcases qualifiedName?_eq_some h with ⟨heq, hname⟩
  rcases hraw.unique (hname.isRaw hrule) hrest hrest' heq with ⟨rfl, rfl⟩
  exact ⟨hname, rfl⟩

/-! ## Cutting at the colon -/

/-- A text without a colon has no prefix. -/
theorem cutName_of_not_mem {raw : Text} (hcolon : ':' ∉ raw) : cutName raw = (none, raw) := by
  have hrun : ∀ c ∈ raw, (c != ':') = true := fun c hc => bne_iff_ne.2 fun h => hcolon (h ▸ hc)
  have hdrop : raw.dropWhile (· != ':') = [] := by
    simpa using dropWhile_run hrun Text.stops_nil
  simp [cutName, hdrop]

/-- A text is cut at its first colon. -/
theorem cutName_append {mark : Text} (hcolon : ':' ∉ mark) (localPart : Text) :
    cutName (mark ++ ':' :: localPart) = (some mark, localPart) := by
  have hrun : ∀ c ∈ mark, (c != ':') = true := fun c hc => bne_iff_ne.2 fun h => hcolon (h ▸ hc)
  have hstop : Stops (· != ':') (':' :: localPart) := by simp
  simp [cutName, dropWhile_run hrun hstop, takeWhile_run hrun hstop]

/-- A plain name has no prefix. -/
theorem cutName_plain (hrule : rule.IsLawful) {name : Text} (hname : isPlainName rule name = true) :
    cutName name = (none, name) :=
  cutName_of_not_mem (mark_not_mem_plainName hrule hname (by decide))

/-- A plain name in front of a colon is the prefix. -/
theorem cutName_prefixed (hrule : rule.IsLawful) {mark : Text}
    (hmark : isPlainName rule mark = true) (localPart : Text) :
    cutName (mark ++ ':' :: localPart) = (some mark, localPart) :=
  cutName_append (mark_not_mem_plainName hrule hmark (by decide)) localPart

/-- Behind a prefix or alone, a text without marks makes a raw name only when it is plain. -/
theorem IsUnmarked.isPlainName (hrule : rule.IsLawful) {name : Text} (hname : IsUnmarked name) :
    (IsQualified rule name → Xml.isPlainName rule name = true) ∧
      ∀ {mark : Text}, ':' ∉ mark → IsQualified rule (mark ++ ':' :: name) →
        Xml.isPlainName rule name = true := by
  have hcolon : ':' ∉ name := fun hmem => hname.not_mark ':' hmem (by decide)
  constructor
  · intro hqualified
    cases hqualified with
    | plain hplain => exact hplain
    | prefixed hmark hlocal => simp at hcolon
  · intro mark hmark hqualified
    have hcut := cutName_append hmark name
    generalize mark ++ ':' :: name = raw at hqualified hcut
    cases hqualified with
    | plain hplain => simp [cutName_plain hrule hplain] at hcut
    | prefixed hmark' hlocal =>
      rw [cutName_prefixed hrule hmark'] at hcut
      rw [← (Prod.mk.inj hcut).2]
      exact hlocal

end Xml
end DocMarkup
