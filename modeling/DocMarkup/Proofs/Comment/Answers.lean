import DocMarkup.Proofs.Comment.Related

/-!
# Questions and answers

Building depends on its surroundings through its questions alone. When two settings lack the same
resolvers and give the same answer to every question that is asked under the first one, the second
one is asked the same questions in the same order, and nothing that follows can differ: the two runs
are kept in step, one question after another.

Main definitions:

- {lit}`Recorded.Follows`: a computation that is the same as another one whenever every question of
  that one satisfies a property.
- {lit}`Resolvers.AgreeOn`: two settings give the same answer to a question.
- {lit}`Provider.AgreeOn`: the same for two settings of a build.

Main results:

- Theorem {lit}`Recorded.follows_isComposed`: runs that are in step stay in step.
- Theorem {lit}`Resolvers.LackSame.related`: settings are in step where they agree.
- Theorem {lit}`run_eq_of_agreeOn`: settings that agree on every question asked give one run.
-/

namespace DocMarkup

/-! ## Runs in step -/

namespace Recorded

variable {ε α β : Type} {agree : Question → Prop} {x y : Recorded ε α}

/-- The second computation is the first one whenever every question of the first one satisfies a
property. -/
def Follows (agree : Question → Prop) (x y : Recorded ε α) : Prop :=
  (∀ q ∈ x.trace.questions, agree q) → y = x

/-- A computation follows itself. -/
theorem Follows.refl (x : Recorded ε α) : x.Follows agree x := fun _ => rfl

/-- A question is followed by another answer to it when the answers agree. -/
theorem Follows.ask {q : Question} {x y : Recorded ε α} (h : agree q → y = x) :
    (Recorded.ask q >>= fun _ => x).Follows agree (Recorded.ask q >>= fun _ => y) := by
  intro hagree
  rw [h (hagree q (List.mem_cons_self ..))]

/-- One computation after another is followed by the same in step. -/
theorem Follows.bind (hxy : x.Follows agree y) {f g : α → Recorded ε β}
    (hfg : ∀ a, (f a).Follows agree (g a)) : (x >>= f).Follows agree (y >>= g) := by
  show (Recorded.bind x f).Follows agree (Recorded.bind y g)
  intro hagree
  unfold Recorded.bind at hagree ⊢
  cases houtcome : x.outcome with
  | error e =>
    simp only [houtcome] at hagree
    rw [hxy hagree]
    simp only [houtcome]
  | ok a =>
    simp only [houtcome] at hagree
    -- the questions of the first step come first, and its value decides which step comes next
    have hfirst : ∀ q ∈ x.trace.questions, agree q := fun q hq =>
      hagree q (List.mem_append_left _ hq)
    have hnext : ∀ q ∈ (f a).trace.questions, agree q := fun q hq =>
      hagree q (List.mem_append_right _ hq)
    rw [hxy hfirst]
    simp only [houtcome, hfg a hnext]

/-- Runs that are in step stay in step. -/
theorem follows_isComposed (agree : Question → Prop) :
    IsComposed fun _ (x y : Recorded ε _) => x.Follows agree y where
  pure a := .refl (.pure a)
  fail e := .refl (.fail e)
  bind hxy hfg := hxy.bind hfg

end Recorded

/-! ## Settings -/

namespace Resolvers

variable {ε : Type} {r r' : Resolvers ε} {agree : Question → Prop}

/-- Two settings lack the same resolvers. -/
structure LackSame (r r' : Resolvers ε) : Prop where
  reference : r.reference.isSome = r'.reference.isSome
  source : r.source.isSome = r'.source.isSome
  keyword : r.keyword.isSome = r'.keyword.isSome

/-- Two settings give the same answer to a question. -/
def AgreeOn (r r' : Resolvers ε) : Question → Prop
  | .reference id => r.reference.map (· id) = r'.reference.map (· id)
  | .source id => r.source.map (· id) = r'.source.map (· id)
  | .keyword word => r.keyword.map (· word) = r'.keyword.map (· word)

/-- Where one resolver is absent, the other one is too. -/
theorem absent_or_present {α β : Type} {a? : Option α} {b? : Option β}
    (h : a?.isSome = b?.isSome) : (a? = none ∧ b? = none) ∨ ∃ a b, a? = some a ∧ b? = some b := by
  cases a? with
  | none =>
    cases b? with
    | none => exact Or.inl ⟨rfl, rfl⟩
    | some b => cases h
  | some a =>
    cases b? with
    | none => cases h
    | some b => exact Or.inr ⟨a, b, rfl, rfl⟩

/-- Settings that lack the same resolvers are in step where they agree. -/
theorem LackSame.related (hlack : r.LackSame r') :
    r.Related (fun _ x y => x.Follows (r.AgreeOn r') y) r' where
  reference := by
    rcases absent_or_present hlack.reference with ⟨h, h'⟩ | ⟨resolve, resolve', h, h'⟩
    · rw [h, h']
      exact .none
    · rw [h, h']
      refine .some fun id => .ask fun hagree => ?_
      have hanswer : resolve id = resolve' id := by simpa [AgreeOn, h, h'] using hagree
      rw [hanswer]
  source id region := by
    unfold askSource
    rcases absent_or_present hlack.source with ⟨h, h'⟩ | ⟨load, load', h, h'⟩
    · rw [h, h']
      exact .refl _
    · rw [h, h']
      refine .ask fun hagree => ?_
      have hanswer : load id = load' id := by simpa [AgreeOn, h, h'] using hagree
      rw [hanswer]
  keyword word := by
    unfold askKeyword
    rcases absent_or_present hlack.keyword with ⟨h, h'⟩ | ⟨resolve, resolve', h, h'⟩
    · rw [h, h']
      exact .refl _
    · rw [h, h']
      refine .ask fun hagree => ?_
      have hanswer : resolve word = resolve' word := by simpa [AgreeOn, h, h'] using hagree
      rw [hanswer]

end Resolvers

/-! ## Builds -/

namespace Provider

variable {p : Provider} {lookup : Text → Option LinkTarget}
  {source source' : Option (Text → Recorded Failure (Option Text))}
  {keyword keyword' : Option (Text → Option Text)}

/-- Two settings of a build give the same answer to a question: the meanings of symbols, the sources
and the keywords of the first one, and those of the second one. -/
def AgreeOn (lookup lookup' : Text → Option LinkTarget)
    (source source' : Option (Text → Recorded Failure (Option Text)))
    (keyword keyword' : Option (Text → Option Text)) : Question → Prop
  | .reference id => lookup id = lookup' id
  | .source id => source.map (· id) = source'.map (· id)
  | .keyword word => keyword.map (· word) = keyword'.map (· word)

/-- Where settings of a build agree, so do their resolvers. -/
theorem AgreeOn.resolvers {q : Question}
    (h : AgreeOn p.lookup lookup source source' keyword keyword' q) :
    Resolvers.AgreeOn ⟨some p.resolve, source, keyword⟩
      ⟨some (resolve { p with lookup }), source', keyword'⟩ q := by
  cases q with
  | reference id =>
    have hlookup : p.lookup id = lookup id := h
    simp only [Resolvers.AgreeOn, Option.map_some, resolve, hlookup]
  | source id => exact h
  | keyword word => exact h

/-- Two builds are the same when their settings lack the same resolvers and agree on every question
asked in the first one. -/
theorem build_eq_of_agreeOn (hsource : source.isSome = source'.isSome)
    (hkeyword : keyword.isSome = keyword'.isSome)
    (hagree : ∀ q ∈ (p.build source keyword).trace.questions,
      AgreeOn p.lookup lookup source source' keyword keyword' q) :
    build { p with lookup } source' keyword' = p.build source keyword := by
  have hlack : Resolvers.LackSame ⟨some p.resolve, source, keyword⟩
      ⟨some (resolve { p with lookup }), source', keyword'⟩ := ⟨rfl, hsource, hkeyword⟩
  exact build_related (Recorded.follows_isComposed _) hlack.related
    fun q hq => (hagree q hq).resolvers

end Provider

/-- Building, formatting and collecting links depend on their settings through the questions that
they ask. When two settings lack the same resolvers and agree on every question asked under the
first one, then under the second one the same questions are asked in the same order, the same
notices are left behind, and the result or the failure is the same. -/
theorem run_eq_of_agreeOn :
    (∀ (p : Provider) (lookup : Text → Option LinkTarget)
      (source source' : Option (Text → Recorded Failure (Option Text)))
      (keyword keyword' : Option (Text → Option Text)),
      source.isSome = source'.isSome → keyword.isSome = keyword'.isSome →
      (∀ q ∈ (p.build source keyword).trace.questions,
        Provider.AgreeOn p.lookup lookup source source' keyword keyword' q) →
      Provider.build { p with lookup } source' keyword' = p.build source keyword) ∧
    ∀ (r r' : Resolvers Failure) (raw : Text), r.LackSame r' →
      ((∀ q ∈ (formatMarkup r raw).trace.questions, r.AgreeOn r' q) →
        formatMarkup r' raw = formatMarkup r raw) ∧
      ((∀ q ∈ (seeAlsosOfMarkup r raw).trace.questions, r.AgreeOn r' q) →
        seeAlsosOfMarkup r' raw = seeAlsosOfMarkup r raw) := by
  constructor
  · intro p lookup source source' keyword keyword' hsource hkeyword hagree
    exact Provider.build_eq_of_agreeOn hsource hkeyword hagree
  · intro r r' raw hlack
    have hcomposed := Recorded.follows_isComposed (ε := Failure) (r.AgreeOn r')
    exact ⟨formatMarkup_related hcomposed hlack.related raw,
      seeAlsosOfMarkup_related hcomposed hlack.related raw⟩

/-- A provider that has only a summary, and binds no symbol. -/
def summaryOnly (raw : Text) : Provider :=
  { summary := some raw, remarks := none, returns := none, examples := [], parameterNames := [],
    typeParameterNames := [], exceptionTypes := [], full := raw, parameterText := fun _ => none,
    typeParameterText := fun _ => none, exceptionTexts := fun _ => [], lookup := fun _ => none }

/-- One symbol, one source and one keyword are asked for; a second setting that answers anything
else differently gives the same comment, the same rendering and the same links. -/
theorem run_eq_of_agreeOn_elsewhere :
    let raw := "<see cref='a'/><code source='s'/>".toList ++
      "<seealso cref='a'><see langword='w'/></seealso>".toList
    let p := summaryOnly raw
    let lookup : Text → Option LinkTarget := fun id =>
      if id = "a".toList then none else some ⟨id, none⟩
    let source : Option (Text → Recorded Failure (Option Text)) := some fun _ => .pure none
    let source' : Option (Text → Recorded Failure (Option Text)) := some fun id =>
      if id = "s".toList then .pure none else .fail .nulInPath
    let keyword : Option (Text → Option Text) := some fun _ => none
    let keyword' : Option (Text → Option Text) := some fun word =>
      if word = "w".toList then none else some word
    let r : Resolvers Failure := ⟨some p.resolve, source, keyword⟩
    let r' : Resolvers Failure := ⟨some (Provider.resolve { p with lookup }), source', keyword'⟩
    let rendered : List Question :=
      [.reference "a".toList, .source "s".toList, .reference "a".toList, .keyword "w".toList]
    let linked : List Question := [.keyword "w".toList]
    (p.build source keyword).trace.questions = rendered ++ linked ∧
      Provider.build { p with lookup } source' keyword' = p.build source keyword ∧
      formatMarkup r' raw = formatMarkup r raw ∧
      seeAlsosOfMarkup r' raw = seeAlsosOfMarkup r raw := by
  intro raw p lookup source source' keyword keyword' r r' rendered linked
  have hbuild : (p.build source keyword).trace.questions = rendered ++ linked := by decide +kernel
  have hformat : (formatMarkup r raw).trace.questions = rendered := by decide +kernel
  have hlinks : (seeAlsosOfMarkup r raw).trace.questions = linked := by decide +kernel
  have hlack : r.LackSame r' := ⟨rfl, rfl, rfl⟩
  refine ⟨hbuild, run_eq_of_agreeOn.1 p lookup source source' keyword keyword' rfl rfl ?_,
    (run_eq_of_agreeOn.2 r r' raw hlack).1 ?_, (run_eq_of_agreeOn.2 r r' raw hlack).2 ?_⟩
  · rw [hbuild]
    simp [Provider.AgreeOn, p, summaryOnly, lookup, source, source', keyword, keyword', rendered,
      linked]
  · rw [hformat]
    simp [Resolvers.AgreeOn, Provider.resolve, r, r', p, summaryOnly, lookup, source, source',
      keyword, keyword', rendered]
  · rw [hlinks]
    simp [Resolvers.AgreeOn, r, r', keyword, keyword', linked]

end DocMarkup
