import DocMarkup.Proofs.Comment.Build
import DocMarkup.Proofs.Render.Adjacent

/-!
# Joined texts

The texts of one exception are joined by line feeds and rendered as one markup. Each line is still
rendered on its own: lines of content are the content of each line, side by side with the line feeds
between them, and fragments side by side are rendered one after the other.

Main results:

- Theorem {lit}`formatMarkup_line`: two lines of markup are rendered one after the other.
- Theorem {lit}`Provider.get?_exceptions`: what a comment says of an exception.
- Theorem {lit}`formatMarkup_joinLines`: joined texts are rendered text by text.
-/

namespace DocMarkup

open Xml (readContent?)

variable {s t : Text} {raws : List Text}

/-! ## Lines -/

/-- Joined texts are empty when there is no text, or a single empty one. -/
theorem Text.joinLines_eq_nil_iff : joinLines raws = [] ↔ raws = [] ∨ raws = [[]] := by
  match raws with
  | [] => simp [joinLines]
  | [raw] => simp [joinLines]
  | raw :: next :: others => simp [joinLines]

/-- A line in front of joined lines. -/
theorem Text.joinLines_cons_cons (line next : Text) (lines : List Text) :
    joinLines (line :: next :: lines) = line ++ '\n' :: joinLines (next :: lines) := by
  simp [joinLines]

/-- Two lines of accepted markup are accepted, and rendered one after the other with the line feed
between them, unless the first one ends in a carriage return. -/
theorem formatMarkup_line (hs : (Fragment.parse? s).isSome) (ht : (Fragment.parse? t).isSome)
    (hend : s.getLast? ≠ some '\r') :
    (Fragment.parse? (s ++ '\n' :: t)).isSome ∧
      ∀ r, formatMarkup r (s ++ '\n' :: t) =
        formatMarkup r s >>= fun a => (fun b => a ++ '\n' :: b) <$> formatMarkup r t := by
  rcases Option.isSome_iff_exists.1 hs with ⟨_, hparses⟩
  rcases Option.isSome_iff_exists.1 ht with ⟨_, hparset⟩
  obtain ⟨f, hf, rfl⟩ := Option.map_eq_some_iff.1 hparses
  obtain ⟨g, hg, rfl⟩ := Option.map_eq_some_iff.1 hparset
  have hparse : Fragment.parse? (s ++ '\n' :: t) =
      some ((Fragment.ofContent f).meet ((Fragment.ofContent g).consChar '\n')) := by
    rw [Fragment.parse?, Xml.readContent?_line_of_ne hf hg hend, Option.map_some,
      Fragment.ofContent_meet, Fragment.ofContent_consChar]
  refine ⟨by rw [hparse]; rfl, fun r => ?_⟩
  have hfeed : Html.escapeTextChar '\n' = ['\n'] := by decide
  rw [formatMarkup_eq hparse, formatMarkup_eq hparses, formatMarkup_eq hparset,
    formatFragment_meet, formatFragment_consChar, hfeed]
  simp only [Functor.map_map, List.singleton_append]

/-- Lines of accepted markup are accepted, and rendered line by line. -/
theorem formatMarkup_lines (hparse : ∀ raw ∈ raws, (Fragment.parse? raw).isSome)
    (hend : ∀ raw ∈ raws, raw.getLast? ≠ some '\r') :
    (Fragment.parse? (Text.joinLines raws)).isSome ∧
      ∀ r, formatMarkup r (Text.joinLines raws) =
        Text.joinLines <$> Recorded.each (formatMarkup r) raws := by
  induction raws with
  | nil =>
    refine ⟨rfl, fun r => ?_⟩
    show formatMarkup r [] = Recorded.pure []
    rw [formatMarkup_eq (f := .nil) rfl, formatFragment_nil]
    rfl
  | cons raw raws ih =>
    rcases List.forall_mem_cons.1 hparse with ⟨hfirst, hothers⟩
    rcases List.forall_mem_cons.1 hend with ⟨hfirstEnd, hothersEnd⟩
    cases raws with
    | nil =>
      have hjoin : ∀ line : Text, Text.joinLines [line] = line := fun _ => List.intercalate_singleton
      refine ⟨by rwa [hjoin], fun r => ?_⟩
      have hempty : Recorded.each (formatMarkup r) [] = pure [] := rfl
      simp [hjoin, Recorded.each_cons, hempty]
    | cons next raws =>
      rcases ih hothers hothersEnd with ⟨hjoined, hlines⟩
      rcases formatMarkup_line hfirst hjoined hfirstEnd with ⟨hparsed, hline⟩
      rw [Text.joinLines_cons_cons]
      refine ⟨hparsed, fun r => ?_⟩
      -- the lines behind the first one are at least one, so a line feed stands in front of them
      rw [hline, hlines, Recorded.each_cons _ raw]
      simp only [Recorded.each_cons, map_bind, map_pure, bind_assoc, pure_bind,
        Text.joinLines_cons_cons]

/-! ## Exceptions -/

/-- Named fields that are rendered hold each name once, with the rendering of its text. -/
theorem exists_of_formatNamed {r : Resolvers Failure} {names : List Text}
    {text : Text → Option Text} {fields : List (Text × Option Text)}
    (h : (formatNamed r names text).outcome = .ok fields) :
    ∃ value : Text → Option Text,
      (∀ name ∈ names, (formatField r (text name)).outcome = .ok (value name)) ∧
      fields = (Assoc.distinct names).map fun name => (name, value name) := by
  let value name := (formatField r (text name)).outcome.toOption.join
  have hvalue : ∀ name ∈ names, (formatField r (text name)).outcome = .ok (value name) := by
    intro name hname
    rcases Recorded.outcome_map_eq_ok h with ⟨entries, hentries, _⟩
    rcases Recorded.each_eq_ok hentries name hname with ⟨entry, hentry⟩
    rcases Recorded.outcome_map_eq_ok hentry with ⟨field, hfield, _⟩
    simp only [value, hfield, Except.toOption, Option.join_some]
  exact ⟨value, hvalue, Except.ok.inj (h.symm.trans (outcome_formatNamed hvalue))⟩

/-- A named field has the rendering of its text. -/
theorem get?_of_formatNamed {r : Resolvers Failure} {names : List Text} {name : Text}
    {text : Text → Option Text} {fields : List (Text × Option Text)}
    (h : (formatNamed r names text).outcome = .ok fields) (hname : name ∈ names) :
    ∃ field, (formatField r (text name)).outcome = .ok field ∧
      Assoc.get? name fields = some field := by
  rcases exists_of_formatNamed h with ⟨value, hvalue, rfl⟩
  exact ⟨value name, hvalue name hname, Assoc.get?_map value (Assoc.mem_distinct.2 hname)⟩

namespace Provider

variable {p : Provider} {source : Option (Text → Recorded Failure (Option Text))}
  {keyword : Option (Text → Option Text)} {c : Comment}

/-- The fields of a comment that is built, each with the computation that it comes from. -/
structure Builds (p : Provider) (source : Option (Text → Recorded Failure (Option Text)))
    (keyword : Option (Text → Option Text)) (c : Comment) : Prop where
  exceptions : (formatNamed (p.resolvers source keyword) (Assoc.distinct p.exceptionTypes)
    fun type => some (Text.joinLines (p.exceptionTexts type))).outcome = .ok c.exceptions
  summary : (formatField (p.resolvers source keyword) p.summary).outcome = .ok c.summary
  parameters : (formatNamed (p.resolvers source keyword) p.parameterNames
    p.parameterText).outcome = .ok c.parameters
  typeParameters : (formatNamed (p.resolvers source keyword) p.typeParameterNames
    p.typeParameterText).outcome = .ok c.typeParameters

/-- A comment is built of fields that are rendered. -/
theorem builds_of_outcome (h : (p.build source keyword).outcome = .ok c) :
    p.Builds source keyword c := by
  unfold build at h
  rcases Recorded.outcome_bind_eq_ok h with ⟨exceptions, hexceptions, h⟩
  rcases Recorded.outcome_bind_eq_ok h with ⟨_, _, h⟩
  rcases Recorded.outcome_bind_eq_ok h with ⟨summary, hsummary, h⟩
  rcases Recorded.outcome_bind_eq_ok h with ⟨_, _, h⟩
  rcases Recorded.outcome_bind_eq_ok h with ⟨_, _, h⟩
  rcases Recorded.outcome_bind_eq_ok h with ⟨parameters, hparameters, h⟩
  rcases Recorded.outcome_bind_eq_ok h with ⟨typeParameters, htypeParameters, h⟩
  rcases Recorded.outcome_bind_eq_ok h with ⟨_, _, h⟩
  cases h
  exact ⟨hexceptions, hsummary, hparameters, htypeParameters⟩

/-- What a comment says of an exception: nothing when its joined texts are empty, and their rendering
otherwise. -/
theorem get?_exceptions (h : (p.build source keyword).outcome = .ok c) {type : Text}
    (htype : type ∈ p.exceptionTypes) :
    let joined := Text.joinLines (p.exceptionTexts type)
    if joined = [] then Assoc.get? type c.exceptions = some none
    else ∃ html, (formatMarkup (p.resolvers source keyword) joined).outcome = .ok html ∧
      Assoc.get? type c.exceptions = some (some html) := by
  intro joined
  rcases get?_of_formatNamed (builds_of_outcome h).exceptions (Assoc.mem_distinct.2 htype) with
    ⟨field, hfield, hget⟩
  change (formatField (p.resolvers source keyword) (some joined)).outcome = .ok field at hfield
  generalize joined = raw at hfield
  cases raw with
  | nil =>
    cases hfield
    exact hget
  | cons first rest =>
    rcases Recorded.outcome_map_eq_ok hfield with ⟨html, hhtml, rfl⟩
    exact ⟨html, hhtml, hget⟩

end Provider

/-! ## Joined texts -/

/-- Texts that are accepted and do not end in a carriage return are accepted when they are joined,
and rendered text by text: the joined text gives the renderings joined, with the questions and
notices of each text in turn, whatever the resolvers answer. So a comment describes an exception by
the joined renderings of its texts, and not at all when there is no text or a single empty one. -/
theorem formatMarkup_joinLines (raws : List Text)
    (hparse : ∀ raw ∈ raws, (Fragment.parse? raw).isSome)
    (hend : ∀ raw ∈ raws, raw.getLast? ≠ some '\r') :
    (Fragment.parse? (Text.joinLines raws)).isSome ∧
    (∀ r, formatMarkup r (Text.joinLines raws) =
      Text.joinLines <$> Recorded.each (formatMarkup r) raws) ∧
    (∀ r : Resolvers Failure, r.NeverFails → ∃ html : Text → Text,
      (∀ raw ∈ raws, (formatMarkup r raw).outcome = .ok (html raw)) ∧
      formatMarkup r (Text.joinLines raws) =
        ⟨⟨raws.flatMap fun raw => (formatMarkup r raw).trace.questions,
          raws.flatMap fun raw => (formatMarkup r raw).trace.notices⟩,
          .ok (Text.joinLines (raws.map html))⟩) ∧
    (∀ (p : Provider) (source : Option (Text → Recorded Failure (Option Text)))
      (keyword : Option (Text → Option Text)) (c : Comment) (type : Text),
      (p.build source keyword).outcome = .ok c → type ∈ p.exceptionTypes →
      p.exceptionTexts type = raws →
      if raws = [] ∨ raws = [[]] then Assoc.get? type c.exceptions = some none
      else ∃ htmls, (Recorded.each (formatMarkup (p.resolvers source keyword)) raws).outcome =
          .ok htmls ∧
        Assoc.get? type c.exceptions = some (some (Text.joinLines htmls))) ∧
    (Text.joinLines raws = [] ↔ raws = [] ∨ raws = [[]]) := by
  rcases formatMarkup_lines hparse hend with ⟨hjoined, hlines⟩
  refine ⟨hjoined, hlines, ?_, ?_, Text.joinLines_eq_nil_iff⟩
  · intro r hr
    rcases Classical.axiomOfChoice (formatFragment_succeeds hr) with ⟨spelled, hspelled⟩
    have hhtml : ∀ raw ∈ raws, (formatMarkup r raw).outcome =
        .ok (((Fragment.parse? raw).map spelled).getD []) := by
      intro raw hraw
      rcases Option.isSome_iff_exists.1 (hparse raw hraw) with ⟨f, hf⟩
      rw [formatMarkup_eq hf, hspelled, hf]
      rfl
    refine ⟨_, hhtml, ?_⟩
    rw [hlines, Recorded.each_eq hhtml, Recorded.map_ok]
  · intro p source keyword c type hc htype htexts
    have hget := Provider.get?_exceptions hc htype
    simp only [htexts, Text.joinLines_eq_nil_iff] at hget
    split
    · next hempty => simpa only [hempty, if_true] using hget
    · next hempty =>
      simp only [hempty, if_false] at hget
      rcases hget with ⟨html, hhtml, hget⟩
      rw [hlines] at hhtml
      rcases Recorded.outcome_map_eq_ok hhtml with ⟨htmls, hhtmls, rfl⟩
      exact ⟨htmls, hhtmls, hget⟩

/-- The start of a closing mark at the end of one text, its rest at the start of the next one, and an
empty text behind them. -/
theorem formatMarkup_joinLines_seams :
    let raws := ["<c>a</c> ]]".toList, "<![CDATA[>]]>&amp;".toList, []]
    let p : Provider :=
      { summary := none, remarks := none, returns := none, examples := [], parameterNames := []
        typeParameterNames := [], exceptionTypes := ["T:E".toList], full := []
        parameterText := fun _ => none, typeParameterText := fun _ => none
        exceptionTexts := fun _ => raws, lookup := fun _ => none }
    (∀ raw ∈ raws, (Fragment.parse? raw).isSome) ∧ (∀ raw ∈ raws, raw.getLast? ≠ some '\r') ∧
      ∃ c, (p.build none none).outcome = .ok c ∧
        Assoc.get? "T:E".toList c.exceptions =
          some (some "<c>a</c> ]]\n&gt;&amp;\n".toList) := by
  intro raws p
  have hparse : ∀ raw ∈ raws, (Fragment.parse? raw).isSome := by decide +kernel
  have hend : ∀ raw ∈ raws, raw.getLast? ≠ some '\r' := by decide
  have hrendered : (Recorded.each (formatMarkup (p.resolvers none none)) raws).outcome.toOption =
      some ["<c>a</c> ]]".toList, "&gt;&amp;".toList, []] := by decide +kernel
  have hbuild : (p.build none none).outcome.toOption.isSome := by decide +kernel
  rcases Option.isSome_iff_exists.1 hbuild with ⟨c, hc⟩
  rcases formatMarkup_joinLines raws hparse hend with ⟨_, _, _, hexceptions, _⟩
  have hget := hexceptions p none none c "T:E".toList (eq_ok_of_toOption hc)
    (List.mem_singleton.2 rfl) rfl
  rw [if_neg (by decide)] at hget
  rcases hget with ⟨htmls, hhtmls, hget⟩
  obtain rfl := Except.ok.inj (hhtmls.symm.trans (eq_ok_of_toOption hrendered))
  exact ⟨hparse, hend, c, eq_ok_of_toOption hc, hget⟩

end DocMarkup
