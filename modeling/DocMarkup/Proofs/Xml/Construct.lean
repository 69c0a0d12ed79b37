import DocMarkup.Proofs.Xml.Reference
import DocMarkup.Xml.Token

/-!
# Constructs

One construct of content ends where its closing mark says so, whatever stands behind it. Only a
carriage return and a closing square bracket look at what comes next.

Main definitions:

- {lit}`Xml.Seam`: where a carriage return or a square bracket may stand in front of a text.

Main results:

- Theorems {lit}`Xml.startTag?_local` and {lit}`Xml.endTag?_local`: tags are read without a look at
  what is behind them.
- Theorem {lit}`Xml.step?_local`: a construct is read again in front of every other text that the
  seam allows.
-/

namespace DocMarkup
namespace Xml

open Text (Stops takeWhile_run dropWhile_run stops_dropWhile of_mem_takeWhile)

variable {rule : CharRule}

/-! ## Comments, instructions and sections -/

/-- A mark in front of what is taken stands there whatever is behind what is taken. -/
theorem exists_of_append_eq (mark : Text) {taken rest rest' more : Text}
    (hlength : mark.length ≤ taken.length) (h : taken ++ rest' = mark ++ more) :
    ∃ more', taken ++ rest = mark ++ more' := by
  have hmark : mark <+: taken :=
    List.prefix_of_prefix_length_le ⟨more, h.symm⟩ (List.prefix_append taken rest') hlength
  rcases hmark with ⟨behind, rfl⟩
  exact ⟨behind ++ rest, List.append_assoc ..⟩

/-- The end of a comment is found from its own characters. -/
theorem afterComment?_local {s rest : Text} (h : afterComment? s = some rest) :
    ∃ taken, s = taken ++ rest ∧ "-->".toList <:+ taken ∧
      ∀ rest', afterComment? (taken ++ rest') = some rest' := by
  induction s using afterComment?.induct with
  | case1 after =>
    obtain rfl : after = rest := by simpa [afterComment?] using h
    exact ⟨"-->".toList, rfl, List.suffix_refl _, fun rest' => rfl⟩
  | case2 s hclose =>
    rw [afterComment?] at h
    · simp at h
    · exact hclose
  | case3 c s hdashes hc ih =>
    rw [afterComment?, if_pos hc] at h
    · rcases ih h with ⟨taken, rfl, hmark, hlocal⟩
      refine ⟨c :: taken, rfl, hmark.trans (List.suffix_cons c taken), ?_⟩
      intro rest'
      rw [List.cons_append, afterComment?, if_pos hc, hlocal rest']
      -- the mark that closes the comment lies in what is taken, so the dashes are not in front
      rintro more rfl hmore
      have hlength : ['-'].length ≤ taken.length := Nat.le_trans (by decide) hmark.length_le
      rcases exists_of_append_eq ['-'] hlength hmore with ⟨more', hmore'⟩
      exact hdashes more' rfl hmore'
    · exact hdashes
  | case4 c s hdashes hc =>
    rw [afterComment?, if_neg hc] at h
    · simp at h
    · exact hdashes
  | case5 => simp [afterComment?] at h

/-- The end of an instruction is found from its own characters. -/
theorem afterInstructionBody?_local {s rest : Text} (h : afterInstructionBody? s = some rest) :
    ∃ taken, s = taken ++ rest ∧ "?>".toList <:+ taken ∧
      ∀ rest', afterInstructionBody? (taken ++ rest') = some rest' := by
  induction s using afterInstructionBody?.induct with
  | case1 after =>
    obtain rfl : after = rest := by simpa [afterInstructionBody?] using h
    exact ⟨"?>".toList, rfl, List.suffix_refl _, fun rest' => rfl⟩
  | case2 c s hmark hc ih =>
    rw [afterInstructionBody?, if_pos hc] at h
    · rcases ih h with ⟨taken, rfl, hend, hlocal⟩
      refine ⟨c :: taken, rfl, hend.trans (List.suffix_cons c taken), ?_⟩
      intro rest'
      rw [List.cons_append, afterInstructionBody?, if_pos hc, hlocal rest']
      rintro more rfl hmore
      have hlength : ['>'].length ≤ taken.length := Nat.le_trans (by decide) hend.length_le
      rcases exists_of_append_eq ['>'] hlength hmore with ⟨more', hmore'⟩
      exact hmark more' rfl hmore'
    · exact hmark
  | case3 c s hmark hc =>
    rw [afterInstructionBody?, if_neg hc] at h
    · simp at h
    · exact hmark
  | case4 => simp [afterInstructionBody?] at h

/-- An instruction is read without a look at what is behind it. -/
theorem afterInstruction?_local (hrule : rule.IsLawful) {s rest : Text}
    (h : afterInstruction? rule s = some rest) :
    ∃ taken, s = taken ++ rest ∧ "?>".toList <:+ taken ∧
      ∀ rest', afterInstruction? rule (taken ++ rest') = some rest' := by
  simp only [afterInstruction?, Option.bind_eq_bind, Option.bind_eq_some_iff, Prod.exists] at h
  rcases h with ⟨target, behind, htarget, h⟩
  rcases plainName?_eq_some htarget with ⟨rfl, hname, hstop⟩
  split at h
  · simp at h
  · next hxml =>
    split at h
    · next after =>
      obtain rfl : after = rest := by simpa using h
      refine ⟨target ++ "?>".toList, by simp, List.suffix_append _ _, ?_⟩
      intro rest'
      have htarget' : plainName? rule (target ++ '?' :: '>' :: rest') =
          some (target, '?' :: '>' :: rest') :=
        plainName?_append hname (hrule.stops (by decide) _)
      rw [List.append_assoc]
      show afterInstruction? rule (target ++ '?' :: '>' :: rest') = some rest'
      simp only [afterInstruction?, htarget', Option.bind_eq_bind, Option.bind_some, if_neg hxml]
    · next c after hmark =>
      split at h
      · next hspace =>
        rcases afterInstructionBody?_local h with ⟨taken, rfl, hend, hlocal⟩
        refine ⟨target ++ c :: taken, by simp,
          (hend.trans (List.suffix_cons c taken)).trans (List.suffix_append _ _), ?_⟩
        intro rest'
        have htarget' : plainName? rule (target ++ c :: (taken ++ rest')) =
            some (target, c :: (taken ++ rest')) :=
          plainName?_append hname (by simpa using hstop)
        have hc : c ≠ '?' := by
          rintro rfl
          simp [isSpace] at hspace
        rw [List.append_assoc, List.cons_append]
        simp only [afterInstruction?, htarget', Option.bind_eq_bind, Option.bind_some, if_neg hxml]
        split
        · next hq => exact absurd (List.cons.inj hq).1 hc
        · next hq =>
          rcases List.cons.inj hq with ⟨rfl, rfl⟩
          rw [if_pos hspace, hlocal rest']
        · next hq => simp at hq
      · simp at h
    · simp at h

/-- Both characters of a line end are ones that a document may hold. -/
theorem isRun_lineBreak : IsRun ['\r', '\n'] :=
  List.forall_mem_cons.2 ⟨by decide, List.forall_mem_singleton.2 (by decide)⟩

/-- A run joins the text of a section when what it is read from does not depend on what is behind
the section. -/
theorem sectionBody?_push (front : Text) {s first run rest : Text} (hfirst : IsRun first)
    (h : (fun x : Text × Text => (first ++ x.1, x.2)) <$> sectionBody? rule s = some (run, rest))
    (ih : ∀ {run'}, sectionBody? rule s = some (run', rest) →
      IsRun run' ∧ ∃ taken, s = taken ++ rest ∧ "]]>".toList <:+ taken ∧
        ∀ rest', sectionBody? rule (taken ++ rest') = some (run', rest'))
    (hfront : ∀ taken rest', s = taken ++ rest → "]]>".toList <:+ taken →
      sectionBody? rule (front ++ (taken ++ rest')) =
        (fun x : Text × Text => (first ++ x.1, x.2)) <$> sectionBody? rule (taken ++ rest')) :
    IsRun run ∧ ∃ taken, front ++ s = taken ++ rest ∧ "]]>".toList <:+ taken ∧
      ∀ rest', sectionBody? rule (taken ++ rest') = some (run, rest') := by
  simp only [Option.map_eq_map, Option.map_eq_some_iff, Prod.exists] at h
  rcases h with ⟨run', rest'', hbody, hpair⟩
  obtain ⟨rfl, rfl⟩ : first ++ run' = run ∧ rest'' = rest := by simpa using hpair
  rcases ih hbody with ⟨hrun, taken, rfl, hend, hlocal⟩
  refine ⟨List.forall_mem_append.2 ⟨hfirst, hrun⟩, front ++ taken, (List.append_assoc ..).symm,
    hend.trans (List.suffix_append _ _), ?_⟩
  intro rest'
  rw [List.append_assoc, hfront taken rest' rfl hend, hlocal rest']
  rfl

/-- The end of a section is found from its own characters, and its text is made of characters that a
document may hold. -/
theorem sectionBody?_local {s run rest : Text} (h : sectionBody? rule s = some (run, rest)) :
    IsRun run ∧ ∃ taken, s = taken ++ rest ∧ "]]>".toList <:+ taken ∧
      ∀ rest', sectionBody? rule (taken ++ rest') = some (run, rest') := by
  have hreturn : IsRun ['\r'] := List.forall_mem_singleton.2 (by decide)
  induction s using sectionBody?.induct generalizing run with
  | case1 after =>
    obtain ⟨rfl, rfl⟩ : [] = run ∧ after = rest := by simpa [sectionBody?] using h
    exact ⟨by simp [IsRun], "]]>".toList, rfl, List.suffix_refl _, fun rest' => rfl⟩
  | case2 s ih => exact sectionBody?_push ['\r', '\n'] isRun_lineBreak.lineEnd h ih fun _ _ _ _ => rfl
  | case3 s hclose hbreak ih =>
    rw [sectionBody?, if_pos rfl] at h
    · refine sectionBody?_push ['\r'] hreturn.lineEnd h ih ?_
      intro taken rest' hs hend
      rw [List.singleton_append, sectionBody?, if_pos rfl]
      · rintro _ hr
        simp at hr
      · rintro more _ hmore
        have hlength : ['\n'].length ≤ taken.length := Nat.le_trans (by decide) hend.length_le
        rcases exists_of_append_eq ['\n'] hlength hmore with ⟨more', hmore'⟩
        exact hbreak more' rfl (hs.trans hmore')
    · exact hclose
    · exact hbreak
  | case4 c s hclose hbreak hcr hc ih =>
    rw [sectionBody?, if_neg hcr, if_pos hc] at h
    · refine sectionBody?_push [c] (List.forall_mem_singleton.2 hc) h ih ?_
      intro taken rest' hs hend
      rw [List.singleton_append, sectionBody?, if_neg hcr, if_pos hc]
      · rfl
      · -- the closing mark takes three characters, all of them in what is taken
        rintro more rfl hmore
        have hlength : [']', '>'].length ≤ taken.length :=
          Nat.le_trans (by decide) hend.length_le
        rcases exists_of_append_eq [']', '>'] hlength hmore with ⟨more', hmore'⟩
        exact hclose more' rfl (hs.trans hmore')
      · rintro _ rfl _
        exact hcr rfl
    · exact hclose
    · exact hbreak
  | case5 c s hclose hbreak hcr hc =>
    rw [sectionBody?, if_neg hcr, if_neg hc] at h
    · simp at h
    · exact hclose
    · exact hbreak
  | case6 => simp [sectionBody?] at h

/-! ## Tags -/

/-- Where the attributes of a tag may begin or end. -/
def IsTagRest (s : Text) : Prop := ∃ c rest, s = c :: rest ∧ (isSpace c = true ∨ c = '>' ∨ c = '/')

/-- A space is a mark, and no colon. -/
theorem mark_of_isSpace {c : Char} (hspace : isSpace c = true) : c ∈ tagMarks ∧ c ≠ ':' := by
  simp only [isSpace, Bool.or_eq_true, beq_iff_eq] at hspace
  rcases hspace with ((rfl | rfl) | rfl) | rfl <;> decide

/-- Where the attributes of a tag may begin or end, there is a mark. -/
theorem IsTagRest.isNameEnd {s : Text} (hs : IsTagRest s) : IsNameEnd s := by
  rcases hs with ⟨c, rest, rfl, hspace | rfl | rfl⟩
  · exact ⟨c, rest, rfl, mark_of_isSpace hspace⟩
  · exact ⟨'>', rest, rfl, by decide⟩
  · exact ⟨'/', rest, rfl, by decide⟩

/-- Where the attributes of a tag may begin, a name ends. -/
theorem IsTagRest.endsName (hrule : rule.IsLawful) {s : Text}
    (hs : IsTagRest s) : EndsName rule s := by
  rcases hs.isNameEnd with ⟨c, rest, rfl, hc, hcolon⟩
  exact endsName_cons hrule hc hcolon rest

/-- No space begins a text without marks but colons. -/
theorem IsRaw.stops_isSpace {raw : Text} (hraw : IsRaw raw) (rest : Text) :
    Stops isSpace (raw ++ rest) := by
  rcases hraw.exists_cons with ⟨c, more, rfl, hmark⟩
  rw [List.cons_append, Text.stops_cons]
  cases hspace : isSpace c with
  | false => rfl
  | true => exact absurd rfl (hmark c (mark_of_isSpace hspace).1 (mark_of_isSpace hspace).2)

/-- The spellings of some attributes, each behind space, up to the mark that closes the tag. -/
inductive Spelled (rule : CharRule) : Text → List (Text × List Piece) → Prop
  | nil {spaces : Text} (hspaces : ∀ c ∈ spaces, isSpace c = true) : Spelled rule spaces []
  | cons {spaces name before after quoted rest : Text} {value : List Piece}
      {others : List (Text × List Piece)}
      (hspaces : ∀ c ∈ spaces, isSpace c = true) (hne : spaces ≠ [])
      (hname : IsQualified rule name) (hbefore : ∀ c ∈ before, isSpace c = true)
      (hafter : ∀ c ∈ after, isSpace c = true)
      (hvalue : ∀ t, quotedValue? rule (quoted ++ t) = some (value, t))
      (hrest : Spelled rule rest others) :
      Spelled rule (spaces ++ (name ++ (before ++ '=' :: (after ++ (quoted ++ rest)))))
        ((name, value) :: others)

/-- The mark that closes a tag. -/
def IsTagEnd (rest : Text) : Prop := rest.head? = some '>' ∨ rest.head? = some '/'

/-- The mark that closes a tag is no space. -/
theorem IsTagEnd.stops {rest : Text} (hrest : IsTagEnd rest) : Stops isSpace rest := by
  intro c hc
  rcases hrest with hr | hr
  · obtain rfl : '>' = c := by simpa [hr] using hc
    rfl
  · obtain rfl : '/' = c := by simpa [hr] using hc
    rfl

/-- Every attribute takes a character. -/
theorem Spelled.length_le {s : Text} {attributes : List (Text × List Piece)}
    (hs : Spelled rule s attributes) : attributes.length ≤ s.length := by
  induction hs with
  | nil => simp
  | cons hspaces hne hname hbefore hafter hvalue hrest ih =>
    simp only [List.length_cons, List.length_append]
    omega

/-- Attributes and the mark behind them stand where a tag goes on. -/
theorem Spelled.isTagRest {s rest : Text}
    {attributes : List (Text × List Piece)} (hs : Spelled rule s attributes)
    (hrest : IsTagEnd rest) : IsTagRest (s ++ rest) := by
  cases hs with
  | nil hspaces =>
    cases s with
    | cons c s => exact ⟨c, s ++ rest, rfl, .inl (hspaces c (by simp))⟩
    | nil =>
      cases rest with
      | nil => simp [IsTagEnd] at hrest
      | cons c rest => exact ⟨c, rest, rfl, .inr (by simpa [IsTagEnd] using hrest)⟩
  | @cons spaces name before after quoted rest' _ _ hspaces hne =>
    cases spaces with
    | nil => exact absurd rfl hne
    | cons c spaces => exact ⟨c, _, rfl, .inl (hspaces c (by simp))⟩

/-- No tag begins among attributes. -/
theorem Spelled.lt_not_mem (hrule : rule.IsLawful) {s : Text}
    {attributes : List (Text × List Piece)} (hs : Spelled rule s attributes) : '<' ∉ s := by
  have hspace : ∀ {spaces : Text}, (∀ c ∈ spaces, isSpace c = true) → '<' ∉ spaces :=
    fun h hmem => absurd (h _ hmem) (by decide)
  induction hs with
  | nil hspaces => exact hspace hspaces
  | cons hspaces hne hname hbefore hafter hvalue hrest ih =>
    rcases quotedValue?_local hrule (hvalue []) with ⟨_, taken, htaken, hlt, _⟩
    obtain rfl := List.append_cancel_right htaken
    have hraw := hname.mark_not_mem hrule (by decide : '<' ∈ tagMarks) (by decide)
    simp [hspace hspaces, hspace hbefore, hspace hafter, hraw, hlt, ih]

/-- An attribute with a raw name and a value of sound pieces. -/
def IsSoundAttribute (rule : CharRule) (entry : Text × List Piece) : Prop :=
  IsQualified rule entry.1 ∧ ∀ p ∈ entry.2, p.IsSound

/-- Spelled attributes are sound. -/
theorem Spelled.isSound (hrule : rule.IsLawful) {s : Text}
    {attributes : List (Text × List Piece)} (hs : Spelled rule s attributes) :
    ∀ a ∈ attributes, IsSoundAttribute rule a := by
  induction hs with
  | nil => simp
  | cons hspaces hne hname hbefore hafter hvalue hrest ih =>
    exact List.forall_mem_cons.2 ⟨⟨hname, (quotedValue?_local hrule (hvalue [])).1⟩, ih⟩

/-- Spelled attributes are read back in front of the mark that closes the tag. -/
theorem Spelled.attributes? (hrule : rule.IsLawful) {s rest : Text}
    {attributes : List (Text × List Piece)} (hs : Spelled rule s attributes)
    (hrest : IsTagEnd rest) {fuel : Nat} (hfuel : attributes.length < fuel) :
    Xml.attributes? rule fuel (s ++ rest) = some (attributes, rest) := by
  induction hs generalizing fuel with
  | nil hspaces =>
    obtain ⟨fuel, rfl⟩ : ∃ k, fuel = k + 1 := ⟨fuel - 1, by simp at hfuel; omega⟩
    rw [Xml.attributes?, dropWhile_run hspaces hrest.stops]
    cases rest with
    | nil => simp [IsTagEnd] at hrest
    | cons c rest =>
      obtain rfl | rfl : c = '>' ∨ c = '/' := by simpa [IsTagEnd] using hrest
      · rfl
      · rfl
  | @cons spaces name before after quoted more value others hspaces hne hname hbefore hafter
      hvalue hmore ih =>
    obtain ⟨fuel, rfl⟩ : ∃ k, fuel = k + 1 := ⟨fuel - 1, by simp at hfuel; omega⟩
    have hothers : Xml.attributes? rule fuel (more ++ rest) = some (others, rest) :=
      ih (by simpa using hfuel)
    simp only [List.append_assoc, List.cons_append]
    generalize htail : before ++ '=' :: (after ++ (quoted ++ (more ++ rest))) = tail
    have hend : EndsName rule tail := by
      rw [← htail]
      cases before with
      | nil => exact endsName_cons hrule (by decide) (by decide) _
      | cons c before => exact IsTagRest.endsName hrule ⟨c, _, rfl, .inl (hbefore c (by simp))⟩
    have hlength : ¬(spaces ++ (name ++ tail)).length = (name ++ tail).length := by
      have := List.length_pos_iff.2 hne
      simp only [List.length_append]
      omega
    rcases hname.exists_cons with ⟨c, name', hcons, hc⟩
    have hmark : c ∉ tagMarks := fun hmem => by
      have := hrule.more_of_start c hc
      rw [hrule.not_more c hmem] at this
      contradiction
    rw [Xml.attributes?, dropWhile_run hspaces ((hname.isRaw hrule).stops_isSpace tail)]
    split
    · next r hgt =>
      rw [hcons, List.cons_append] at hgt
      exact absurd ((List.cons.inj hgt).1 ▸ by decide) hmark
    · next r hslash =>
      rw [hcons, List.cons_append] at hslash
      exact absurd ((List.cons.inj hslash).1 ▸ by decide) hmark
    · rw [if_neg hlength, qualifiedName?_append hrule hname hend, ← htail]
      simp only [Option.bind_eq_bind, Option.bind_some,
        dropWhile_run hbefore (show Stops isSpace ('=' :: _) by simp [isSpace]),
        dropWhile_run hafter (stops_quotedValue? (hvalue (more ++ rest))), hvalue, hothers]

/-- What is read as attributes is a spelling of them in front of the mark that closes the tag. -/
theorem attributes?_eq_some (hrule : rule.IsLawful) {fuel : Nat} {s rest : Text}
    {attributes : List (Text × List Piece)}
    (h : attributes? rule fuel s = some (attributes, rest)) :
    IsTagEnd rest ∧ ∃ taken, s = taken ++ rest ∧ Spelled rule taken attributes := by
  induction fuel generalizing s attributes with
  | zero => simp [attributes?] at h
  | succ fuel ih =>
    have hspaces : ∀ c ∈ s.takeWhile isSpace, isSpace c = true := fun c hc => of_mem_takeWhile hc
    have hs := List.takeWhile_append_dropWhile (p := isSpace) (l := s)
    rw [attributes?] at h
    split at h
    · next r hdrop =>
      obtain ⟨rfl, rfl⟩ : [] = attributes ∧ '>' :: r = rest := by simpa using h
      exact ⟨.inl rfl, _, hdrop ▸ hs.symm, .nil hspaces⟩
    · next r hdrop =>
      obtain ⟨rfl, rfl⟩ : [] = attributes ∧ '/' :: r = rest := by simpa using h
      exact ⟨.inr rfl, _, hdrop ▸ hs.symm, .nil hspaces⟩
    · split at h
      · simp at h
      · next hlength =>
        simp only [Option.bind_eq_bind, Option.bind_eq_some_iff, Prod.exists] at h
        rcases h with ⟨name, afterName, hname, h⟩
        rcases qualifiedName?_eq_some hname with ⟨hdrop, hqualified⟩
        have hbefore := List.takeWhile_append_dropWhile (p := isSpace) (l := afterName)
        split at h
        · next afterEquals hequals =>
          have hafter := List.takeWhile_append_dropWhile (p := isSpace) (l := afterEquals)
          simp only [Option.bind_eq_some_iff, Prod.exists] at h
          rcases h with ⟨value, afterValue, hvalue, others, rest₁, hothers, hpair⟩
          obtain ⟨rfl, rfl⟩ : (name, value) :: others = attributes ∧ rest₁ = rest := by
            simpa using hpair
          rcases quotedValue?_local hrule hvalue with ⟨_, quoted, hquoted, _, hlocal⟩
          rcases ih hothers with ⟨hend, taken, rfl, hspelled⟩
          have hne : s.takeWhile isSpace ≠ [] := by
            intro hnil
            rw [hnil, List.nil_append] at hs
            exact hlength (by rw [hs])
          refine ⟨hend, _, ?_, .cons hspaces hne hqualified
            (fun c hc => of_mem_takeWhile (s := afterName) hc)
            (fun c hc => of_mem_takeWhile (s := afterEquals) hc) hlocal hspelled⟩
          have hafterName : afterName = afterName.takeWhile isSpace ++ '=' :: afterEquals :=
            hequals ▸ hbefore.symm
          have hafterEquals : afterEquals =
              afterEquals.takeWhile isSpace ++ (quoted ++ (taken ++ rest₁)) :=
            hquoted ▸ hafter.symm
          calc s = s.takeWhile isSpace ++ (name ++ afterName) := hdrop ▸ hs.symm
            _ = s.takeWhile isSpace ++ (name ++ (afterName.takeWhile isSpace ++
                  '=' :: afterEquals)) :=
              congrArg (fun t => s.takeWhile isSpace ++ (name ++ t)) hafterName
            _ = s.takeWhile isSpace ++ (name ++ (afterName.takeWhile isSpace ++
                  '=' :: (afterEquals.takeWhile isSpace ++ (quoted ++ (taken ++ rest₁))))) :=
              congrArg (fun t => s.takeWhile isSpace ++
                (name ++ (afterName.takeWhile isSpace ++ '=' :: t))) hafterEquals
            _ = _ := by simp
        · simp at h

/-- What one construct contributes, made of sound parts. -/
def Token.IsSound (rule : CharRule) : Token → Prop
  | .piece p => p.IsSound
  | .literal run => IsRun run
  | .startTag name attributes =>
    IsQualified rule name ∧ ∀ a ∈ attributes, IsSoundAttribute rule a
  | .endTag name => IsQualified rule name

/-- The name and the attributes of a tag are read back in front of the mark that closes it. -/
theorem Spelled.read (hrule : rule.IsLawful) {name s rest : Text}
    {attributes : List (Text × List Piece)} (hname : IsQualified rule name)
    (hs : Spelled rule s attributes) (hrest : IsTagEnd rest) :
    qualifiedName? rule (name ++ (s ++ rest)) = some (name, s ++ rest) ∧
      Xml.attributes? rule (name ++ (s ++ rest)).length (s ++ rest) = some (attributes, rest) := by
  refine ⟨qualifiedName?_append hrule hname ((hs.isTagRest hrest).endsName hrule),
    hs.attributes? hrule hrest ?_⟩
  rcases hname.exists_cons with ⟨c, more, rfl, _⟩
  have hlength := hs.length_le
  simp only [List.length_append, List.length_cons]
  omega

/-- A start tag is read back. -/
theorem Spelled.startTag? (hrule : rule.IsLawful) {name s : Text}
    {attributes : List (Text × List Piece)} (hname : IsQualified rule name)
    (hs : Spelled rule s attributes) (rest : Text) :
    Xml.startTag? rule (name ++ (s ++ '>' :: rest)) =
      some ([.startTag name attributes], rest) := by
  have hend : IsTagEnd ('>' :: rest) := .inl rfl
  rcases hs.read hrule hname hend with ⟨hname', hattributes⟩
  simp only [Xml.startTag?, hname', hattributes, Option.bind_eq_bind, Option.bind_some]

/-- The tag of an empty element is read back. -/
theorem Spelled.emptyTag? (hrule : rule.IsLawful) {name s : Text}
    {attributes : List (Text × List Piece)} (hname : IsQualified rule name)
    (hs : Spelled rule s attributes) (rest : Text) :
    Xml.startTag? rule (name ++ (s ++ '/' :: '>' :: rest)) =
      some ([.startTag name attributes, .endTag name], rest) := by
  have hend : IsTagEnd ('/' :: '>' :: rest) := .inr rfl
  rcases hs.read hrule hname hend with ⟨hname', hattributes⟩
  simp only [Xml.startTag?, hname', hattributes, Option.bind_eq_bind, Option.bind_some]

/-- An end tag is read back. -/
theorem endTag?_append (hrule : rule.IsLawful) {name spaces : Text}
    (hname : IsQualified rule name) (hspaces : ∀ c ∈ spaces, isSpace c = true) (rest : Text) :
    endTag? rule (name ++ (spaces ++ '>' :: rest)) = some ([.endTag name], rest) := by
  have hspelled : Spelled rule spaces [] := .nil hspaces
  have hend : EndsName rule (spaces ++ '>' :: rest) :=
    (hspelled.isTagRest (.inl rfl)).endsName hrule
  simp only [endTag?, qualifiedName?_append hrule hname hend, Option.bind_eq_bind,
    Option.bind_some, dropWhile_run hspaces (show Stops isSpace ('>' :: rest) by simp [isSpace])]

/-- A start tag is read without a look at what is behind it. -/
theorem startTag?_local (hrule : rule.IsLawful) {s rest : Text}
    {tokens : List Token} (h : startTag? rule s = some (tokens, rest)) :
    (∀ t ∈ tokens, t.IsSound rule) ∧ ∃ taken, taken ≠ [] ∧ s = taken ++ rest ∧ '<' ∉ taken ∧
      ∀ rest', startTag? rule (taken ++ rest') = some (tokens, rest') := by
  simp only [startTag?, Option.bind_eq_bind, Option.bind_eq_some_iff, Prod.exists] at h
  rcases h with ⟨name, afterName, hname, attributes, afterAttributes, hattributes, h⟩
  rcases qualifiedName?_eq_some hname with ⟨rfl, hqualified⟩
  rcases attributes?_eq_some hrule hattributes with ⟨-, taken, rfl, hspelled⟩
  have hlt : '<' ∉ name := hqualified.mark_not_mem hrule (by decide) (by decide)
  have hltTaken : '<' ∉ taken := hspelled.lt_not_mem hrule
  have hsound : Token.IsSound rule (.startTag name attributes) :=
    ⟨hqualified, hspelled.isSound hrule⟩
  have hendSound : Token.IsSound rule (.endTag name) := hqualified
  split at h
  · next after =>
    obtain ⟨rfl, rfl⟩ : [.startTag name attributes] = tokens ∧ after = rest := by simpa using h
    refine ⟨by simp [hsound], name ++ (taken ++ ">".toList), by simp, by simp,
      by simp [hlt, hltTaken], ?_⟩
    intro rest'
    rw [List.append_assoc, List.append_assoc]
    exact hspelled.startTag? hrule hqualified rest'
  · next after =>
    obtain ⟨rfl, rfl⟩ : [.startTag name attributes, .endTag name] = tokens ∧ after = rest := by
      simpa using h
    refine ⟨?_, name ++ (taken ++ "/>".toList), by simp, by simp, by simp [hlt, hltTaken],
      fun rest' => ?_⟩
    · simp [hsound, hendSound]
    · rw [List.append_assoc, List.append_assoc]
      exact hspelled.emptyTag? hrule hqualified rest'
  · simp at h

/-- An end tag is read without a look at what is behind it. -/
theorem endTag?_local (hrule : rule.IsLawful) {s rest : Text}
    {tokens : List Token} (h : endTag? rule s = some (tokens, rest)) :
    (∀ t ∈ tokens, t.IsSound rule) ∧ ∃ taken, taken ≠ [] ∧ s = taken ++ rest ∧ '<' ∉ taken ∧
      ∀ rest', endTag? rule (taken ++ rest') = some (tokens, rest') := by
  simp only [endTag?, Option.bind_eq_bind, Option.bind_eq_some_iff, Prod.exists] at h
  rcases h with ⟨name, afterName, hname, h⟩
  rcases qualifiedName?_eq_some hname with ⟨rfl, hqualified⟩
  have hs := List.takeWhile_append_dropWhile (p := isSpace) (l := afterName)
  split at h
  · next after hdrop =>
    obtain ⟨rfl, rfl⟩ : [.endTag name] = tokens ∧ after = rest := by simpa using h
    have hspaces : ∀ c ∈ afterName.takeWhile isSpace, isSpace c = true :=
      fun c hc => of_mem_takeWhile hc
    have hlt : '<' ∉ name := hqualified.mark_not_mem hrule (by decide) (by decide)
    have hltSpaces : '<' ∉ afterName.takeWhile isSpace :=
      fun hmem => absurd (hspaces _ hmem) (by decide)
    have hendSound : Token.IsSound rule (.endTag name) := hqualified
    refine ⟨by simp [hendSound], name ++ (afterName.takeWhile isSpace ++ ">".toList), by simp, ?_,
      by simp [hlt, hltSpaces], fun rest' => ?_⟩
    · conv => lhs; rw [← hs, hdrop]
      simp
    · rw [List.append_assoc, List.append_assoc]
      exact endTag?_append hrule hqualified hspaces rest'
  · simp at h

/-! ## Constructs of content -/

/-- What may stand behind a construct: no line feed behind a carriage return, and not the rest of a
closing mark behind a square bracket. -/
def Seam (taken rest : Text) : Prop :=
  (taken = ['\r'] → rest.head? ≠ some '\n') ∧ (taken = [']'] → ¬[']', '>'] <+: rest)

/-- A construct in which no tag begins, or which is closed by a mark of its own kind. -/
def IsWhole (taken : Text) : Prop :=
  '<' ∉ taken.tail ∨ ∃ mark ∈ ["-->", "?>", "]]>"], mark.toList <:+ taken

/-- A construct that begins with a mark ends where its own characters say so. -/
theorem seam_of_mark {c : Char} {taken : Text} (hc : c = '<' ∨ c = '&') (rest : Text) :
    Seam (c :: taken) rest := by
  rcases hc with rfl | rfl <;> simp [Seam]

/-- A construct that its own mark closes is whole. -/
theorem isWhole_of_mark {mark : String} (hmark : mark ∈ ["-->", "?>", "]]>"]) {taken : Text}
    (hend : mark.toList <:+ taken) (opening : Text) : IsWhole ('<' :: (opening ++ taken)) :=
  .inr ⟨mark, hmark, (hend.trans (List.suffix_append _ _)).trans (List.suffix_cons _ _)⟩

/-- A comment or a section is read without a look at what is behind it. -/
theorem step?_bang_local {s rest : Text} {tokens : List Token}
    (h : step? rule ('<' :: '!' :: s) = some (tokens, rest)) :
    (∀ t ∈ tokens, t.IsSound rule) ∧ ∃ taken, s = taken ++ rest ∧
      IsWhole ('<' :: '!' :: taken) ∧
      ∀ rest', step? rule ('<' :: '!' :: (taken ++ rest')) = some (tokens, rest') := by
  simp only [step?] at h
  split at h
  · next s =>
    simp only [Option.map_eq_map, Option.map_eq_some_iff] at h
    rcases h with ⟨after, hafter, hpair⟩
    obtain ⟨rfl, rfl⟩ : [] = tokens ∧ after = rest := by simpa using hpair
    rcases afterComment?_local hafter with ⟨taken, rfl, hend, hlocal⟩
    refine ⟨by simp, "--".toList ++ taken, by simp,
      isWhole_of_mark (by simp) hend "!--".toList, ?_⟩
    intro rest'
    show (fun after => ([], after)) <$> afterComment? (taken ++ rest') = _
    rw [hlocal rest']
    rfl
  · next s =>
    simp only [Option.map_eq_map, Option.map_eq_some_iff, Prod.exists] at h
    rcases h with ⟨run, after, hbody, hpair⟩
    obtain ⟨rfl, rfl⟩ : [.literal run] = tokens ∧ after = rest := by simpa using hpair
    rcases sectionBody?_local hbody with ⟨hrun, taken, rfl, hend, hlocal⟩
    refine ⟨List.forall_mem_singleton.2 hrun, "[CDATA[".toList ++ taken, by simp,
      isWhole_of_mark (by simp) hend "![CDATA[".toList, ?_⟩
    intro rest'
    show (fun x : Text × Text => ([Token.literal x.1], x.2)) <$>
      sectionBody? rule (taken ++ rest') = _
    rw [hlocal rest']
    rfl
  · simp at h

/-- An instruction is read without a look at what is behind it. -/
theorem step?_instruction_local (hrule : rule.IsLawful) {s rest : Text}
    {tokens : List Token} (h : step? rule ('<' :: '?' :: s) = some (tokens, rest)) :
    (∀ t ∈ tokens, t.IsSound rule) ∧ ∃ taken, s = taken ++ rest ∧
      IsWhole ('<' :: '?' :: taken) ∧
      ∀ rest', step? rule ('<' :: '?' :: (taken ++ rest')) = some (tokens, rest') := by
  have hstep : (fun after => ([], after)) <$> afterInstruction? rule s = some (tokens, rest) := h
  simp only [Option.map_eq_map, Option.map_eq_some_iff] at hstep
  rcases hstep with ⟨after, hafter, hpair⟩
  obtain ⟨rfl, rfl⟩ : [] = tokens ∧ after = rest := by simpa using hpair
  rcases afterInstruction?_local hrule hafter with ⟨taken, rfl, hend, hlocal⟩
  refine ⟨by simp, taken, rfl, isWhole_of_mark (by simp) hend "?".toList, ?_⟩
  intro rest'
  show (fun after => ([], after)) <$> afterInstruction? rule (taken ++ rest') = _
  rw [hlocal rest']
  rfl

/-- Behind a bracket and no other mark stands a start tag. -/
theorem step?_eq_startTag? {c : Char} (hslash : c ≠ '/') (hbang : c ≠ '!')
    (hquestion : c ≠ '?') (s : Text) :
    step? rule ('<' :: c :: s) = startTag? rule (c :: s) := by
  rw [step?]
  · rintro more hmore
    exact hslash (List.cons.inj hmore).1
  · rintro more hmore
    exact hbang (List.cons.inj hmore).1
  · rintro more hmore
    exact hquestion (List.cons.inj hmore).1

/-- Markup is read without a look at what is behind it. -/
theorem step?_markup_local (hrule : rule.IsLawful) {s rest : Text}
    {tokens : List Token} (h : step? rule ('<' :: s) = some (tokens, rest)) :
    (∀ t ∈ tokens, t.IsSound rule) ∧ ∃ taken, s = taken ++ rest ∧ IsWhole ('<' :: taken) ∧
      ∀ rest', step? rule ('<' :: (taken ++ rest')) = some (tokens, rest') := by
  cases s with
  | nil => cases h
  | cons c s =>
    by_cases hslash : c = '/'
    · subst hslash
      rcases endTag?_local hrule h with ⟨hsound, taken, _, rfl, hlt, hlocal⟩
      exact ⟨hsound, '/' :: taken, rfl, .inl (by simpa using hlt), hlocal⟩
    · by_cases hbang : c = '!'
      · subst hbang
        rcases step?_bang_local h with ⟨hsound, taken, rfl, hwhole, hlocal⟩
        exact ⟨hsound, '!' :: taken, rfl, hwhole, hlocal⟩
      · by_cases hquestion : c = '?'
        · subst hquestion
          rcases step?_instruction_local hrule h with ⟨hsound, taken, rfl, hwhole, hlocal⟩
          exact ⟨hsound, '?' :: taken, rfl, hwhole, hlocal⟩
        · rw [step?_eq_startTag? hslash hbang hquestion] at h
          rcases startTag?_local hrule h with ⟨hsound, taken, hne, heq, hlt, hlocal⟩
          refine ⟨hsound, taken, heq, .inl hlt, ?_⟩
          intro rest'
          cases taken with
          | nil => exact absurd rfl hne
          | cons d taken =>
            obtain rfl : c = d := (List.cons.inj heq).1
            rw [List.cons_append, step?_eq_startTag? hslash hbang hquestion]
            exact hlocal rest'

/-- A reference ends at its semicolon. -/
theorem step?_reference {s rest : Text} {tokens : List Token} :
    step? rule ('&' :: s) = some (tokens, rest) ↔
      ∃ body piece, s = body ++ ';' :: rest ∧ ';' ∉ body ∧ reference? rule body = some piece ∧
        tokens = [.piece piece] := by
  rw [step?]
  constructor
  · intro h
    split at h
    · simp at h
    · next c after hdrop =>
      simp only [Option.bind_eq_bind, Option.bind_eq_some_iff] at h
      rcases h with ⟨piece, hpiece, hpair⟩
      obtain ⟨rfl, rfl⟩ : [.piece piece] = tokens ∧ after = rest := by simpa using hpair
      obtain rfl : c = ';' := by
        have hc := stops_dropWhile (· != ';') s
        rw [hdrop] at hc
        simpa using hc
      refine ⟨s.takeWhile (· != ';'), piece, ?_, fun hmem => ?_, hpiece, rfl⟩
      · rw [← hdrop, List.takeWhile_append_dropWhile]
      · simpa using of_mem_takeWhile (p := (· != ';')) hmem
  · rintro ⟨body, piece, rfl, hbody, hpiece, rfl⟩
    have hrun : ∀ c ∈ body, (c != ';') = true := fun c hc => bne_iff_ne.2 fun h => hbody (h ▸ hc)
    have hstop : Stops (· != ';') (';' :: rest) := by simp
    rw [dropWhile_run hrun hstop, takeWhile_run hrun hstop]
    simp [hpiece]

/-- A character that is no mark is read alone, except in front of what its seam excludes. -/
theorem step?_char {c : Char} (hlt : c ≠ '<') (hamp : c ≠ '&') {rest : Text}
    (hseam : Seam [c] rest) :
    step? rule (c :: rest) =
      if isChar c then some (charTokens (if c = '\r' then rule.lineEnd [c] else [c]), rest)
      else none := by
  rw [step?]
  · by_cases hc : c = '\r'
    · subst hc
      rfl
    · rw [if_neg hc, if_neg hc]
      rfl
  · rintro _ rfl
    exact fun _ => hlt rfl
  · rintro _ rfl
    exact fun _ => hlt rfl
  · rintro _ rfl
    exact fun _ => hlt rfl
  · exact hlt
  · exact hamp
  · rintro more rfl rfl
    exact hseam.2 rfl ⟨more, rfl⟩
  · rintro more rfl rfl
    exact hseam.1 rfl rfl

/-- A carriage return takes a line feed behind it. -/
theorem step?_lineBreak (rule : CharRule) (s : Text) :
    step? rule ('\r' :: '\n' :: s) = some (charTokens (rule.lineEnd ['\r', '\n']), s) :=
  rfl

/-- The closing mark of a section does not stand in text. -/
theorem step?_closingMark (rule : CharRule) (s : Text) :
    step? rule (']' :: ']' :: '>' :: s) = none :=
  rfl

/-- The characters of a run are sound tokens. -/
theorem IsRun.isSound {run : Text} (hrun : IsRun run) : ∀ t ∈ charTokens run, t.IsSound rule :=
  List.forall_mem_map.2 hrun

/-- A character that is no mark is read again in front of every text that its seam allows. -/
theorem step?_char_local {c : Char} (hlt : c ≠ '<') (hamp : c ≠ '&')
    {s rest : Text} {tokens : List Token} (h : step? rule (c :: s) = some (tokens, rest)) :
    (∀ t ∈ tokens, t.IsSound rule) ∧ ∃ taken, taken ≠ [] ∧ c :: s = taken ++ rest ∧
      IsWhole taken ∧ Seam taken rest ∧
      ∀ rest', Seam taken rest' → step? rule (taken ++ rest') = some (tokens, rest') := by
  by_cases hseam : Seam [c] s
  · rw [step?_char hlt hamp hseam] at h
    by_cases hchar : isChar c = true
    · rw [if_pos hchar] at h
      obtain ⟨rfl, rfl⟩ := Prod.mk.inj (Option.some.inj h)
      have hrun : IsRun [c] := List.forall_mem_singleton.2 hchar
      have hread : IsRun (if c = '\r' then rule.lineEnd [c] else [c]) := by
        split
        · exact hrun.lineEnd
        · exact hrun
      refine ⟨hread.isSound, [c], by simp, rfl, .inl (by simp), hseam, ?_⟩
      intro rest' hseam'
      rw [List.singleton_append, step?_char hlt hamp hseam', if_pos hchar]
    · simp [hchar] at h
  · -- either both characters of a line break are taken, or the text is refused
    rcases Classical.not_and_iff_not_or_not.1 hseam with hbreak | hclose
    · rcases Classical.not_imp.1 hbreak with ⟨hc, hhead⟩
      obtain rfl : c = '\r' := by simpa using hc
      cases s with
      | nil => simp at hhead
      | cons d s =>
        obtain rfl : d = '\n' := by simpa using hhead
        rw [step?_lineBreak] at h
        obtain ⟨rfl, rfl⟩ := Prod.mk.inj (Option.some.inj h)
        exact ⟨isRun_lineBreak.lineEnd.isSound, "\r\n".toList, by simp, rfl, .inl (by simp),
          by simp [Seam], fun rest' _ => step?_lineBreak rule rest'⟩
    · rcases Classical.not_imp.1 hclose with ⟨hc, hprefix⟩
      obtain rfl : c = ']' := by simpa using hc
      rcases Classical.not_not.1 hprefix with ⟨more, rfl⟩
      have hnone : step? rule (']' :: ']' :: '>' :: more) = none := step?_closingMark rule more
      exact absurd (hnone.symm.trans h) (by simp)

/-- What is read as one construct is sound and whole, and it is read again in front of every text
that the seam allows. -/
theorem step?_local (hrule : rule.IsLawful) {s rest : Text}
    {tokens : List Token} (h : step? rule s = some (tokens, rest)) :
    (∀ t ∈ tokens, t.IsSound rule) ∧ ∃ taken, taken ≠ [] ∧ s = taken ++ rest ∧ IsWhole taken ∧
      Seam taken rest ∧
      ∀ rest', Seam taken rest' → step? rule (taken ++ rest') = some (tokens, rest') := by
  cases s with
  | nil => cases h
  | cons c s =>
    by_cases hlt : c = '<'
    · subst hlt
      rcases step?_markup_local hrule h with ⟨hsound, taken, rfl, hwhole, hlocal⟩
      exact ⟨hsound, '<' :: taken, by simp, rfl, hwhole, seam_of_mark (.inl rfl) rest,
        fun rest' _ => hlocal rest'⟩
    · by_cases hamp : c = '&'
      · subst hamp
        rcases step?_reference.1 h with ⟨body, piece, rfl, hbody, hpiece, rfl⟩
        rcases reference?_eq_some hrule hpiece with ⟨hltBody, hsound⟩
        refine ⟨List.forall_mem_singleton.2 hsound, '&' :: (body ++ [';']), by simp, by simp,
          .inl (by simpa using hltBody), seam_of_mark (.inr rfl) rest, ?_⟩
        intro rest' _
        exact step?_reference.2 ⟨body, piece, by simp, hbody, hpiece, rfl⟩
      · exact step?_char_local hlt hamp h

/-- Every construct takes a character. -/
theorem step?_length_lt (hrule : rule.IsLawful) {s rest : Text}
    {tokens : List Token} (h : step? rule s = some (tokens, rest)) : rest.length < s.length := by
  rcases step?_local hrule h with ⟨_, taken, hne, rfl, _⟩
  have := List.length_pos_iff.2 hne
  simp only [List.length_append]
  omega

end Xml
end DocMarkup
