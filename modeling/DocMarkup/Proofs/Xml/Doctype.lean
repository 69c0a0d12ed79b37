import DocMarkup.Proofs.Assoc
import DocMarkup.Proofs.Xml.Expansion
import DocMarkup.Xml.Doctype

/-!
# Sound declarations

Whatever a document type declares, the default value of an attribute holds only characters of a
document, and a declared name with a colon has something in front of it.

Main definitions:

- {lit}`Xml.IsCuttable`: a raw name that is cut to a text without marks.

Main results:

- Theorem {lit}`Xml.Doctype.read?_isSound`: the declarations of a document type are sound.
-/

namespace DocMarkup
namespace Xml

variable {rule : CharRule}

/-! ## Names -/

/-- A raw name that is cut to a text without marks, with a prefix that is not empty if it has
one. -/
def IsCuttable (raw : Text) : Prop := IsUnmarked (cutName raw).2 ∧ (cutName raw).1 ≠ some []

/-- Raw names are cut to texts without marks. -/
theorem cutsTo_cuttable : CutsTo IsCuttable IsUnmarked := fun _ hraw => hraw

/-- A qualified name can be cut. -/
theorem IsQualified.isCuttable (hrule : rule.IsLawful) {raw : Text} (hraw : IsQualified rule raw) :
    IsCuttable raw := by
  rcases cutsTo_plain hrule raw hraw with ⟨hlocal, hmark⟩
  exact ⟨isUnmarked_of_isPlainName hrule hlocal, hmark⟩

/-- The characters of a name hold no mark beside the colon. -/
theorem isUnmarked_of_more (hrule : rule.IsLawful) {s : Text}
    (hs : ∀ c ∈ s, (rule.more c || c == ':') = true) (hne : s ≠ []) (hcolon : ':' ∉ s) :
    IsUnmarked s := by
  refine ⟨hne, ?_⟩
  intro c hmem hc
  rcases Bool.or_eq_true .. ▸ hs c hmem with hmore | heq
  · rw [hrule.not_more c hc] at hmore
    contradiction
  · exact hcolon (by simpa using (beq_iff_eq.1 heq) ▸ hmem)

/-- A colon begins no name. -/
theorem CharRule.IsLawful.ne_colon_of_start (hrule : rule.IsLawful) {c : Char}
    (hstart : rule.start c = true) : c ≠ ':' := by
  rintro rfl
  have hmore := hrule.more_of_start ':' hstart
  rw [hrule.not_more ':' (by decide)] at hmore
  contradiction

/-- A run of name characters and colons that an element or an attribute could have can be cut. -/
theorem isCuttable_of_nameForm (hrule : rule.IsLawful) {run : Text}
    (hrun : ∀ c ∈ run, (rule.more c || c == ':') = true) (hform : nameForm rule run ≠ .token) :
    IsCuttable run := by
  cases run with
  | nil => simp [nameForm] at hform
  | cons c run =>
    have hstart : rule.start c = true := by
      by_cases hstart : rule.start c = true
      · exact hstart
      · exact absurd (by simp [nameForm, hstart]) hform
    unfold nameForm at hform
    unfold IsCuttable cutName
    rw [if_neg (by simp [hstart])] at hform
    cases hdrop : (c :: run).dropWhile (· != ':') with
    | nil =>
      have hnone : ':' ∉ c :: run := by
        intro hmem
        simpa using Text.of_dropWhile_eq_nil hdrop hmem
      exact ⟨isUnmarked_of_more hrule hrun (by simp) hnone, by simp⟩
    | cons d localPart =>
      -- the form is that of a name with one colon, and something behind it
      have hsuffix : d :: localPart <:+ c :: run := hdrop ▸ List.dropWhile_suffix _
      rw [hdrop] at hform
      cases localPart with
      | nil => simp at hform
      | cons e localPart =>
        have hnone : ':' ∉ e :: localPart := by
          intro hmem
          exact hform (if_pos (by simpa using hmem))
        have hlocal : ∀ x ∈ e :: localPart, (rule.more x || x == ':') = true := by
          intro x hx
          exact hrun x (hsuffix.subset (List.mem_cons_of_mem d hx))
        exact ⟨isUnmarked_of_more hrule hlocal (by simp) hnone,
          by simp [hrule.ne_colon_of_start hstart]⟩

/-- A token of a declaration whose name can be cut. -/
def DeclarationToken.IsSound : DeclarationToken → Prop
  | .name form s _ => form ≠ .token → IsCuttable s
  | _ => True

/-- What is given is sound when it was. -/
theorem isSound_of_eq {token token' : DeclarationToken} {rest rest' : Text}
    (h : some (token, rest) = some (token', rest')) (htoken : token.IsSound) : token'.IsSound := by
  rw [← (Prod.mk.inj (Option.some.inj h)).1]
  exact htoken

/-- A name that is read is sound. -/
theorem nameToken?_isSound (hrule : rule.IsLawful) {s rest : Text} {token : DeclarationToken}
    (h : nameToken? rule s = some (token, rest)) : token.IsSound := by
  have hname : ∀ repeated, (DeclarationToken.name
      (nameForm rule (s.takeWhile fun c => rule.more c || c == ':'))
      (s.takeWhile fun c => rule.more c || c == ':') repeated).IsSound :=
    fun _ hform => isCuttable_of_nameForm hrule (fun _ hc => Text.of_mem_takeWhile hc) hform
  simp only [nameToken?] at h
  split at h
  · simp at h
  · split at h
    · simp at h
    · split at h
      · exact isSound_of_eq h (hname false)
      · split at h
        · exact isSound_of_eq h (hname true)
        · simp at h

/-- A literal that is read is sound. -/
theorem literalToken?_isSound {quote : Char} {s rest : Text} {token : DeclarationToken}
    (h : literalToken? quote s = some (token, rest)) : token.IsSound := by
  simp only [literalToken?] at h
  split at h
  · exact isSound_of_eq h trivial
  · simp at h

/-- A token that is read is sound. -/
theorem declarationToken?_isSound (hrule : rule.IsLawful) {s rest : Text} {token : DeclarationToken}
    (h : declarationToken? rule s = some (token, rest)) : token.IsSound := by
  unfold declarationToken? at h
  split at h
  · simp at h
  · exact literalToken?_isSound h
  · exact literalToken?_isSound h
  · simp only [poundToken?, Option.bind_eq_bind, Option.bind_eq_some_iff, Prod.exists] at h
    rcases h with ⟨name, after, _, h⟩
    split at h
    · exact isSound_of_eq h trivial
    · simp at h
  · split at h
    · exact isSound_of_eq h trivial
    · simp at h
  · exact isSound_of_eq h trivial
  · unfold closeGroupToken? at h
    split at h
    · simp at h
    · split at h
      · exact isSound_of_eq h trivial
      · split at h
        · exact isSound_of_eq h trivial
        · simp at h
  · exact isSound_of_eq h trivial
  · exact isSound_of_eq h trivial
  · exact isSound_of_eq h trivial
  · exact isSound_of_eq h trivial
  · exact nameToken?_isSound hrule h

/-- The tokens that are read are sound. -/
theorem declarationTokens?_isSound (hrule : rule.IsLawful) {s rest : Text}
    {tokens : List DeclarationToken} {last : DeclarationToken}
    (h : declarationTokens? rule s = some (tokens, last, rest)) : ∀ t ∈ tokens, t.IsSound := by
  have hwithin : ∀ {fuel : Nat} {s : Text} {tokens : List DeclarationToken},
      declarationTokensWithin? rule fuel s = some (tokens, last, rest) →
        ∀ t ∈ tokens, t.IsSound := by
    intro fuel
    induction fuel with
    | zero =>
      intro s tokens h
      simp [declarationTokensWithin?] at h
    | succ fuel ih =>
      intro s tokens h
      simp only [declarationTokensWithin?, Option.bind_eq_bind, Option.bind_eq_some_iff,
        Prod.exists] at h
      rcases h with ⟨token, after, htoken, h⟩
      split at h
      · rcases Prod.mk.inj (Option.some.inj h) with ⟨rfl, -⟩
        simp
      · simp only [Option.bind_eq_some_iff, Prod.exists, Option.some.injEq, Prod.mk.injEq] at h
        rcases h with ⟨others, _, _, hothers, rfl, rfl, rfl⟩
        exact List.forall_mem_cons.2 ⟨declarationToken?_isSound hrule htoken, ih hothers⟩
  unfold declarationTokens? at h
  split at h
  · exact hwithin h
  · simp at h

/-! ## Attributes -/

variable {tokens rest : List DeclarationToken}

/-- The tokens behind a run of choices are a suffix. -/
theorem afterChoices?_suffix {allowed : NameForm → Bool}
    (h : afterChoices? allowed tokens = some rest) : rest <:+ tokens := by
  fun_induction afterChoices? allowed tokens with
  | case1 form name after hallowed =>
    obtain rfl := Option.some.inj h
    exact ⟨[.name form name false, .closeGroup none], rfl⟩
  | case2 => simp at h
  | case3 form name after hallowed ih =>
    exact (ih h).trans ⟨[.name form name false, .choice], rfl⟩
  | case4 => simp at h
  | case5 => simp at h

/-- The tokens behind a type are a suffix. -/
theorem attributeType?_suffix {type : Option Text}
    (h : attributeType? tokens = some (type, rest)) : rest <:+ tokens := by
  unfold attributeType? at h
  split at h
  · rcases Option.map_eq_some_iff.1 h with ⟨after, hafter, heq⟩
    rw [← (Prod.mk.inj heq).2]
    exact (afterChoices?_suffix hafter).trans (List.suffix_cons _ _)
  · split at h
    · rw [← (Prod.mk.inj (Option.some.inj h)).2]
      exact List.suffix_cons _ _
    · split at h
      · split at h
        · rcases Option.map_eq_some_iff.1 h with ⟨after, hafter, heq⟩
          rw [← (Prod.mk.inj heq).2]
          exact (afterChoices?_suffix hafter).trans
            ((List.suffix_cons _ _).trans (List.suffix_cons _ _))
        · simp at h
      · simp at h
  · simp at h

/-- The tokens behind a default value are a suffix. -/
theorem attributeDefault?_suffix {value : Option Text}
    (h : attributeDefault? tokens = some (value, rest)) : rest <:+ tokens := by
  unfold attributeDefault? at h
  split at h
  · rw [← (Prod.mk.inj (Option.some.inj h)).2]
    exact List.suffix_cons _ _
  · split at h
    · rw [← (Prod.mk.inj (Option.some.inj h)).2]
      exact List.suffix_cons _ _
    · split at h
      · split at h
        · rw [← (Prod.mk.inj (Option.some.inj h)).2]
          exact (List.suffix_cons _ _).trans (List.suffix_cons _ _)
        · simp at h
      · simp at h
  · simp at h

/-- The names of declared attributes can be cut. -/
theorem attributeDeclarations?_isCuttable {fuel : Nat} {attributes : List AttributeDeclaration}
    (htokens : ∀ t ∈ tokens, t.IsSound)
    (h : attributeDeclarations? fuel tokens = some attributes) :
    ∀ a ∈ attributes, IsCuttable a.name := by
  fun_induction attributeDeclarations? fuel tokens generalizing attributes with
  | case1 =>
    obtain rfl := Option.some.inj h
    simp
  | case2 => simp at h
  | case3 fuel form name rest hform ih =>
    rcases List.forall_mem_cons.1 htokens with ⟨hname, hrest⟩
    simp only [Option.bind_eq_bind, Option.bind_eq_some_iff, Prod.exists, Option.map_eq_map,
      Option.map_eq_some_iff] at h
    rcases h with ⟨type, behindType, htype, value, behind, hvalue, others, hothers, rfl⟩
    have hsuffix := (attributeDefault?_suffix hvalue).trans (attributeType?_suffix htype)
    have hbehind : ∀ t ∈ behind, t.IsSound := fun t ht => hrest t (hsuffix.subset ht)
    exact List.forall_mem_cons.2 ⟨hname hform, ih behind hbehind hothers⟩
  | case4 => simp at h

/-! ## Document types -/

namespace Doctype

variable {d d' : Doctype}

/-- Declarations stay sound with one more rule that is. -/
theorem insertRule_isSound {declarations : Declarations} (hd : declarations.IsSound IsCuttable)
    (element : Text) {r : AttributeRule} (hr : ∀ s ∈ r.default?, IsCuttable r.name ∧ IsRun s)
    (isId : Bool) :
    Declarations.IsSound IsCuttable { declarations with
      attributeRules := Assoc.insert element
        (addRule ((Assoc.get? element declarations.attributeRules).getD []) r isId)
        declarations.attributeRules } := by
  have hrules : ∀ old ∈ (Assoc.get? element declarations.attributeRules).getD [],
      ∀ s ∈ old.default?, IsCuttable old.name ∧ IsRun s := by
    intro old hold s hs
    cases hget : Assoc.get? element declarations.attributeRules with
    | none => simp [hget] at hold
    | some rules =>
      rw [hget, Option.getD_some] at hold
      exact hd _ (Assoc.mem_of_get? hget) old hold s hs
  intro entry hentry old hold s hs
  rcases Assoc.mem_insert hentry with hnew | hbefore
  · rw [hnew] at hold
    unfold addRule at hold
    split at hold
    · exact hrules old hold s hs
    · rcases List.mem_append.1 hold with hold | hold
      · exact hrules old hold s hs
      · rw [List.mem_singleton.1 hold] at hs ⊢
        exact hr s hs
  · exact hd entry hbefore old hold s hs

/-- A declared attribute with a name that can be cut keeps declarations sound. -/
theorem addAttribute?_isSound (hrule : rule.IsLawful) {element : Text} {a : AttributeDeclaration}
    (hd : d.declarations.IsSound IsCuttable) (ha : IsCuttable a.name)
    (h : addAttribute? rule element d a = some d') : d'.declarations.IsSound IsCuttable := by
  unfold addAttribute? at h
  cases hdefault : a.default? with
  | none =>
    simp only [hdefault, Option.bind_eq_bind, Option.bind_some, Option.some.injEq] at h
    rw [← h]
    exact insertRule_isSound hd element (by simp) _
  | some literal =>
    simp only [hdefault, Option.bind_eq_bind, Option.bind_some, Option.bind_eq_some_iff,
      Option.some.injEq] at h
    rcases h with ⟨text, ⟨pieces, hpieces, htext⟩, rfl⟩
    have hrun := Declarations.value?_isRun (valuePieces?_eq_some hrule hpieces).2 htext
    refine insertRule_isSound hd element ?_ _
    intro s hs
    rw [← Option.some.inj hs]
    refine ⟨ha, ?_⟩
    split
    · exact hrun.tokenList
    · exact hrun

/-- Declared attributes with names that can be cut keep declarations sound. -/
theorem foldlM_addAttribute?_isSound (hrule : rule.IsLawful) {element : Text}
    {attributes : List AttributeDeclaration} (hd : d.declarations.IsSound IsCuttable)
    (hattributes : ∀ a ∈ attributes, IsCuttable a.name)
    (h : attributes.foldlM (addAttribute? rule element) d = some d') :
    d'.declarations.IsSound IsCuttable := by
  induction attributes generalizing d with
  | nil => exact Option.some.inj h ▸ hd
  | cons a attributes ih =>
    rcases List.forall_mem_cons.1 hattributes with ⟨ha, hrest⟩
    rw [List.foldlM_cons] at h
    rcases Option.bind_eq_some_iff.1 h with ⟨next, hnext, h⟩
    exact ih (addAttribute?_isSound hrule hd ha hnext) hrest h

/-- A declared entity leaves the rules for attributes as they are. -/
theorem addEntity?_isSound {e : EntityDeclaration} (hd : d.declarations.IsSound IsCuttable)
    (h : addEntity? rule d e = some d') : d'.declarations.IsSound IsCuttable := by
  have hadd : ∀ {isKnown : Prop} [Decidable isKnown] {entities : List (Text × Option Text)},
      (if isKnown then some d
      else some { d with declarations := { d.declarations with entities } }) = some d' →
      d'.declarations.IsSound IsCuttable := by
    intro isKnown _ entities h
    split at h
    · exact Option.some.inj h ▸ hd
    · rw [← Option.some.inj h]
      exact hd
  cases hliteral : e.literal with
  | none =>
    simp only [addEntity?, hliteral, Option.bind_eq_bind, Option.bind_some] at h
    split at h
    · exact Option.some.inj h ▸ hd
    · exact hadd h
  | some literal =>
    simp only [addEntity?, hliteral, Option.bind_eq_bind, Option.bind_eq_some_iff] at h
    rcases h with ⟨replacement, _, h⟩
    split at h
    · exact Option.some.inj h ▸ hd
    · exact hadd h

/-- A declaration keeps declarations sound. -/
theorem declare?_isSound (hrule : rule.IsLawful) {keyword : Text}
    (hd : d.declarations.IsSound IsCuttable) (htokens : ∀ t ∈ tokens, t.IsSound)
    (h : declare? rule d keyword tokens = some d') : d'.declarations.IsSound IsCuttable := by
  unfold declare? at h
  split at h
  · simp only [Option.bind_eq_bind, Option.bind_eq_some_iff] at h
    rcases h with ⟨e, _, h⟩
    split at h
    · exact addEntity?_isSound hd h
    · exact Option.some.inj h ▸ hd
  · split at h
    · split at h
      · next form element rest =>
        split at h
        · simp at h
        · simp only [Option.bind_eq_bind, Option.bind_eq_some_iff] at h
          rcases h with ⟨attributes, hattributes, h⟩
          have hnames := attributeDeclarations?_isCuttable
            (fun t ht => htokens t (List.mem_cons_of_mem _ ht)) hattributes
          split at h
          · exact foldlM_addAttribute?_isSound hrule hd hnames h
          · exact Option.some.inj h ▸ hd
      · simp at h
    · split at h
      · split at h
        · exact Option.some.inj h ▸ hd
        · simp at h
      · split at h
        · split at h
          · exact Option.some.inj h ▸ hd
          · simp at h
        · simp at h

/-- A subset keeps declarations sound. -/
theorem readSubset?_isSound (hrule : rule.IsLawful) {fuel : Nat} {s after : Text}
    (hd : d.declarations.IsSound IsCuttable)
    (h : readSubset? rule fuel d s = some (d', after)) : d'.declarations.IsSound IsCuttable := by
  induction fuel generalizing d s with
  | zero => simp [readSubset?] at h
  | succ fuel ih =>
    unfold readSubset? at h
    split at h
    · exact (Prod.mk.inj (Option.some.inj h)).1 ▸ hd
    · rcases Option.bind_eq_some_iff.1 h with ⟨rest, _, h⟩
      exact ih (d := { d.referOutside with isCounting := d.standsAlone }) hd h
    · rcases Option.bind_eq_some_iff.1 h with ⟨rest, _, h⟩
      exact ih hd h
    · rcases Option.bind_eq_some_iff.1 h with ⟨rest, _, h⟩
      exact ih hd h
    · simp only [Option.bind_eq_bind, Option.bind_eq_some_iff, Prod.exists] at h
      rcases h with ⟨tokens, last, behind, htokens, h⟩
      split at h
      · rcases Option.bind_eq_some_iff.1 h with ⟨next, hnext, h⟩
        exact ih (declare?_isSound hrule hd (declarationTokens?_isSound hrule htokens) hnext) h
      · simp at h
    · simp at h

/-- The declarations of a document type are sound. -/
theorem read?_isSound (hrule : rule.IsLawful) {pieceSize : Option Nat} {standsAlone : Bool}
    {s after : Text} {declarations : Declarations}
    (h : read? rule pieceSize standsAlone s = some (declarations, after)) :
    declarations.IsSound IsCuttable := by
  have htail : ∀ {start : Doctype} {last : DeclarationToken} {rest : Text}
      {close : Doctype × Text → Option (Declarations × Text)},
      (∀ d behind, close (d, behind) = some (declarations, after) → d.declarations = declarations) →
      start.declarations.IsSound IsCuttable →
      (if last = .close then some (start.declarations, rest)
      else (readSubset? rule rest.length start rest).bind close) = some (declarations, after) →
      declarations.IsSound IsCuttable := by
    intro start last rest close hclose hstart h
    split at h
    · exact (Prod.mk.inj (Option.some.inj h)).1 ▸ hstart
    · simp only [Option.bind_eq_some_iff, Prod.exists] at h
      rcases h with ⟨d, behind, hsubset, h⟩
      exact hclose d behind h ▸ readSubset?_isSound hrule hstart hsubset
  have hinitial : (initial pieceSize standsAlone).declarations.IsSound IsCuttable :=
    Declarations.none_isSound
  have houtside : (initial pieceSize standsAlone).referOutside.declarations.IsSound IsCuttable :=
    hinitial
  unfold read? at h
  simp only [Option.bind_eq_bind, Option.bind_eq_some_iff, Prod.exists] at h
  rcases h with ⟨tokens, last, rest, _, h⟩
  split at h
  · split at h
    · simp at h
    · refine htail (fun d behind hclose => ?_) hinitial h
      split at hclose
      · exact (Prod.mk.inj (Option.some.inj hclose)).1
      · simp at hclose
  · split at h
    · refine htail (fun d behind hclose => ?_) houtside h
      split at hclose
      · exact (Prod.mk.inj (Option.some.inj hclose)).1
      · simp at hclose
    · simp at h
  · simp at h

end Doctype
end Xml
end DocMarkup
