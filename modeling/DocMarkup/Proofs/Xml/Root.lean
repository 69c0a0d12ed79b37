import DocMarkup.Proofs.Xml.Spelling
import DocMarkup.Xml.Document

/-!
# Content inside a root

Content is read on its own here, without the tags of a root element around it. That makes no
difference: no construct reaches from the content into the closing tag, no tag of the content closes
the root, and what is read between the tags is what is read without them.

Main definitions:

- {lit}`Xml.wrapped`: content between the tags of a root element.
- {lit}`Xml.IsRootName`: a name whose closing tag ends nothing else.

Main results:

- Theorem {lit}`Xml.step?_append_closing`: no construct reaches into the closing tag.
- Theorem {lit}`Xml.rootOfText?_wrapped`: content in a root is read as content.
-/

namespace DocMarkup
namespace Xml

variable {rule : CharRule} {root u v rest : Text} {a tokens : List Token}

/-! ## The tags of a root -/

/-- The tag that closes a root element. -/
def closing (root : Text) : Text := '<' :: '/' :: (root ++ ['>'])

/-- Content between the tags of a root element. -/
def wrapped (root raw : Text) : Text := '<' :: (root ++ '>' :: (raw ++ closing root))

/-- A plain name whose closing tag does not end like a comment, an instruction or a section. -/
structure IsRootName (rule : CharRule) (root : Text) : Prop where
  isPlain : isPlainName rule root = true
  last : ∀ c ∈ ['-', '?', ']'], root.getLast? ≠ some c

/-- A construct that is closed by a mark ends in a character of the mark and a bracket. -/
theorem exists_suffix_of_mark {taken : Text} {mark : String} (hmark : mark ∈ ["-->", "?>", "]]>"])
    (hsuffix : mark.toList <:+ taken) : ∃ c ∈ ['-', '?', ']'], [c, '>'] <:+ taken := by
  simp only [List.mem_cons, List.not_mem_nil, or_false] at hmark
  rcases hmark with rfl | rfl | rfl
  · exact ⟨'-', by simp, List.IsSuffix.trans ⟨['-'], rfl⟩ hsuffix⟩
  · exact ⟨'?', by simp, hsuffix⟩
  · exact ⟨']', by simp, List.IsSuffix.trans ⟨[']'], rfl⟩ hsuffix⟩

/-- The last character of joined texts stands in the second one. -/
theorem mem_of_getLast?_append {c : Char} (hv : v ≠ []) (h : (u ++ v).getLast? = some c) :
    c ∈ v := by
  rw [List.getLast?_append] at h
  cases hlast : v.getLast? with
  | none => exact absurd (List.getLast?_eq_none_iff.1 hlast) hv
  | some d =>
    obtain rfl : d = c := by simpa [hlast] using h
    exact List.mem_of_getLast? hlast

/-- The only bracket of a closing tag that points outwards is the last character. -/
theorem not_mem_of_closing_eq (hrule : rule.IsLawful) (hroot : isPlainName rule root = true)
    {d : Char} (heq : closing root = v ++ d :: rest) : '>' ∉ v := by
  have hgt : '>' ∉ '<' :: '/' :: root := by
    have hmark := mark_not_mem_plainName hrule hroot (by decide : '>' ∈ tagMarks)
    simpa using hmark
  intro hmem
  have hclosing : ('<' :: '/' :: root) ++ ['>'] = v ++ d :: rest := heq
  rcases List.append_eq_append_iff.1 hclosing with ⟨more, hmore, hrest⟩ | ⟨more, hmore, _⟩
  · cases more with
    | nil => exact hgt (by simpa [hmore] using hmem)
    | cons e more => simp at hrest
  · exact hgt (hmore ▸ List.mem_append_left more hmem)

/-- What reaches into the closing tag of a root is no construct. -/
theorem not_isWhole_append (hrule : rule.IsLawful) (hroot : IsRootName rule root) (hu : u ≠ [])
    (hv : v ≠ []) (heq : closing root = v ++ rest) : ¬IsWhole (u ++ v) := by
  rintro (hlt | ⟨mark, hmark, hsuffix⟩)
  · -- the bracket of the closing tag would stand inside the construct
    cases u with
    | nil => exact hu rfl
    | cons c u =>
      cases v with
      | nil => exact hv rfl
      | cons d v =>
        obtain rfl : '<' = d := (List.cons.inj heq).1
        exact hlt (by simp)
  · rcases exists_suffix_of_mark hmark hsuffix with ⟨c, hc, before, hbefore⟩
    cases rest with
    | nil =>
      -- the construct would end in the name of the root and a bracket
      rw [List.append_nil] at heq
      have hwhole : (before ++ [c]) ++ ['>'] = (u ++ '<' :: '/' :: root) ++ ['>'] := by
        rw [← heq] at hbefore
        simpa [closing] using hbefore
      have hname := congrArg List.getLast? (List.append_cancel_right hwhole)
      cases root with
      | nil => exact absurd rfl (ne_nil_of_isPlainName hroot.isPlain)
      | cons d root => exact hroot.last c hc (by simpa using hname.symm)
    | cons d rest =>
      -- the construct would end inside the closing tag, which has no bracket there
      have hlast : (u ++ v).getLast? = some '>' := by
        rw [← hbefore]
        simp
      exact not_mem_of_closing_eq hrule hroot.isPlain heq (mem_of_getLast?_append hv hlast)

/-- A seam does not depend on what stands further behind. -/
theorem Seam.of_append {taken t : Text} (hseam : Seam taken (v ++ t)) : Seam taken v := by
  constructor
  · intro htaken
    cases v with
    | nil => simp
    | cons c v => simpa using hseam.1 htaken
  · intro htaken hclose
    exact hseam.2 htaken (hclose.trans (List.prefix_append v t))

/-- No construct reaches from the content into the closing tag. -/
theorem step?_append_closing (hrule : rule.IsLawful) (hroot : IsRootName rule root) (hu : u ≠ [])
    (h : step? rule (u ++ closing root) = some (tokens, rest)) :
    ∃ v, rest = v ++ closing root ∧ step? rule u = some (tokens, v) := by
  rcases step?_local hrule h with ⟨_, taken, _, heq, hwhole, hseam, hlocal⟩
  rcases List.append_eq_append_iff.1 heq with ⟨v, rfl, hclosing⟩ | ⟨v, rfl, rfl⟩
  · by_cases hv : v = []
    · subst hv
      have hstep := hlocal [] (by simp [Seam])
      rw [List.append_nil, List.append_nil] at hstep
      exact ⟨[], hclosing.symm, hstep⟩
    · exact absurd hwhole (not_isWhole_append hrule hroot hu hv hclosing)
  · exact ⟨v, rfl, hlocal v hseam.of_append⟩

/-- The closing tag ends the root and nothing else. -/
theorem step?_closing (hrule : rule.IsLawful) (hroot : IsRootName rule root) :
    step? rule (closing root) = some ([.endTag root], []) := by
  have hname : IsQualified rule root := .plain hroot.isPlain
  have hspaces : ∀ c ∈ ([] : Text), isSpace c = true := by simp
  have hend := endTag?_append hrule hname hspaces []
  show endTag? rule (root ++ ['>']) = _
  simpa using hend

/-! ## What stands behind the root -/

/-- Nothing that is skipped reaches into the closing tag. -/
theorem afterMiscellany?_append_closing (hrule : rule.IsLawful) (hroot : IsRootName rule root)
    {fuel : Nat} (h : afterMiscellany? rule fuel (u ++ closing root) = some rest) :
    ∃ v, rest = v ++ closing root := by
  induction fuel generalizing u with
  | zero => simp [afterMiscellany?] at h
  | succ fuel ih =>
    have hspace : ∃ w, (u ++ closing root).dropWhile isSpace = w ++ closing root := by
      rw [List.dropWhile_append]
      split
      · exact ⟨[], rfl⟩
      · exact ⟨_, rfl⟩
    rcases hspace with ⟨w, hw⟩
    have hskip : ∀ {c : Char} {t : Text}, c ≠ '/' → w ++ closing root = '<' :: c :: t → w ≠ [] := by
      rintro c t hc heq rfl
      exact hc (List.cons.inj (List.cons.inj heq).2).1.symm
    rw [afterMiscellany?, hw] at h
    split at h
    · next t heq =>
      rcases Option.bind_eq_some_iff.1 h with ⟨after, hafter, hrest⟩
      have hstep : step? rule (w ++ closing root) = some ([], after) := by
        rw [heq, step?, hafter]
        rfl
      rcases step?_append_closing hrule hroot (hskip (by decide) heq) hstep with ⟨v, rfl, _⟩
      exact ih hrest
    · next t heq =>
      rcases Option.bind_eq_some_iff.1 h with ⟨after, hafter, hrest⟩
      have hstep : step? rule (w ++ closing root) = some ([], after) := by
        rw [heq, step?, hafter]
        rfl
      rcases step?_append_closing hrule hroot (hskip (by decide) heq) hstep with ⟨v, rfl, _⟩
      exact ih hrest
    · exact ⟨w, (Option.some.inj h).symm⟩

/-- The tokens of a root's element are those of its content and the closing tag, unless the element
ends before. -/
theorem elementTokens?_append_closing (hrule : rule.IsLawful) (hroot : IsRootName rule root)
    {fuel depth : Nat}
    (h : elementTokens? rule fuel depth (u ++ closing root) = some (tokens, rest)) :
    (∃ v, rest = v ++ closing root) ∨
      ∃ a, Lexes rule u a ∧ tokens = a ++ [.endTag root] ∧ rest = [] := by
  induction fuel generalizing u depth tokens rest with
  | zero => simp [elementTokens?] at h
  | succ fuel ih =>
    rw [elementTokens?] at h
    simp only [Option.bind_eq_bind, Option.bind_eq_some_iff, Prod.exists] at h
    rcases h with ⟨first, after, hstep, h⟩
    by_cases hu : u = []
    · subst hu
      rw [List.nil_append, step?_closing hrule hroot] at hstep
      rcases Prod.mk.inj (Option.some.inj hstep) with ⟨rfl, rfl⟩
      split at h
      · rcases Prod.mk.inj (Option.some.inj h) with ⟨rfl, rfl⟩
        exact Or.inr ⟨[], .nil, rfl, rfl⟩
      · cases fuel <;> simp [elementTokens?, step?] at h
    · rcases step?_append_closing hrule hroot hu hstep with ⟨v, rfl, hfirst⟩
      split at h
      · rcases Prod.mk.inj (Option.some.inj h) with ⟨rfl, rfl⟩
        exact Or.inl ⟨v, rfl⟩
      · simp only [Option.bind_eq_some_iff, Prod.exists, Option.some.injEq, Prod.mk.injEq] at h
        rcases h with ⟨others, last, hothers, rfl, rfl⟩
        rcases ih hothers with hbefore | ⟨a, ha, rfl, hrest⟩
        · exact Or.inl hbefore
        · exact Or.inr ⟨first ++ a, .step hfirst ha, (List.append_assoc ..).symm, hrest⟩

/-! ## Depth -/

/-- A token changes the depth as it changes the number of elements that are open to the left. -/
theorem depthAfter_cons_putAll {token : Token} {tokens : List Token} {first : List Event}
    {behind next : Assembly} {fuel : Nat} {within : List Text}
    (hfirst : Declarations.none.tokenEvents? fuel within token = some first)
    (h : Assembly.putAll first (some behind) = some next) :
    depthAfter (next.enclosing.length + 1) (token :: tokens) =
      depthAfter (behind.enclosing.length + 1) tokens := by
  rcases behind with ⟨content, frames⟩
  cases token with
  | literal run =>
    obtain rfl : [.text run] = first := by simpa using hfirst
    obtain rfl : ⟨content.consChars run, frames⟩ = next := Option.some.inj h
    rfl
  | endTag name =>
    obtain rfl : [.endTag name] = first := by simpa using hfirst
    obtain rfl : ⟨.nil, (name, content) :: frames⟩ = next := Option.some.inj h
    rfl
  | startTag name attributes =>
    rw [Declarations.tokenEvents?_startTag] at hfirst
    rcases Option.map_eq_some_iff.1 hfirst with ⟨all, _, rfl⟩
    have hput : Assembly.put (.startTag name all) ⟨content, frames⟩ = some next := h
    cases frames with
    | nil => simp [Assembly.put] at hput
    | cons frame frames =>
      simp only [Assembly.put] at hput
      split at hput
      · obtain rfl := Option.some.inj hput
        rfl
      · simp at hput
  | piece p =>
    cases p with
    | char c =>
      obtain rfl : [.text [c]] = first := by simpa using hfirst
      obtain rfl : ⟨content.consChars [c], frames⟩ = next := Option.some.inj h
      rfl
    | entity name =>
      cases fuel with
      | zero => simp [Declarations.tokenEvents?] at hfirst
      | succ fuel => simp [Declarations.none, Declarations.tokenEvents?, Assoc.get?] at hfirst

/-- The depth behind some tokens, from the number of elements that are still open to the left. -/
theorem depthAfter_putAll {es : List Event} {assembly next : Assembly}
    (hes : Declarations.none.events? tokens = some es)
    (h : Assembly.putAll es (some assembly) = some next) :
    depthAfter (next.enclosing.length + 1) tokens = assembly.enclosing.length + 1 := by
  induction tokens generalizing es next with
  | nil =>
    obtain rfl : [] = es := by simpa [Declarations.events?] using hes
    obtain rfl : assembly = next := by simpa [Assembly.putAll] using h
    rfl
  | cons token tokens ih =>
    rw [← List.singleton_append, Declarations.events?_append,
      Declarations.events?_singleton] at hes
    simp only [Option.bind_eq_some_iff, Option.map_eq_some_iff] at hes
    rcases hes with ⟨first, hfirst, others, hothers, rfl⟩
    rw [Assembly.putAll_append] at h
    cases hbehind : Assembly.putAll others (some assembly) with
    | none => simp [hbehind, Assembly.putAll_none] at h
    | some behind =>
      rw [hbehind] at h
      rw [depthAfter_cons_putAll hfirst h]
      exact ih hothers hbehind

/-- The tokens of content and of the tag that closes the element around it. -/
theorem Lexes.elementTokens? (hrule : rule.IsLawful) (hroot : IsRootName rule root)
    (hu : Lexes rule u a) {es : List Event} {assembly : Assembly}
    (hes : Declarations.none.events? a = some es)
    (h : Assembly.putAll es (some ⟨.nil, []⟩) = some assembly) {fuel : Nat}
    (hfuel : (u ++ closing root).length ≤ fuel) :
    Xml.elementTokens? rule fuel (assembly.enclosing.length + 1) (u ++ closing root) =
      some (a ++ [.endTag root], []) := by
  induction hu generalizing es assembly fuel with
  | nil =>
    obtain rfl : [] = es := by simpa [Declarations.events?] using hes
    obtain rfl : (⟨.nil, []⟩ : Assembly) = assembly := by simpa [Assembly.putAll] using h
    cases fuel with
    | zero => simp [closing] at hfuel
    | succ fuel =>
      rw [List.nil_append, Xml.elementTokens?, step?_closing hrule hroot]
      rfl
  | @step s rest first others hstep hrest ih =>
    rw [Declarations.events?_append] at hes
    simp only [Option.bind_eq_some_iff, Option.map_eq_some_iff] at hes
    rcases hes with ⟨firstEvents, hfirst, otherEvents, hothers, rfl⟩
    rw [Assembly.putAll_append] at h
    cases hbehind : Assembly.putAll otherEvents (some ⟨.nil, []⟩) with
    | none => simp [hbehind, Assembly.putAll_none] at h
    | some behind =>
      rw [hbehind] at h
      have hdepth := depthAfter_putAll hfirst h
      have hlength := step?_length_lt hrule hstep
      rcases step?_local hrule hstep with ⟨_, taken, _, rfl, _, hseam, hlocal⟩
      have hmeets : Meets (taken ++ rest) (closing root) :=
        { lineBreak := by simp [closing]
          close := by simp [closing]
          closeRest := by simp [closing] }
      have hnext := hlocal (rest ++ closing root) (hseam.append hmeets)
      cases fuel with
      | zero => simp [closing] at hfuel
      | succ fuel =>
        have hroom : (rest ++ closing root).length ≤ fuel := by
          simp only [List.length_append] at hfuel hlength ⊢
          omega
        have hrest' := ih hothers hbehind hroom
        rw [List.append_assoc, Xml.elementTokens?, hnext]
        simp only [Option.bind_eq_bind, Option.bind_some, hdepth, hrest']
        simp

/-! ## Content in a root -/

/-- A wrapped text begins with the tag of its root. -/
theorem step?_wrapped (hrule : rule.IsLawful) (hroot : IsRootName rule root) (raw : Text) :
    step? rule (wrapped root raw) = some ([.startTag root []], raw ++ closing root) := by
  have hname : IsQualified rule root := .plain hroot.isPlain
  have hspelled : Spelled rule [] [] := .nil (by simp)
  rw [wrapped, step?_startTag (hname.isRaw hrule)]
  exact hspelled.startTag? hrule hname (raw ++ closing root)

/-- The first character of a wrapped text opens a tag, and the next one begins its name. -/
theorem wrapped_eq_cons (hrule : rule.IsLawful) (hroot : IsRootName rule root) (raw : Text) :
    ∃ c t, wrapped root raw = '<' :: c :: t ∧ c ≠ '?' ∧ c ≠ '!' := by
  have hmark : ∀ d ∈ tagMarks, d ∉ root := fun d hd =>
    mark_not_mem_plainName hrule hroot.isPlain hd
  cases root with
  | nil => exact absurd rfl (ne_nil_of_isPlainName hroot.isPlain)
  | cons c root =>
    refine ⟨c, _, rfl, ?_, ?_⟩
    · rintro rfl
      exact hmark '?' (by decide) (by simp)
    · rintro rfl
      exact hmark '!' (by decide) (by simp)

/-- Nothing is skipped in front of the tag of a root. -/
theorem afterMiscellany?_wrapped (hrule : rule.IsLawful) (hroot : IsRootName rule root)
    (raw : Text) :
    afterMiscellany? rule ((wrapped root raw).length + 1) (wrapped root raw) =
      some (wrapped root raw) := by
  rcases wrapped_eq_cons hrule hroot raw with ⟨c, t, heq, hquestion, hbang⟩
  have hspace : ('<' :: c :: t).dropWhile isSpace = '<' :: c :: t := rfl
  rw [heq, afterMiscellany?, hspace]
  split
  · next more hmore => exact absurd (List.cons.inj (List.cons.inj hmore).2).1 hquestion
  · next more hmore => exact absurd (List.cons.inj (List.cons.inj hmore).2).1 hbang
  · rfl

/-- Nothing is declared in front of the tag of a root. -/
theorem doctype?_wrapped (hrule : rule.IsLawful) (hroot : IsRootName rule root)
    (pieceSize : Option Nat) (standsAlone : Bool) (raw : Text) :
    doctype? rule pieceSize standsAlone (wrapped root raw) = some (.none, wrapped root raw) := by
  rcases wrapped_eq_cons hrule hroot raw with ⟨c, t, heq, _, hbang⟩
  have hmark : Text.after? "<!DOCTYPE".toList ('<' :: c :: t) = none := by
    simp [Text.after?, Ne.symm hbang]
  rw [heq, doctype?, hmark]

/-- The root of wrapped markup is the first element that closes, with nothing behind it. -/
theorem rootOfText?_wrapped_iff (hrule : rule.IsLawful) (hroot : IsRootName rule root)
    (pieceSize : Option Nat) (standsAlone : Bool) (raw : Text) :
    ∃ fuel, (raw ++ closing root).length ≤ fuel ∧ ∀ f,
      rootOfText? rule pieceSize standsAlone (wrapped root raw) = some f ↔
        ∃ tokens rest events forest,
          elementTokens? rule fuel 1 (raw ++ closing root) = some (tokens, rest) ∧
          afterMiscellany? rule (rest.length + 1) rest = some [] ∧
          Declarations.none.events? (.startTag root [] :: tokens) = some events ∧
          rawForest? events = some forest ∧ expand? .initial forest = some f ∧
          ∃ name attributes children, f = .element name attributes children .nil := by
  have hlength : (wrapped root raw).length =
      (root.length + (raw ++ closing root).length + 1) + 1 := by
    simp only [wrapped, List.length_cons, List.length_append]
    omega
  have hdepth : ¬depthAfter 0 [.startTag root []] = 0 := by simp [depthAfter]
  have hhead : (wrapped root raw).head? = some '<' := rfl
  refine ⟨root.length + (raw ++ closing root).length + 1, by omega, ?_⟩
  intro f
  rw [rootOfText?, afterMiscellany?_wrapped hrule hroot]
  simp only [Option.bind_eq_bind, Option.bind_some, doctype?_wrapped hrule hroot]
  rw [if_pos hhead, hlength, elementTokens?, step?_wrapped hrule hroot]
  simp only [Option.bind_eq_bind, Option.bind_some, if_neg hdepth, Option.bind_assoc,
    Option.bind_eq_some_iff, Prod.exists]
  constructor
  · rintro ⟨tokens, rest, htokens, last, hlast, h⟩
    split at h
    · next hnil =>
      subst hnil
      simp only [Option.bind_eq_some_iff] at h
      rcases h with ⟨events, hevents, forest, hforest, g, hg, h⟩
      split at h
      · next name attributes children =>
        obtain rfl := Option.some.inj h
        exact ⟨tokens, rest, events, forest, htokens, hlast, hevents, hforest, hg, _, _, _, rfl⟩
      · simp at h
    · simp at h
  · rintro ⟨tokens, rest, events, forest, htokens, hlast, hevents, hforest, hf, name, attributes,
      children, rfl⟩
    refine ⟨tokens, rest, htokens, [], hlast, ?_⟩
    simp only [if_true, Option.bind_eq_some_iff]
    exact ⟨events, hevents, forest, hforest, _, hf, rfl⟩

/-- An element that stands alone is expanded from an element that stands alone. -/
theorem exists_of_expand?_element {forest : Forest Text} {name : QName}
    {attributes : List (QName × Text)} {children : Forest QName}
    (h : expand? .initial forest = some (.element name attributes children .nil)) :
    ∃ raw attributes' children', forest = .element raw attributes' children' .nil := by
  cases forest with
  | nil => simp [expand?] at h
  | text run rest => simp [expand?] at h
  | element raw attributes' children' rest =>
    rcases expand?_element.1 h with ⟨_, _, _, _, rest', _, _, _, _, _, _, hrest, heq⟩
    obtain rfl : .nil = rest' := (Forest.element.inj heq).2.2.2
    have hstarts := startsWithText_expand? hrest
    cases rest with
    | nil => exact ⟨raw, attributes', children', rfl⟩
    | text run rest => simp [Forest.startsWithText] at hstarts
    | element raw attributes children rest =>
      rcases expand?_element.1 hrest with ⟨_, _, _, _, _, _, _, _, _, _, _, _, heq⟩
      simp at heq

/-- A root element is expanded to its plain name around its expanded content. -/
theorem expand?_root (hrule : rule.IsLawful) (hroot : IsRootName rule root) {forest : Forest Text}
    {f : Forest QName} :
    expand? .initial (.element root [] forest .nil) = some f ↔
      ∃ children, expand? .initial forest = some children ∧
        f = .element ⟨none, root⟩ [] children .nil := by
  have hname : Bindings.initial.elementName? root = some ⟨none, root⟩ := by
    rw [Bindings.elementName?, cutName_plain hrule hroot.isPlain]
    rfl
  constructor
  · intro h
    rcases expand?_element.1 h with
      ⟨inner, name, expanded, children, rest, _, hinner, hinnerName, hexpanded, _, hchildren, hrest,
        rfl⟩
    obtain rfl : Bindings.initial = inner := Option.some.inj hinner
    obtain rfl : [] = expanded := Option.some.inj hexpanded
    obtain rfl : .nil = rest := Option.some.inj hrest
    obtain rfl : ⟨none, root⟩ = name := Option.some.inj (hname.symm.trans hinnerName)
    exact ⟨children, hchildren, rfl⟩
  · rintro ⟨children, hchildren, rfl⟩
    exact expand?_element.2 ⟨.initial, ⟨none, root⟩, [], children, .nil, by simp, rfl, hname, rfl,
      by simp, hchildren, rfl, rfl⟩

/-- What is assembled between the tags of a root is assembled without them. -/
theorem rawForest?_root {es : List Event} {raw : Text} {attributes : List (Text × Text)}
    {children : Forest Text}
    (h : rawForest? (.startTag root [] :: (es ++ [.endTag root])) =
      some (.element raw attributes children .nil)) :
    rawForest? es = some children ∧ raw = root ∧ attributes = [] := by
  rw [rawForest?_eq_some_iff, Assembly.putAll_cons, Option.bind_eq_some_iff] at h
  rcases h with ⟨⟨content, frames⟩, hinside, hput⟩
  rw [Assembly.putAll_append] at hinside
  cases frames with
  | nil => simp [Assembly.put] at hput
  | cons frame frames =>
    rcases frame with ⟨last, after⟩
    simp only [Assembly.put] at hput
    split at hput
    · have heq := Option.some.inj hput
      obtain rfl : frames = [] := congrArg Assembly.enclosing heq
      have helement := congrArg Assembly.content heq
      rcases Forest.element.inj helement with ⟨rfl, rfl, rfl, rfl⟩
      exact ⟨rawForest?_of_putAll hinside, rfl, rfl⟩
    · simp at hput

/-- Content in a root is read as content, whatever the root is called. -/
theorem rootOfText?_wrapped (hroot : IsRootName .standard root) (pieceSize : Option Nat)
    (standsAlone : Bool) (raw : Text) :
    rootOfText? .standard pieceSize standsAlone (wrapped root raw) =
      (readContent? raw).map fun f => .element ⟨none, root⟩ [] f .nil := by
  have hrule := CharRule.standard_isLawful
  rcases rootOfText?_wrapped_iff hrule hroot pieceSize standsAlone raw with ⟨fuel, hfuel, hiff⟩
  apply Option.ext
  intro g
  rw [hiff, Option.map_eq_some_iff]
  constructor
  · rintro ⟨tokens, rest, events, forest, htokens, hlast, hevents, hforest, hg, name, attributes,
      children, rfl⟩
    rcases elementTokens?_append_closing hrule hroot htokens with ⟨v, rfl⟩ | ⟨a, ha, rfl, rfl⟩
    · rcases afterMiscellany?_append_closing hrule hroot hlast with ⟨w, hw⟩
      simp [closing] at hw
    · rw [← List.singleton_append, Declarations.events?_append, Declarations.events?_singleton,
        Declarations.events?_append, Declarations.events?_singleton,
        Declarations.tokenEvents?_startTag, Declarations.tokenEvents?_endTag,
        show Declarations.none.attributes? root [] = some [] from
          Declarations.attributes?_none root []] at hevents
      simp only [Option.map_some, Option.bind_some, Option.map_eq_some_iff,
        Option.bind_eq_some_iff, Option.some.injEq] at hevents
      rcases hevents with ⟨_, ⟨es, hes, rfl⟩, rfl⟩
      rcases exists_of_expand?_element hg with ⟨rawName, rawAttributes, inside, rfl⟩
      rcases rawForest?_root hforest with ⟨hinside, rfl, rfl⟩
      rcases (expand?_root hrule hroot).1 hg with ⟨f, hf, heq⟩
      refine ⟨f, ?_, heq.symm⟩
      simp only [readContent?, (tokens?_eq_some_iff hrule).2 ha, hes, hinside, hf,
        Option.bind_eq_bind, Option.bind_some]
  · rintro ⟨f, hf, rfl⟩
    rcases readContent?_eq_some_iff.1 hf with ⟨a, forest, ha, hbuilds, hexpand⟩
    have hroots : Builds (.startTag root [] :: (a ++ [.endTag root]))
        (.element root [] forest .nil) := hbuilds.element root []
    rcases hroots with ⟨hmerged, events, hevents, hassembles⟩
    rcases hbuilds with ⟨_, es, hes, halone⟩
    have htokens := ha.elementTokens? hrule hroot hes (halone .nil []) hfuel
    exact ⟨a ++ [.endTag root], [], events, .element root [] forest .nil, htokens, rfl, hevents,
      hassembles.rawForest? hmerged, (expand?_root hrule hroot).2 ⟨f, hexpand, rfl⟩, _, _, _, rfl⟩

end Xml
end DocMarkup
