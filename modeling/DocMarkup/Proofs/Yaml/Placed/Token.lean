import DocMarkup.Proofs.Yaml.Placed.Cursor
import DocMarkup.Yaml.Scalar.Block
import DocMarkup.Yaml.Token

/-!
# Tokens with names in placed texts

Anchors, tags and directives are read alike at the same place of a text and of a larger one: each of
them ends in front of white space, or of the end of the text, at the latest. Only a directive takes the
line break behind it.

Main definitions:

- {lit}`Yaml.Agree`: outcomes that fail alike or give related values.
- {lit}`Yaml.Reads`: the same value, with cursors at the same place.

Main results:

- Theorems {lit}`Yaml.readAnchorName_agree`, {lit}`Yaml.readTag_agree` and
  {lit}`Yaml.readDirective_agree`: tokens at the same place of both texts.
-/

namespace DocMarkup
namespace Yaml

variable {p : Placement} {n k k' : Nat} {c c' : Cursor} {s t : Text} {α β γ δ : Type}

/-! ## Outcomes -/

/-- Two outcomes agree when they fail for the same reason or give related values. -/
inductive Agree (R : α → β → Prop) : Except Fault α → Except Fault β → Prop where
  | error (e : Fault) : Agree R (.error e) (.error e)
  | ok {a : α} {b : β} (related : R a b) : Agree R (.ok a) (.ok b)

/-- Outcomes that agree go on to outcomes that agree. -/
theorem Agree.bind {R : α → β → Prop} {S : γ → δ → Prop} {x : Except Fault α} {y : Except Fault β}
    {f : α → Except Fault γ} {g : β → Except Fault δ} (h : Agree R x y)
    (hfg : ∀ a b, R a b → Agree S (f a) (g b)) : Agree S (x >>= f) (y >>= g) := by
  cases h with
  | error e => exact .error e
  | ok related => exact hfg _ _ related

/-- Outcomes agree when their values are related more loosely. -/
theorem Agree.mono {R S : α → β → Prop} {x : Except Fault α} {y : Except Fault β}
    (h : Agree R x y) (hRS : ∀ a b, R a b → S a b) : Agree S x y := by
  cases h with
  | error e => exact .error e
  | ok related => exact .ok (hRS _ _ related)

/-- Choices agree when the conditions do, and what is chosen. -/
theorem Agree.ite {R : α → β → Prop} {a b : Prop} [Decidable a] [Decidable b]
    {x x' : Except Fault α} {y y' : Except Fault β} (hab : b ↔ a) (hthen : a → Agree R x y)
    (helse : ¬ a → Agree R x' y') : Agree R (if a then x else x') (if b then y else y') := by
  by_cases ha : a
  · rw [if_pos ha, if_pos (hab.2 ha)]
    exact hthen ha
  · rw [if_neg ha, if_neg (mt hab.1 ha)]
    exact helse ha

/-- An outcome agrees with itself. -/
theorem Agree.refl (x : Except Fault α) : Agree Eq x x := by
  cases x with
  | error e => exact .error e
  | ok a => exact .ok rfl

/-- The same value, with cursors at the same place. -/
inductive Reads (p : Placement) (n : Nat) : α × Cursor → α × Cursor → Prop where
  | mk (a : α) (d d' : Cursor) (placed : Cursor.Placed p n d d') : Reads p n (a, d) (a, d')

theorem Reads.mono {m : Nat} {x y : α × Cursor} (h : Reads p m x y) (hmn : m ≤ n) :
    Reads p n x y := by
  cases h with
  | mk a d d' hd => exact .mk a d d' (hd.mono hmn)

/-- The same two values, with cursors at the same place. -/
inductive ReadsTwo (p : Placement) (n : Nat) : α × β × Cursor → α × β × Cursor → Prop where
  | mk (a : α) (b : β) (d d' : Cursor) (placed : Cursor.Placed p n d d') :
    ReadsTwo p n (a, b, d) (a, b, d')

/-! ## Anchors and aliases -/

theorem ignoresFeeds_endsAnchor : IgnoresFeeds endsAnchor := ⟨rfl, rfl⟩

/-- The name of an anchor is the same in both texts. -/
theorem readAnchorName_agree (h : Cursor.Placed p (n + 1) c c') (hne : c.rest ≠ []) :
    Agree (Reads p n) (readAnchorName c) (readAnchorName c') := by
  rcases (h.next hne).takeWhile (q := isNameChar) rfl rfl with ⟨d, d', hrun, hrun', hd⟩
  unfold readAnchorName
  rw [hrun, hrun']
  dsimp only
  rw [hd.peek ignoresFeeds_endsAnchor]
  split
  · exact .ok (.mk _ _ _ hd)
  · exact .error _

/-! ## Tags -/

/-- The same value, with what is left written as it is in the larger text. -/
inductive TextReads (p : Placement) (s : Text) : α × Text → α × Text → Prop where
  | mk (a : α) (rest : Text) (length : rest.length ≤ s.length) :
    TextReads p s (a, rest) (a, p.text rest)

/-- Whether a text begins with a certain character that is no feed. -/
theorem head?_text_eq {x : Char} (hx : isFeed x = false) (s : Text) :
    (p.text s).head? = some x ↔ s.head? = some x := by
  rw [← beq_iff_eq, p.class_head? (ignoresFeeds_eq hx) s, beq_iff_eq]

/-- No byte is escaped where there is no percent sign. -/
theorem escapedBytes_of_head (h : s.head? ≠ some '%') : escapedBytes k s = .ok ([], s) := by
  cases k with
  | zero => rfl
  | succ k =>
    unfold escapedBytes
    split
    · exact absurd rfl h
    · exact absurd rfl h
    · rfl

/-- The byte that two digits give, and those behind it. -/
theorem escapedBytes_of_percent (k : Nat) (s : Text) :
    escapedBytes (k + 1) ('%' :: s) =
      if (s.take 2).length = 2 ∧ (s.take 2).all Text.isHexDigit = true then do
        let (others, rest) ← escapedBytes k (s.drop 2)
        .ok (UInt8.ofNat (Text.toNat 16 Text.digitValue (s.take 2)) :: others, rest)
      else .error .malformed := by
  match s with
  | [] => rfl
  | [a] => rfl
  | a :: b :: rest =>
    rw [escapedBytes]
    simp

/-- Escaped bytes are the same in both texts, and at least one of them is taken at a percent sign. -/
theorem escapedBytes_agree (hk : s.length ≤ k) (hk' : s.length ≤ k') :
    Agree (fun x y => TextReads p s x y ∧ (s.head? = some '%' → x.2.length < s.length))
      (escapedBytes k s) (escapedBytes k' (p.text s)) := by
  induction k generalizing s k' with
  | zero =>
    obtain rfl := List.eq_nil_of_length_eq_zero (Nat.le_zero.1 hk)
    have hhead : (p.text []).head? ≠ some '%' := mt (head?_text_eq rfl []).1 (by simp)
    rw [escapedBytes_of_head hhead]
    exact .ok ⟨.mk _ _ (Nat.le_refl _), by simp⟩
  | succ k ih =>
    by_cases hhead : s.head? = some '%'
    · rcases List.head?_eq_some_iff.1 hhead with ⟨s, rfl⟩
      obtain ⟨k', rfl⟩ : ∃ m, k' = m + 1 := ⟨k' - 1, by simp at hk'; omega⟩
      rw [List.length_cons, Nat.add_le_add_iff_right] at hk hk'
      rcases p.take_text (q := Text.isHexDigit) rfl rfl 2 s with ⟨hiff, hsame⟩
      have hpercent : p.feed '%' = '%' := p.feed_eq (q := fun c => c == '%') rfl rfl
      rw [p.text_cons, hpercent, escapedBytes_of_percent, escapedBytes_of_percent]
      by_cases hdigits : (s.take 2).length = 2 ∧ (s.take 2).all Text.isHexDigit = true
      · rcases hsame hdigits with ⟨htake, hdrop⟩
        rw [if_pos hdigits, if_pos (hiff.2 hdigits), htake, hdrop]
        have hshorter : (s.drop 2).length ≤ s.length := by simp
        refine (ih (hshorter.trans hk) (hshorter.trans hk')).bind ?_
        rintro _ _ ⟨⟨others, rest, hrest⟩, -⟩
        have hlast := hrest.trans hshorter
        exact .ok ⟨.mk _ _ (Nat.le_succ_of_le hlast), fun _ => Nat.lt_succ_of_le hlast⟩
      · rw [if_neg hdigits, if_neg (mt hiff.1 hdigits)]
        exact .error _
    · rw [escapedBytes_of_head hhead, escapedBytes_of_head (mt (head?_text_eq rfl s).1 hhead)]
      exact .ok ⟨.mk _ _ (Nat.le_refl _), fun h => absurd h hhead⟩

/-- Nothing is taken where there is no character of a tag. -/
theorem tagText_of_head (h : s.head?.any isTagChar = false) : tagText k s = .ok ([], s) := by
  cases k with
  | zero => rfl
  | succ k =>
    cases s with
    | nil => rfl
    | cons x s =>
      have hx : isTagChar x = false := h
      simp [tagText, hx]

/-- The text of a tag is the same in both texts. -/
theorem tagText_agree (hk : s.length ≤ k) (hk' : s.length ≤ k') :
    Agree (TextReads p s) (tagText k s) (tagText k' (p.text s)) := by
  induction k generalizing s k' with
  | zero =>
    obtain rfl := List.eq_nil_of_length_eq_zero (Nat.le_zero.1 hk)
    have hhead : (p.text []).head?.any isTagChar = false :=
      p.class_head? (q := fun c => c.any isTagChar) ⟨rfl, rfl⟩ []
    rw [tagText_of_head hhead]
    exact .ok (.mk _ _ (Nat.le_refl _))
  | succ k ih =>
    by_cases hhead : s.head?.any isTagChar = true
    · obtain ⟨x, s, rfl⟩ : ∃ x rest, s = x :: rest := by
        refine List.exists_cons_of_ne_nil ?_
        rintro rfl
        cases hhead
      have htag : isTagChar x = true := hhead
      obtain ⟨k', rfl⟩ : ∃ m, k' = m + 1 := ⟨k' - 1, by simp at hk'; omega⟩
      rw [List.length_cons, Nat.add_le_add_iff_right] at hk hk'
      have hfeed : p.feed x = x := p.feed_eq (q := isTagChar) rfl htag
      rw [p.text_cons, hfeed, tagText, tagText]
      simp only [htag, Bool.not_true, Bool.false_eq_true, if_false]
      split
      · next hpercent =>
        subst hpercent
        have hfuel : ('%' :: s).length ≤ ('%' :: p.text s).length := by simp [p.length_text s]
        have hbytes := escapedBytes_agree (p := p) (Nat.le_refl ('%' :: s).length) hfuel
        rw [p.text_cons, hfeed] at hbytes
        refine hbytes.bind ?_
        rintro _ _ ⟨⟨bytes, rest, -⟩, hshorter⟩
        have hrest := Nat.le_of_lt_succ (hshorter rfl)
        refine (Agree.refl (textOfBytes bytes)).bind ?_
        rintro decoded _ rfl
        refine (ih (hrest.trans hk) (hrest.trans hk')).bind ?_
        rintro _ _ ⟨more, last, hlast⟩
        exact .ok (.mk _ _ (Nat.le_succ_of_le (hlast.trans hrest)))
      · refine (ih hk hk').bind ?_
        rintro _ _ ⟨more, last, hlast⟩
        exact .ok (.mk _ _ (Nat.le_succ_of_le hlast))
    · have hhead' : (p.text s).head?.any isTagChar = false := by
        rw [p.class_head? (q := fun c => c.any isTagChar) ⟨rfl, rfl⟩]
        exact Bool.eq_false_iff.2 hhead
      rw [tagText_of_head (Bool.eq_false_iff.2 hhead), tagText_of_head hhead']
      exact .ok (.mk _ _ (Nat.le_refl _))

/-- The text of a tag at a cursor is the same in both texts. -/
theorem readTagText_agree (h : Cursor.Placed p n c c') :
    Agree (Reads p n) (readTagText c) (readTagText c') := by
  have hfuel : c.rest.length ≤ (p.text c.rest).length := by
    rw [p.length_text]
    exact Nat.le_add_right _ _
  unfold readTagText
  rw [h.rest]
  refine (tagText_agree (Nat.le_refl c.rest.length) hfuel).bind ?_
  rintro _ _ ⟨text, rest, hrest⟩
  dsimp only
  rw [p.length_text, p.length_text, Nat.add_sub_add_right]
  split
  · exact .error _
  · exact .ok (.mk _ _ _ (h.advance (Nat.sub_le _ _)))

/-- The handle at a cursor, by what stands at certain places. -/
theorem readHandle_eq (c : Cursor) :
    readHandle c =
      if c.peek = some '!' then
        if c.peekAt 1 = some ' ' then .ok (['!'], c.next)
        else
          if ((c.rest.drop 1).dropWhile isNameChar).head? = some '!' then
            .ok ('!' :: (c.rest.drop 1).takeWhile isNameChar ++ ['!'],
              c.advance (((c.rest.drop 1).takeWhile isNameChar).length + 2))
          else .error .malformed
      else .error .malformed := by
  unfold readHandle Cursor.peek Cursor.peekAt
  match c.rest with
  | [] => rfl
  | x :: rest =>
    by_cases hx : x = '!'
    · subst hx
      simp only [List.head?_cons, if_true, List.drop_one, List.tail_cons, List.getElem?_cons_succ,
        ← List.head?_eq_getElem?]
      congr 1
      split
      · next hdrop =>
        rw [hdrop]
        rfl
      · next hne =>
        rw [if_neg]
        intro hhead
        rcases List.head?_eq_some_iff.1 hhead with ⟨tail, htail⟩
        exact hne tail htail
    · simp [hx]

/-- The rest behind a character is written as it is in the larger text. -/
theorem drop_one_rest (h : Cursor.Placed p n c c') (hne : c.rest ≠ []) :
    c'.rest.drop 1 = p.text (c.rest.drop 1) := by
  rw [h.rest, p.drop_text (List.length_pos_iff.2 hne)]

/-- The handle at a cursor is the same in both texts. -/
theorem readHandle_agree (h : Cursor.Placed p (n + 1) c c') :
    Agree (Reads p n) (readHandle c) (readHandle c') := by
  rw [readHandle_eq, readHandle_eq]
  refine Agree.ite (h.peek_eq rfl) (fun hpeek => ?_) fun _ => .error _
  have hne := Cursor.rest_ne_nil hpeek
  have hnext := h.next hne
  rw [drop_one_rest h hne, p.takeWhile_text (q := isNameChar) rfl rfl,
    p.dropWhile_text (q := isNameChar) rfl rfl]
  refine Agree.ite (h.peekAt_eq rfl 1) (fun _ => .ok (.mk _ _ _ hnext)) fun _ => ?_
  refine Agree.ite (head?_text_eq rfl _) (fun hmark => ?_) fun _ => .error _
  refine .ok (.mk _ _ _ (hnext.advance ?_))
  -- the second mark is one more character behind the name
  have hlength := congrArg List.length
    (List.takeWhile_append_dropWhile (p := isNameChar) (l := c.rest.drop 1))
  have hpos : 0 < ((c.rest.drop 1).dropWhile isNameChar).length := by
    refine List.length_pos_iff.2 fun hnil => ?_
    rw [hnil] at hmark
    cases hmark
  rw [List.length_append] at hlength
  rw [Cursor.rest_next, ← List.drop_one]
  omega

/-- Whether a second mark follows is the same in both texts. -/
theorem hasSecondMark_text (s : Text) : hasSecondMark (p.text s) = hasSecondMark s := by
  have hhead : ∀ t : Text, ((p.text t).head? == some '!') = (t.head? == some '!') := by
    intro t
    rw [Bool.eq_iff_iff, beq_iff_eq, beq_iff_eq, head?_text_eq rfl]
  rw [hasSecondMark, hasSecondMark,
    p.dropWhile_text (q := fun c => !(endsWord (some c) || c == '!')) rfl rfl, hhead]

/-- The handle and the suffix of a tag at a cursor, by what stands behind its mark. -/
def tagParts (c : Cursor) : Except Fault (Option Text × Text × Cursor) :=
  if c.peekAt 1 = some '<' then
    readTagText (c.advance 2) >>= fun x =>
      if x.2.peek = some '>' then .ok (none, x.1, x.2.next) else .error .malformed
  else if isBlankOrEnd (c.peekAt 1) = true then .ok (none, ['!'], c.next)
  else
    (if hasSecondMark (c.rest.drop 1) = true then readHandle c else .ok (['!'], c.next)) >>=
      fun x => readTagText x.2 >>= fun y => .ok (some x.1, y.1, y.2)

/-- A tag is its parts in front of the end of a word. -/
theorem readTag_eq (c : Cursor) :
    readTag c = tagParts c >>= fun x =>
      if endsWord x.2.2.peek = true then .ok x else .error .malformed := by
  unfold readTag tagParts
  by_cases hangle : c.peekAt 1 = some '<'
  · rw [hangle, if_pos rfl]
    rfl
  · rw [if_neg hangle]
    congr 1
    split
    · next h => exact absurd h hangle
    · by_cases hmark : hasSecondMark (c.rest.drop 1) = true
      · simp only [hmark, if_true]
      · simp only [hmark]
        rfl

/-- A tag is the same in both texts. -/
theorem readTag_agree (h : Cursor.Placed p (n + 1) c c') (hne : c.rest ≠ []) :
    Agree (ReadsTwo p n) (readTag c) (readTag c') := by
  have hnext := h.next hne
  rw [readTag_eq, readTag_eq]
  refine Agree.bind (R := ReadsTwo p n) ?_ ?_
  · refine Agree.ite (h.peekAt_eq rfl 1) (fun hangle => ?_) fun _ => ?_
    · have hbehind : c.next.rest ≠ [] := by
        intro hnil
        rw [Cursor.rest_next] at hnil
        rw [Cursor.peekAt, ← List.head?_tail, hnil] at hangle
        cases hangle
      refine (readTagText_agree (hnext.step hbehind)).bind ?_
      rintro _ _ ⟨suffix, d, d', hd⟩
      refine Agree.ite (hd.peek_eq rfl) (fun hclose => ?_) fun _ => .error _
      exact .ok (.mk _ _ _ _ (hd.step (Cursor.rest_ne_nil hclose)))
    · refine Agree.ite (by rw [h.peekAt ignoresFeeds_isBlankOrEnd])
        (fun _ => .ok (.mk _ _ _ _ hnext)) fun _ => ?_
      refine Agree.bind (R := Reads p n) ?_ ?_
      · refine Agree.ite (by rw [drop_one_rest h hne, hasSecondMark_text])
          (fun _ => readHandle_agree h) fun _ => .ok (.mk _ _ _ hnext)
      · rintro _ _ ⟨handle, d, d', hd⟩
        refine (readTagText_agree hd).bind ?_
        rintro _ _ ⟨suffix, e, e', he⟩
        exact .ok (.mk _ _ _ _ he)
  · rintro _ _ ⟨handle, suffix, d, d', hd⟩
    exact Agree.ite (by rw [hd.peek ignoresFeeds_endsWord]) (fun _ => .ok (.mk _ _ _ _ hd))
      fun _ => .error _

/-! ## Directives -/

/-- A number is the same in both texts. -/
theorem readNumber_agree (h : Cursor.Placed p n c c') :
    Agree (Reads p n) (readNumber c) (readNumber c') := by
  rcases h.takeWhile (q := Text.isDigit) rfl rfl with ⟨d, d', hrun, hrun', hd⟩
  unfold readNumber
  rw [hrun, hrun']
  exact Agree.ite Iff.rfl (fun _ => .error _) fun _ =>
    Agree.ite Iff.rfl (fun _ => .error _) fun _ => .ok (.mk _ _ _ hd)

/-- A version is the same in both texts. -/
theorem readVersion_agree (h : Cursor.Placed p n c c') :
    Agree (Reads p n) (readVersion c) (readVersion c') := by
  unfold readVersion
  refine (readNumber_agree h.skipSpaces).bind ?_
  rintro _ _ ⟨major, d, d', hd⟩
  refine Agree.ite (hd.peek_eq rfl) (fun hpoint => ?_) fun _ => .error _
  refine (readNumber_agree (hd.step (Cursor.rest_ne_nil hpoint))).bind ?_
  rintro _ _ ⟨minor, e, e', he⟩
  exact Agree.ite (by rw [he.peek ignoresFeeds_endsWord]) (fun _ => .ok (.mk _ _ _ he))
    fun _ => .error _

/-- A handle and its expansion are the same in both texts. -/
theorem readHandleDirective_agree (h : Cursor.Placed p n c c') :
    Agree (Reads p n) (readHandleDirective c) (readHandleDirective c') := by
  unfold readHandleDirective
  refine (readHandle_agree (h.skipSpaces.mono (Nat.le_succ n))).bind ?_
  rintro _ _ ⟨name, d, d', hd⟩
  refine Agree.ite (hd.peek_eq rfl) (fun _ => ?_) fun _ => .error _
  refine (readTagText_agree hd.skipSpaces).bind ?_
  rintro _ _ ⟨expansion, e, e', he⟩
  exact Agree.ite (by rw [he.peek ignoresFeeds_endsWord]) (fun _ => .ok (.mk _ _ _ he))
    fun _ => .error _

/-- The same value, with cursors at the same place or behind the end of both texts. -/
inductive Follows (p : Placement) (n : Nat) : α × Cursor → α × Cursor → Prop where
  | mk (a : α) (d d' : Cursor) (follows : Cursor.Follows p n d d') : Follows p n (a, d) (a, d')

/-- The end of a line is the same in both texts. The line break there may be the one behind the text
that is placed. -/
theorem restOfLine_agree (h : Cursor.Placed p n c c') :
    Agree (Cursor.Follows p n) (restOfLine c) (restOfLine c') := by
  have hend := h.skipSpaces.skipComment
  unfold restOfLine
  dsimp only
  rcases hend.lineBreak?_cases with ⟨hfirst, hsecond, hatEnd⟩ |
    ⟨m, ch, d, d', rfl, hfirst, hsecond, hd⟩ | ⟨d', -, hatEnd, hfirst, hsecond, hended⟩
  · rw [hfirst, hsecond]
    exact Agree.ite ⟨hend.rest_eq_nil, hatEnd⟩ (fun _ => .ok (.inl hend)) fun _ => .error _
  · rw [hfirst, hsecond]
    exact .ok (.inl (hd.mono (Nat.le_succ m)))
  · rw [hfirst, hsecond]
    dsimp only
    rw [if_pos hatEnd]
    exact .ok (.inr ⟨hatEnd, hended⟩)

/-- A directive is its name, what its name calls for, and the end of its line. -/
theorem readDirective_eq (c : Cursor) :
    readDirective c =
      let (name, c) := c.next.takeWhile isNameChar
      if name = [] ∨ !endsWord c.peek then .error .malformed
      else
        (if name = "YAML".toList then readVersion c
          else if name = "TAG".toList then readHandleDirective c
          else .ok (.other, c.skipWhile (!isBreak ·))) >>= fun x =>
        restOfLine x.2 >>= fun c => .ok (x.1, c) := by
  -- the end of the line behind what has been read
  have hline : ∀ x : Directive × Cursor, restOfLine x.2 >>= (fun c => Except.ok (x.1, c)) =
      x.2.skipSpaces.skipComment.lineBreak?.elim
        (if x.2.skipSpaces.skipComment.rest = [] then .ok (x.1, x.2.skipSpaces.skipComment)
          else .error .malformed)
        fun found => .ok (x.1, found.2) := by
    intro x
    unfold restOfLine
    dsimp only
    cases x.2.skipSpaces.skipComment.lineBreak? with
    | some found => rfl
    | none =>
      dsimp only [Option.elim]
      split <;> rfl
  unfold readDirective
  simp only [hline]
  rcases c.next.takeWhile isNameChar with ⟨name, d⟩
  by_cases hname : name = [] ∨ (!endsWord d.peek) = true
  · simp only [hname, if_true]
  · simp only [hname, if_false]
    by_cases hversion : name = "YAML".toList
    · rewrite [if_pos hversion, if_pos hversion]
      exact congrArg _ (funext fun x => by cases x.2.skipSpaces.skipComment.lineBreak? <;> rfl)
    · by_cases htag : name = "TAG".toList
      · rewrite [if_neg hversion, if_neg hversion, if_pos htag, if_pos htag]
        exact congrArg _ (funext fun x => by cases x.2.skipSpaces.skipComment.lineBreak? <;> rfl)
      · rewrite [if_neg hversion, if_neg hversion, if_neg htag, if_neg htag]
        exact congrArg _ (funext fun x => by cases x.2.skipSpaces.skipComment.lineBreak? <;> rfl)

/-- A directive is the same in both texts. The line break that it takes may be the one behind the
text that is placed. -/
theorem readDirective_agree (h : Cursor.Placed p (n + 1) c c') (hne : c.rest ≠ []) :
    Agree (Follows p n) (readDirective c) (readDirective c') := by
  rcases (h.next hne).takeWhile (q := isNameChar) rfl rfl with ⟨d, d', hrun, hrun', hd⟩
  rw [readDirective_eq, readDirective_eq, hrun, hrun']
  refine Agree.ite (by rw [hd.peek ignoresFeeds_endsWord]) (fun _ => .error _) fun _ => ?_
  refine Agree.bind (R := Reads p n) ?_ ?_
  · exact Agree.ite Iff.rfl (fun _ => readVersion_agree hd) fun _ =>
      Agree.ite Iff.rfl (fun _ => readHandleDirective_agree hd) fun _ =>
        .ok (.mk _ _ _ (hd.skipWhile rfl rfl))
  · rintro _ _ ⟨directive, e, e', he⟩
    refine (restOfLine_agree he).bind ?_
    intro f f' hf
    exact .ok (.mk _ _ _ hf)

end Yaml
end DocMarkup
