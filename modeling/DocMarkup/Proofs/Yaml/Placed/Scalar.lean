import DocMarkup.Proofs.Yaml.Placed.Token
import DocMarkup.Yaml.Scalar.Quoted

/-!
# Plain and quoted scalars in placed texts

A plain scalar is the same in both texts; the line break behind the text that is placed counts as
white space behind the scalar at most. A quoted scalar that reaches into that line break is not closed in
either text.

Main definitions:

- {lit}`Yaml.PlainAgrees`: plain scalars with the same content.
- {lit}`Yaml.EndsText`: a reading that fails or reaches the end of its text.

Main results:

- Theorem {lit}`Yaml.readPlain_agree`: plain scalars at the same place of both texts.
- Theorem {lit}`Yaml.readQuoted_agree`: quoted scalars at the same place of both texts.
-/

namespace DocMarkup
namespace Yaml

variable {p : Placement} {n k k' : Nat} {c c' : Cursor} {s value space breaks : Text}
  {inFlow lineEnded : Bool} {indent : Int} {α β : Type}

/-! ## White space -/

/-- The same value with cursors at the same place, or two values at the end of both texts. -/
inductive Passes (p : Placement) (n : Nat) : α × Cursor → α × Cursor → Prop where
  | same (a : α) (d d' : Cursor) (placed : Cursor.Placed p n d d') : Passes p n (a, d) (a, d')
  | ended (a b : α) (d d' : Cursor) (ended : Cursor.Ended d d') : Passes p n (a, d) (b, d')

/-- The same two values with cursors at the same place, or others at the end of both texts. -/
inductive PassesTwo (p : Placement) (n : Nat) : α × β × Cursor → α × β × Cursor → Prop where
  | same (a : α) (b : β) (d d' : Cursor) (placed : Cursor.Placed p n d d') :
    PassesTwo p n (a, b, d) (a, b, d')
  | ended (a a' : α) (b b' : β) (d d' : Cursor) (ended : Cursor.Ended d d') :
    PassesTwo p n (a, b, d) (a', b', d')

theorem Passes.mono {m : Nat} {x y : α × Cursor} (h : Passes p m x y) (hmn : m ≤ n) :
    Passes p n x y := by
  cases h with
  | same a d d' hd => exact .same a d d' (hd.mono hmn)
  | ended a b d d' hd => exact .ended a b d d' hd

/-- No empty line is left where no line ends behind spaces. -/
theorem emptyLines_of_none (hk : c.rest.length ≤ k) (h : c.skipSpaces.lineBreak? = none) :
    emptyLines k breaks c = (some breaks, c.skipSpaces) := by
  cases k with
  | zero =>
    have hrest := List.eq_nil_of_length_eq_zero (Nat.le_zero.1 hk)
    rw [emptyLines, Cursor.skipSpaces, Cursor.skipWhile_of_nil hrest]
  | succ k =>
    rw [emptyLines, h]

/-- No empty line is left at the end of a text. -/
theorem emptyLines_of_nil (h : c.rest = []) : emptyLines k breaks c = (some breaks, c) := by
  have hskip : c.skipSpaces = c := Cursor.skipWhile_of_nil h _
  have hk : c.rest.length ≤ k := by simp [h]
  rw [emptyLines_of_none hk (hskip.symm ▸ Cursor.lineBreak?_of_nil h), hskip]

/-- The empty lines at the same place of both texts. -/
theorem emptyLines_passes (h : Cursor.Placed p n c c') (hk : n ≤ k) (hk' : n + p.extra ≤ k')
    (breaks : Text) :
    Passes p n (emptyLines k breaks c) (emptyLines k' breaks c') := by
  induction n using Nat.strong_induction_on generalizing k k' c c' breaks with
  | _ n ih =>
    have hlength : c.rest.length ≤ k := h.length.trans hk
    have hlength' : c'.rest.length ≤ k' := by
      rw [h.length_rest]
      exact (Nat.add_le_add_right h.length _).trans hk'
    rcases h.skipSpaces.lineBreak?_cases with ⟨hfirst, hsecond, -⟩ |
      ⟨m, ch, d, d', rfl, hfirst, hsecond, hd⟩ | ⟨d', hextra, hatEnd, hfirst, hsecond, hended⟩
    · rw [emptyLines_of_none hlength hfirst, emptyLines_of_none hlength' hsecond]
      exact .same _ _ _ h.skipSpaces
    · obtain ⟨k, rfl⟩ := Nat.exists_eq_add_one.2 (by omega : 0 < k)
      obtain ⟨k', rfl⟩ := Nat.exists_eq_add_one.2 (by omega : 0 < k')
      rw [emptyLines, emptyLines, hfirst, hsecond]
      dsimp only
      rw [hd.atDocumentMark]
      split
      · exact .same _ _ _ (hd.mono (Nat.le_succ m))
      · exact (ih m (Nat.lt_succ_self m) hd (by omega) (by omega) _).mono (Nat.le_succ m)
    · obtain ⟨k', rfl⟩ := Nat.exists_eq_add_one.2 (by omega : 0 < k')
      rw [emptyLines_of_none hlength hfirst, emptyLines, hsecond]
      dsimp only
      rw [if_neg (by simp [Cursor.atDocumentMark_of_nil hended]), emptyLines_of_nil hended]
      exact .ended _ _ _ _ ⟨hatEnd, hended⟩

/-- White space at the same place of both texts. -/
theorem plainSpace_passes (h : Cursor.Placed p n c c') :
    PassesTwo p n (plainSpace c) (plainSpace c') := by
  rcases h.takeWhile (q := (· == ' ')) rfl rfl with ⟨d, d', hrun, hrun', hd⟩
  unfold plainSpace
  rw [hrun, hrun']
  dsimp only
  rcases hd.lineBreak?_cases with ⟨hfirst, hsecond, -⟩ |
    ⟨m, ch, e, e', rfl, hfirst, hsecond, he⟩ | ⟨e', -, hatEnd, hfirst, hsecond, hended⟩
  · rw [hfirst, hsecond]
    exact .same _ _ _ _ hd
  · rw [hfirst, hsecond]
    dsimp only
    rw [he.atDocumentMark]
    split
    · exact .same _ _ _ _ (he.mono (Nat.le_succ m))
    · have hlines := emptyLines_passes he.tight (Nat.le_refl _) he.length_rest.ge []
      generalize emptyLines e.rest.length [] e = x at hlines
      generalize emptyLines e'.rest.length [] e' = y at hlines
      cases hlines with
      | same lines f f' hf => exact .same _ _ _ _ (hf.mono (he.length.trans (Nat.le_succ m)))
      | ended lines lines' f f' hf => exact .ended _ _ _ _ _ _ hf
  · rw [hfirst, hsecond]
    dsimp only
    rw [if_neg (by simp [Cursor.atDocumentMark_of_nil hended]), emptyLines_of_nil hended]
    exact .ended _ _ _ _ _ _ ⟨hatEnd, hended⟩

/-! ## Plain scalars -/

/-- The part of a plain scalar without white space is the same in both texts. -/
theorem plainRun_text (s : Text) : plainRun inFlow (p.text s) = plainRun inFlow s := by
  induction s with
  | nil =>
    rcases p.text_nil with hnil | ⟨b, hb, hnil⟩
    · rw [hnil]
    · have hends : endsPlain inFlow b none = true :=
        Placement.class_of_isFeed (q := fun c => endsPlain inFlow c none) rfl hb
      rw [hnil]
      exact if_pos hends
  | cons x s ih =>
    have hafter : IgnoresFeeds (endsPlain inFlow x) := ⟨rfl, rfl⟩
    rw [p.text_cons, plainRun, plainRun,
      p.class_feed (q := fun c => endsPlain inFlow c (p.text s).head?) rfl, p.class_head? hafter, ih]
    split
    · rfl
    · next hends =>
      have hfeed : p.feed x = x :=
        p.feed_eq (q := fun c => !endsPlain inFlow c s.head?) rfl (by simpa using hends)
      rw [hfeed]

/-- A part of a plain scalar is no longer than what is left. -/
theorem length_plainRun_le (s : Text) : (plainRun inFlow s).length ≤ s.length := by
  induction s with
  | nil => exact Nat.le_refl _
  | cons x s ih =>
    rw [plainRun]
    split
    · exact Nat.zero_le _
    · exact Nat.succ_le_succ ih

/-- No plain scalar goes on without a part, or at a comment. -/
theorem plainFrom_stop (h : plainRun inFlow c.rest = [] ∨ c.peek = some '#') :
    plainFrom inFlow indent k value space lineEnded c = ⟨value, lineEnded, c⟩ := by
  cases k with
  | zero => rfl
  | succ k =>
    rw [plainFrom]
    exact if_pos h

/-- A plain scalar of which {lit}`value` has been read, given the white space behind that. -/
def plainRest (inFlow : Bool) (indent : Int) (fuel : Nat) (value : Text) :
    Option Text × Bool × Cursor → Plain
  | (none, lineEnded, c) | (some [], lineEnded, c) => ⟨value, lineEnded, c⟩
  | (some space, lineEnded, c) =>
    if !inFlow && (c.column : Int) < indent then ⟨value, lineEnded, c⟩
    else plainFrom inFlow indent fuel value space lineEnded c

/-- A plain scalar goes on with a part and the white space behind it. -/
theorem plainFrom_go (h : ¬(plainRun inFlow c.rest = [] ∨ c.peek = some '#')) :
    plainFrom inFlow indent (k + 1) value space lineEnded c =
      plainRest inFlow indent k (value ++ space ++ plainRun inFlow c.rest)
        (plainSpace (c.advance (plainRun inFlow c.rest).length)) := by
  rw [plainFrom]
  dsimp only
  rw [if_neg h]
  rcases plainSpace (c.advance (plainRun inFlow c.rest).length) with ⟨_ | _ | _, _, _⟩ <;> rfl

/-- Plain scalars with the same content. The cursors stand at the same place, or both texts have
ended. -/
inductive PlainAgrees (p : Placement) (n : Nat) : Plain → Plain → Prop where
  | same (value : Text) (lineEnded : Bool) (d d' : Cursor) (placed : Cursor.Placed p n d d') :
    PlainAgrees p n ⟨value, lineEnded, d⟩ ⟨value, lineEnded, d'⟩
  | ended (value : Text) (lineEnded lineEnded' : Bool) (d d' : Cursor)
    (ended : Cursor.Ended d d') : PlainAgrees p n ⟨value, lineEnded, d⟩ ⟨value, lineEnded', d'⟩

/-- A plain scalar does not go on at the end of a text. -/
theorem plainRest_of_nil (space : Option Text) (h : c.rest = []) :
    plainRest inFlow indent k value (space, lineEnded, c) = ⟨value, lineEnded, c⟩ := by
  match space with
  | none | some [] => rfl
  | some (x :: space) =>
    rw [plainRest, plainFrom_stop (.inl (by rw [h]; rfl)), ite_self]
    nofun

/-- Plain scalars that go on behind the same white space have the same content. -/
theorem plainRest_agree {x y : Option Text × Bool × Cursor} (h : PassesTwo p n x y)
    (hfrom : ∀ space lineEnded d d', Cursor.Placed p n d d' →
      PlainAgrees p n (plainFrom inFlow indent k value space lineEnded d)
        (plainFrom inFlow indent k' value space lineEnded d')) :
    PlainAgrees p n (plainRest inFlow indent k value x) (plainRest inFlow indent k' value y) := by
  cases h with
  | same space lineEnded d d' hd =>
    match space with
    | none | some [] => exact .same _ _ _ _ hd
    | some (x :: space) =>
      rw [plainRest, plainRest, hd.column]
      · split
        · exact .same _ _ _ _ hd
        · exact hfrom _ _ _ _ hd
      all_goals nofun
  | ended space space' lineEnded lineEnded' d d' hd =>
    rw [plainRest_of_nil _ hd.1, plainRest_of_nil _ hd.2]
    exact .ended _ _ _ _ _ hd

theorem PlainAgrees.mono {m : Nat} {x y : Plain} (h : PlainAgrees p m x y) (hmn : m ≤ n) :
    PlainAgrees p n x y := by
  cases h with
  | same value lineEnded d d' hd => exact .same _ _ _ _ (hd.mono hmn)
  | ended value lineEnded lineEnded' d d' hd => exact .ended _ _ _ _ _ hd

/-- What stands behind a part of a plain scalar is at the same place of both texts. -/
theorem plainRun_passes (h : Cursor.Placed p (n + 1) c c') (hrun : plainRun inFlow c.rest ≠ []) :
    PassesTwo p n (plainSpace (c.advance (plainRun inFlow c.rest).length))
      (plainSpace (c'.advance (plainRun inFlow c.rest).length)) :=
  plainSpace_passes (h.advance_pos (List.length_pos_iff.2 hrun) (length_plainRun_le c.rest))

/-- Plain scalars that go on at the same place of both texts have the same content. -/
theorem plainFrom_agree (h : Cursor.Placed p n c c') (hk : n ≤ k) (hk' : n + p.extra ≤ k') :
    PlainAgrees p n (plainFrom inFlow indent k value space lineEnded c)
      (plainFrom inFlow indent k' value space lineEnded c') := by
  induction n using Nat.strong_induction_on generalizing k k' c c' value space lineEnded with
  | _ n ih =>
    have hstops : (plainRun inFlow c'.rest = [] ∨ c'.peek = some '#') ↔
        (plainRun inFlow c.rest = [] ∨ c.peek = some '#') := by
      rw [h.rest, plainRun_text, h.peek_eq rfl]
    by_cases hstop : plainRun inFlow c.rest = [] ∨ c.peek = some '#'
    · rw [plainFrom_stop hstop, plainFrom_stop (hstops.2 hstop)]
      exact .same _ _ _ _ h
    · have hrun := (not_or.1 hstop).1
      have hpos := (List.length_pos_iff.2 hrun).trans_le (length_plainRun_le c.rest)
      obtain ⟨m, rfl⟩ := Nat.exists_eq_add_one.2 (hpos.trans_le h.length)
      obtain ⟨k, rfl⟩ := Nat.exists_eq_add_one.2 (by omega : 0 < k)
      obtain ⟨k', rfl⟩ := Nat.exists_eq_add_one.2 (by omega : 0 < k')
      rw [plainFrom_go hstop, plainFrom_go (mt hstops.1 hstop), h.rest, plainRun_text]
      refine (plainRest_agree (plainRun_passes h hrun) ?_).mono (Nat.le_succ m)
      intro space lineEnded d d' hd
      exact ih m (Nat.lt_succ_self m) hd (by omega) (by omega)

/-- A plain scalar that begins at the same place of both texts has the same content, and takes a
character. -/
theorem readPlain_agree (h : Cursor.Placed p (n + 1) c c')
    (hstart : ¬(plainRun inFlow c.rest = [] ∨ c.peek = some '#')) (indent : Int) :
    PlainAgrees p n (readPlain inFlow indent c) (readPlain inFlow indent c') := by
  have hrun := (not_or.1 hstart).1
  have hstart' : ¬(plainRun inFlow c'.rest = [] ∨ c'.peek = some '#') := by
    rwa [h.rest, plainRun_text, h.peek_eq rfl]
  have htight := h.tight
  have hlength' := h.length_rest
  have hpos := (List.length_pos_iff.2 hrun).trans_le (length_plainRun_le c.rest)
  obtain ⟨m, hm⟩ := Nat.exists_eq_add_one.2 hpos
  have hmn : m ≤ n := by
    have hlength := h.length
    omega
  have hm' : c'.rest.length = m + p.extra + 1 := by omega
  rw [hm] at htight
  rw [readPlain, readPlain, hm, hm', plainFrom_go hstart, plainFrom_go hstart', h.rest,
    plainRun_text]
  refine (plainRest_agree (plainRun_passes htight hrun) ?_).mono hmn
  intro space lineEnded d d' hd
  exact plainFrom_agree hd (Nat.le_refl m) (Nat.le_refl _)

/-! ## White space in quotes -/

/-- A reading that fails, or that reaches the end of its text. -/
def EndsText (x : Except Fault (α × Cursor)) : Prop :=
  x = .error .malformed ∨ ∃ a d, x = .ok (a, d) ∧ d.rest = []

/-- No empty line is left at the end of a text. -/
theorem quotedEmptyLines_of_nil (h : c.rest = []) :
    quotedEmptyLines k breaks c = .ok (breaks, c) := by
  cases k with
  | zero => rfl
  | succ k =>
    rw [quotedEmptyLines, if_neg (by simp [Cursor.atDocumentMark_of_nil h]),
      Cursor.skipWhile_of_nil h]
    simp only [Cursor.lineBreak?_of_nil h]

/-- The empty lines at the same place of both texts. -/
theorem quotedEmptyLines_agree (h : Cursor.Placed p n c c') (hk : n < k) (hk' : n + p.extra < k')
    (breaks : Text) :
    Agree (Passes p n) (quotedEmptyLines k breaks c) (quotedEmptyLines k' breaks c') := by
  induction k generalizing n k' c c' breaks with
  | zero => cases hk
  | succ k ih =>
    obtain ⟨k', rfl⟩ := Nat.exists_eq_add_one.2 (by omega : 0 < k')
    rw [quotedEmptyLines, quotedEmptyLines]
    refine Agree.ite (by rw [h.atDocumentMark]) (fun _ => .error _) fun _ => ?_
    have hskip := h.skipWhile (q := fun ch => ch == ' ' || ch == '\t') rfl rfl
    rcases hskip.lineBreak?_cases with ⟨hfirst, hsecond, -⟩ |
      ⟨m, ch, d, d', rfl, hfirst, hsecond, hd⟩ | ⟨d', hextra, hatEnd, hfirst, hsecond, hended⟩
    · simp only [hfirst, hsecond]
      exact .ok (.same _ _ _ hskip)
    · simp only [hfirst, hsecond]
      exact (ih hd (by omega) (by omega) _).mono fun _ _ hx => hx.mono (Nat.le_succ m)
    · simp only [hfirst, hsecond]
      rw [quotedEmptyLines_of_nil hended]
      exact .ok (.ended _ _ _ _ ⟨hatEnd, hended⟩)

/-- A space or a tab. -/
def isSpaceOrTab (c : Char) : Bool := c == ' ' || c == '\t'

/-- Readings that agree, or that all fail or reach the end of their texts. -/
def QuotedAgrees (p : Placement) (n : Nat) (x y : Except Fault (α × Cursor)) : Prop :=
  Agree (Reads p n) x y ∨ EndsText x ∧ EndsText y

/-- Readings agree that pass over the same, or end both texts. -/
theorem QuotedAgrees.of_passes {x y : Except Fault (α × Cursor)} (h : Agree (Passes p n) x y) :
    QuotedAgrees p n x y := by
  cases h with
  | error e => exact .inl (.error e)
  | ok related =>
    cases related with
    | same a d d' hd => exact .inl (.ok (.mk _ _ _ hd))
    | ended a b d d' hd => exact .inr ⟨.inr ⟨_, _, rfl, hd.1⟩, .inr ⟨_, _, rfl, hd.2⟩⟩

/-- A reading that ends its text does so for whatever is made of its value. -/
theorem EndsText.map {x : Except Fault (α × Cursor)} (h : EndsText x) (f : α → β) :
    EndsText (x >>= fun a => .ok (f a.1, a.2)) := by
  rcases h with rfl | ⟨a, d, rfl, hd⟩
  · exact .inl rfl
  · exact .inr ⟨_, _, rfl, hd⟩

/-- Readings that agree do so for whatever is made of their values. -/
theorem QuotedAgrees.map {x y : Except Fault (α × Cursor)} (h : QuotedAgrees p n x y)
    (f : α → β) :
    QuotedAgrees p n (x >>= fun a => .ok (f a.1, a.2)) (y >>= fun a => .ok (f a.1, a.2)) := by
  rcases h with h | ⟨hx, hy⟩
  · refine .inl (h.bind ?_)
    rintro _ _ ⟨a, d, d', hd⟩
    exact .ok (.mk _ _ _ hd)
  · exact .inr ⟨hx.map f, hy.map f⟩

/-- The white space in quotes, of which the part on the first line has been read. -/
def quotedSpaceFrom (spaces : Text) (c : Cursor) : Except Fault (Text × Cursor) :=
  match c.rest with
  | [] => .error .malformed
  | _ =>
    match c.lineBreak? with
    | none => .ok (spaces, c)
    | some (ch, c) => do
      let (breaks, c) ← quotedEmptyLines (c.rest.length + 1) [] c
      .ok (foldBreak ch breaks, c)

theorem quotedSpaceFrom_of_nil (h : c.rest = []) : quotedSpaceFrom s c = .error .malformed := by
  rw [quotedSpaceFrom, h]

theorem quotedSpaceFrom_of_none (hne : c.rest ≠ []) (h : c.lineBreak? = none) :
    quotedSpaceFrom s c = .ok (s, c) := by
  unfold quotedSpaceFrom
  split
  · next hnil => exact absurd hnil hne
  · rw [h]

theorem quotedSpaceFrom_of_some {ch : Char} {d : Cursor} (h : c.lineBreak? = some (ch, d)) :
    quotedSpaceFrom s c = quotedEmptyLines (d.rest.length + 1) [] d >>= fun a =>
      .ok (foldBreak ch a.1, a.2) := by
  unfold quotedSpaceFrom
  split
  · next hnil =>
    rw [Cursor.lineBreak?_of_nil hnil] at h
    cases h
  · rw [h]

/-- White space in quotes agrees behind the part on its first line. It takes a character, unless that
part has taken one. -/
theorem quotedSpaceFrom_agree (h : Cursor.Placed p (n + 1) c c')
    (hnone : c.lineBreak? = none → Cursor.Placed p n c c') :
    QuotedAgrees p n (quotedSpaceFrom s c) (quotedSpaceFrom s c') := by
  rcases h.lineBreak?_cases with ⟨hfirst, hsecond, hatEnd⟩ |
    ⟨m, ch, d, d', hbound, hfirst, hsecond, hd⟩ | ⟨d', -, hatEnd, hfirst, hsecond, hended⟩
  · by_cases hnil : c.rest = []
    · rw [quotedSpaceFrom_of_nil hnil, quotedSpaceFrom_of_nil (hatEnd hnil)]
      exact .inl (.error _)
    · rw [quotedSpaceFrom_of_none hnil hfirst,
        quotedSpaceFrom_of_none (mt h.rest_eq_nil hnil) hsecond]
      exact .inl (.ok (.mk _ _ _ (hnone hfirst)))
  · cases hbound
    have hlines := quotedEmptyLines_agree hd.tight (Nat.lt_succ_self _) hd.length_lt []
    rw [quotedSpaceFrom_of_some hfirst, quotedSpaceFrom_of_some hsecond]
    exact (QuotedAgrees.of_passes (hlines.mono fun _ _ hx => hx.mono hd.length)).map (foldBreak ch)
  · rw [quotedSpaceFrom_of_nil hatEnd, quotedSpaceFrom_of_some hsecond,
      quotedEmptyLines_of_nil hended]
    exact .inr ⟨.inl rfl, .inr ⟨_, _, rfl, hended⟩⟩

/-- White space in quotes is the part on its first line and what follows that. -/
theorem quotedSpace_eq (c : Cursor) :
    quotedSpace c = quotedSpaceFrom (c.rest.takeWhile isSpaceOrTab) (c.skipWhile isSpaceOrTab) := rfl

/-- White space in quotes at the end of the text that is placed is not closed in either text. -/
theorem quotedSpace_of_nil (h : Cursor.Placed p n c c') (hnil : c.rest = []) :
    EndsText (quotedSpace c') := by
  have hskip := h.skipWhile (q := isSpaceOrTab) rfl rfl
  have hagree := quotedSpaceFrom_agree (s := c.rest.takeWhile isSpaceOrTab)
    (hskip.mono (Nat.le_succ n)) fun _ => hskip
  rw [← h.run rfl rfl, ← quotedSpace_eq c', Cursor.skipWhile_of_nil hnil,
    quotedSpaceFrom_of_nil hnil] at hagree
  rcases hagree with hagree | ⟨-, hends⟩
  · generalize quotedSpace c' = y at hagree
    cases hagree with
    | error e => exact .inl rfl
  · exact hends

/-- White space in quotes is the same in both texts, and takes a character. -/
theorem quotedSpace_agree {x : Char} (h : Cursor.Placed p (n + 1) c c') (hpeek : c.peek = some x)
    (hx : isBlankOrEnd (some x) = true) :
    QuotedAgrees p n (quotedSpace c) (quotedSpace c') := by
  rcases List.head?_eq_some_iff.1 hpeek with ⟨rest, hrest⟩
  have hskip := h.skipWhile (q := isSpaceOrTab) rfl rfl
  rw [quotedSpace_eq, quotedSpace_eq, h.run rfl rfl]
  refine quotedSpaceFrom_agree hskip fun hnone => ?_
  by_cases hspace : isSpaceOrTab x = true
  · refine h.skipWhile_pos rfl rfl rfl ?_
    rw [hrest, List.takeWhile_cons_of_pos hspace]
    exact List.cons_ne_nil _ _
  · -- the text goes on with a line break
    have hself : c.skipWhile isSpaceOrTab = c :=
      Cursor.skipWhile_of_run_nil (by rw [hrest, List.takeWhile_cons_of_neg hspace])
    have hbreak : isBreak x = true := by
      rw [isBlankOrEnd, Bool.or_assoc, Bool.or_eq_true] at hx
      exact hx.resolve_right hspace
    have hreturn : x ≠ '\r' := by
      rintro rfl
      exact h.noReturn (hrest ▸ List.mem_cons_self)
    rw [hself, Cursor.lineBreak?_of_cons hrest hreturn, if_pos hbreak] at hnone
    cases hnone

/-! ## Quoted scalars -/

/-- A character that stands for itself in quotes of both kinds. -/
def isOrdinary (c : Char) : Bool :=
  !(isBlankOrEnd (some c) || c == '\'' || c == '"' || c == '\\')

/-- The escape at a cursor on a character. -/
theorem readEscape_of_cons {x : Char} {rest : Text} (hrest : c.rest = x :: rest) :
    readEscape c =
      match escapedChar? x, escapeWidth? x with
      | some escaped, _ => .ok ([escaped], c.next)
      | none, some width =>
        if (rest.take width).length = width ∧ (rest.take width).all Text.isHexDigit = true then
          codePoint (rest.take width) >>= fun escaped => .ok ([escaped], c.advance (width + 1))
        else .error .malformed
      | none, none =>
        match c.lineBreak? with
        | none => .error .malformed
        | some (_, c) => quotedEmptyLines (c.rest.length + 1) [] c := by
  unfold readEscape
  rewrite [hrest]
  rfl

/-- The digits of an escape are the same in both texts. -/
theorem readEscape_digits (h : Cursor.Placed p n c c') {x : Char} {rest : Text} {width : Nat}
    (hrest : c.rest = x :: rest) :
    Agree (Reads p n)
      (if (rest.take width).length = width ∧ (rest.take width).all Text.isHexDigit = true then
        codePoint (rest.take width) >>= fun ch => .ok ([ch], c.advance (width + 1))
      else .error .malformed)
      (if ((p.text rest).take width).length = width ∧
          ((p.text rest).take width).all Text.isHexDigit = true then
        codePoint ((p.text rest).take width) >>= fun ch => .ok ([ch], c'.advance (width + 1))
      else .error .malformed) := by
  rcases p.take_text (q := Text.isHexDigit) rfl rfl width rest with ⟨hiff, hsame⟩
  refine Agree.ite hiff (fun hdigits => ?_) fun _ => .error _
  rw [(hsame hdigits).1]
  refine (Agree.refl (codePoint (rest.take width))).bind ?_
  rintro ch _ rfl
  refine .ok (.mk _ _ _ (h.advance ?_))
  rw [hrest, List.length_cons, ← hdigits.1]
  exact Nat.succ_le_succ (List.length_take_le' width rest)

/-- The escape at the same place of both texts. -/
theorem readEscape_agree (h : Cursor.Placed p n c c') :
    QuotedAgrees p n (readEscape c) (readEscape c') := by
  cases hrest : c.rest with
  | nil =>
    have hfirst : readEscape c = .error .malformed := by
      unfold readEscape
      rw [hrest]
    rcases p.text_nil with hnil | ⟨b, hb, hnil⟩
    · have hsecond : readEscape c' = .error .malformed := by
        unfold readEscape
        rw [h.rest, hrest, hnil]
      rw [hfirst, hsecond]
      exact .inl (.error _)
    · have hrest' : c'.rest = [b] := by rw [h.rest, hrest, hnil]
      have hescaped : escapedChar? b = none := Placement.class_of_isFeed rfl hb
      have hwidth : escapeWidth? b = none := Placement.class_of_isFeed rfl hb
      have hbreak : isBreak b = true := Placement.class_of_isFeed (q := isBreak) rfl hb
      have hreturn : b ≠ '\r' := by
        rintro rfl
        cases hb
      have hended : c'.next.rest = [] := by rw [Cursor.rest_next, hrest', List.tail_cons]
      rw [hfirst, readEscape_of_cons hrest', hescaped, hwidth,
        Cursor.lineBreak?_of_cons hrest' hreturn, if_pos hbreak]
      exact .inr ⟨.inl rfl, .inr ⟨_, _, quotedEmptyLines_of_nil hended, hended⟩⟩
  | cons x rest =>
    have hrest' : c'.rest = p.feed x :: p.text rest := by rw [h.rest, hrest, p.text_cons]
    rw [readEscape_of_cons hrest, readEscape_of_cons hrest',
      p.class_feed (q := escapedChar?) rfl, p.class_feed (q := escapeWidth?) rfl]
    cases escapedChar? x with
    | some escaped => exact .inl (.ok (.mk _ _ _ (h.step (by simp [hrest]))))
    | none =>
      cases escapeWidth? x with
      | some width => exact .inl (readEscape_digits h hrest)
      | none =>
        rcases h.lineBreak?_cases with ⟨hfirst, hsecond, -⟩ |
          ⟨m, ch, d, d', rfl, hfirst, hsecond, hd⟩ | ⟨d', -, hatEnd, -, -, -⟩
        · rw [hfirst, hsecond]
          exact .inl (.error _)
        · have hlines := quotedEmptyLines_agree hd.tight (Nat.lt_succ_self _) hd.length_lt []
          rw [hfirst, hsecond]
          exact .of_passes (hlines.mono fun _ _ hx => hx.mono (hd.length.trans (Nat.le_succ m)))
        · rw [hrest] at hatEnd
          cases hatEnd

/-- No quoted scalar is closed at the end of a text. -/
theorem quotedFrom_of_nil {quote : Char} (h : c.rest = []) :
    quotedFrom quote k value c = .error .malformed := by
  cases k with
  | zero => rfl
  | succ k => rw [quotedFrom, h]

/-- No quoted scalar is closed behind a reading that reaches the end of its text. -/
theorem quotedFrom_of_endsText {quote : Char} {x : Except Fault (Text × Cursor)} (h : EndsText x) :
    (x >>= fun a => quotedFrom quote k (value ++ a.1) a.2) = .error .malformed := by
  rcases h with rfl | ⟨a, d, rfl, hd⟩
  · rfl
  · exact quotedFrom_of_nil hd

/-- The quoted scalar at a cursor on a character, by what the character is. -/
theorem quotedFrom_of_cons {quote x : Char} {rest : Text} (hrest : c.rest = x :: rest) :
    quotedFrom quote (k + 1) value c =
      if x = quote then
        if quote = '\'' ∧ rest.head? = some '\'' then
          quotedFrom quote k (value ++ ['\'']) (c.advance 2)
        else .ok (value, c.next)
      else if x = '\\' ∧ quote = '"' then
        readEscape c.next >>= fun a => quotedFrom quote k (value ++ a.1) a.2
      else if isBlankOrEnd (some x) = true then
        quotedSpace c >>= fun a => quotedFrom quote k (value ++ a.1) a.2
      else if c.rest.takeWhile isOrdinary = [] then
        quotedFrom quote k (value ++ [x]) (c.skipWhile isOrdinary).next
      else
        quotedFrom quote k (value ++ c.rest.takeWhile isOrdinary) (c.skipWhile isOrdinary) := by
  rw [quotedFrom, hrest]
  dsimp only
  unfold Cursor.skipWhile Cursor.takeWhile
  rw [hrest]
  rfl

/-- No quoted scalar is closed in the larger text behind the one that is placed in it. -/
theorem quotedFrom_of_placed_nil {quote : Char} (hquote : isFeed quote = false)
    (h : Cursor.Placed p n c c') (hnil : c.rest = []) :
    quotedFrom quote k value c' = .error .malformed := by
  rcases p.text_nil with htext | ⟨b, hb, htext⟩
  · exact quotedFrom_of_nil (by rw [h.rest, hnil, htext])
  · have hrest' : c'.rest = [b] := by rw [h.rest, hnil, htext]
    have hne : b ≠ quote := by
      rintro rfl
      rw [hb] at hquote
      cases hquote
    have hslash : b ≠ '\\' := by
      rintro rfl
      cases hb
    have hblank : isBlankOrEnd (some b) = true :=
      Placement.class_of_isFeed (q := fun c => isBlankOrEnd (some c)) rfl hb
    cases k with
    | zero => rfl
    | succ k =>
      rw [quotedFrom_of_cons hrest', if_neg hne, if_neg (by simp [hslash]), if_pos hblank]
      exact quotedFrom_of_endsText (quotedSpace_of_nil h hnil)

/-- Quoted scalars that have been read alike go on alike. -/
theorem quotedFrom_agree {quote : Char} (hquote : isFeed quote = false)
    (h : Cursor.Placed p n c c') (hk : n < k) (hk' : n + p.extra < k') :
    Agree (Reads p n) (quotedFrom quote k value c) (quotedFrom quote k' value c') := by
  induction k generalizing n k' c c' value with
  | zero => cases hk
  | succ k ih =>
    obtain ⟨k', rfl⟩ := Nat.exists_eq_add_one.2 (by omega : 0 < k')
    cases hrest : c.rest with
    | nil =>
      rw [quotedFrom_of_nil hrest, quotedFrom_of_placed_nil hquote h hrest]
      exact .error _
    | cons x rest =>
      have hrest' : c'.rest = p.feed x :: p.text rest := by rw [h.rest, hrest, p.text_cons]
      have hlength := h.length
      rw [hrest, List.length_cons] at hlength
      obtain ⟨m, rfl⟩ := Nat.exists_eq_add_one.2 (by omega : 0 < n)
      have hne : c.rest ≠ [] := by simp [hrest]
      -- behind at least one character the scalars go on alike
      have hgo : ∀ {value : Text} {d d' : Cursor}, Cursor.Placed p m d d' →
          Agree (Reads p (m + 1)) (quotedFrom quote k value d) (quotedFrom quote k' value d') :=
        fun hd => (ih hd (by omega) (by omega)).mono fun _ _ hreads => hreads.mono (Nat.le_succ m)
      have hbind : ∀ {x y : Except Fault (Text × Cursor)}, QuotedAgrees p m x y →
          Agree (Reads p (m + 1)) (x >>= fun a => quotedFrom quote k (value ++ a.1) a.2)
            (y >>= fun a => quotedFrom quote k' (value ++ a.1) a.2) := by
        rintro x y (hxy | ⟨hx, hy⟩)
        · refine hxy.bind ?_
          rintro _ _ ⟨a, d, d', hd⟩
          exact hgo hd
        · rw [quotedFrom_of_endsText hx, quotedFrom_of_endsText hy]
          exact .error _
      have hnext := h.next hne
      rw [quotedFrom_of_cons hrest, quotedFrom_of_cons hrest', h.run rfl rfl]
      refine Agree.ite (p.feed_eq_iff hquote) (fun _ => ?_) fun _ => ?_
      · refine Agree.ite (by rw [head?_text_eq rfl]) (fun hquotes => ?_) fun _ => ?_
        · have htwo : 2 ≤ c.rest.length := by
            rcases List.head?_eq_some_iff.1 hquotes.2 with ⟨others, hothers⟩
            simp [hrest, hothers]
          exact hgo (h.advance_pos Nat.two_pos htwo)
        · exact .ok (.mk _ _ _ (hnext.mono (Nat.le_succ m)))
      refine Agree.ite (by rw [p.feed_eq_iff rfl]) (fun _ => ?_) fun _ => ?_
      · exact hbind (readEscape_agree hnext)
      refine Agree.ite (by rw [p.class_feed (q := fun c => isBlankOrEnd (some c)) rfl])
        (fun hblank => ?_) fun hblank => ?_
      · exact hbind (quotedSpace_agree h (List.head?_eq_some_iff.2 ⟨rest, hrest⟩) hblank)
      refine Agree.ite Iff.rfl (fun hrun => ?_) fun hrun => ?_
      · have hfeed : p.feed x = x :=
          p.feed_eq (q := fun c => !isBlankOrEnd (some c)) rfl (by simpa using hblank)
        have hrun' : c'.rest.takeWhile isOrdinary = [] := by rw [h.run rfl rfl, hrun]
        rw [hfeed, Cursor.skipWhile_of_run_nil hrun, Cursor.skipWhile_of_run_nil hrun']
        exact hgo hnext
      · exact hgo (h.skipWhile_pos rfl rfl rfl hrun)

/-- Quoted scalars that begin at the same place of both texts are the same. -/
theorem readQuoted_agree {quote : Char} (hquote : isFeed quote = false)
    (h : Cursor.Placed p (n + 1) c c') (hpeek : c.peek = some quote) :
    Agree (Reads p n) (readQuoted c) (readQuoted c') := by
  rcases List.head?_eq_some_iff.1 hpeek with ⟨rest, hrest⟩
  have hfeed : p.feed quote = quote := (p.feed_eq_iff hquote).2 rfl
  have hrest' : c'.rest = quote :: p.text rest := by rw [h.rest, hrest, p.text_cons, hfeed]
  have hlength := h.length
  rw [hrest, List.length_cons, Nat.add_le_add_iff_right] at hlength
  have hnext := (h.next (by simp [hrest])).tight
  rw [Cursor.rest_next, hrest, List.tail_cons] at hnext
  unfold readQuoted
  rw [hrest, hrest']
  dsimp only
  refine (quotedFrom_agree hquote hnext (Nat.lt_succ_self _) ?_).mono
    fun _ _ hreads => hreads.mono hlength
  rw [p.length_text]
  exact Nat.lt_succ_self _

end Yaml
end DocMarkup
