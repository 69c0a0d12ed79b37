import DocMarkup.Proofs.Yaml.Placed.Token
import DocMarkup.Yaml.Scalar.Block

/-!
# Block scalars in placed texts

A block scalar is the same in both texts, unless it reaches the line break behind the text that is
placed. There it ends both texts, and in the larger one it may have that line break as its last
character.

Main definitions:

- {lit}`Yaml.BlockReads`: block scalars that are the same but for the line break behind the text.

Main results:

- Theorem {lit}`Yaml.readBlock_agree`: block scalars at the same place of both texts.
-/

namespace DocMarkup
namespace Yaml

variable {p : Placement} {m n k k' : Nat} {c c' : Cursor} {s value breaks : Text} {folded : Bool}
  {indent deepest : Nat} {α β : Type}

/-! ## Headers -/

theorem ignoresFeeds_chompingOf? : IgnoresFeeds chompingOf? := ⟨rfl, rfl⟩

theorem ignoresFeeds_incrementOf? : IgnoresFeeds incrementOf? := ⟨rfl, rfl⟩

/-- A sign of a header is a character. -/
theorem rest_ne_nil_of_chomping {chomping : Chomping} (h : chompingOf? c.peek = some chomping) :
    c.rest ≠ [] := by
  intro hnil
  rw [Cursor.peek, hnil] at h
  cases h

/-- A digit of a header is a character. -/
theorem rest_ne_nil_of_increment {increment : Option Nat}
    (h : incrementOf? c.peek = .ok increment) (hsome : increment.isSome = true) : c.rest ≠ [] := by
  intro hnil
  rw [Cursor.peek, hnil] at h
  cases h
  cases hsome

/-- The signs of a header are the same in both texts. -/
theorem blockSigns_agree (h : Cursor.Placed p n c c') :
    Agree (ReadsTwo p n) (blockSigns c) (blockSigns c') := by
  unfold blockSigns
  rw [h.peek ignoresFeeds_chompingOf?]
  cases hchomping : chompingOf? c.peek with
  | some chomping =>
    have hnext := h.step (rest_ne_nil_of_chomping hchomping)
    dsimp only
    rw [hnext.peek ignoresFeeds_incrementOf?]
    cases hincrement : incrementOf? c.next.peek with
    | error e => exact .error e
    | ok increment =>
      cases increment with
      | none => exact .ok (.mk _ _ _ _ hnext)
      | some increment =>
        exact .ok (.mk _ _ _ _ (hnext.step (rest_ne_nil_of_increment hincrement rfl)))
  | none =>
    dsimp only
    rw [h.peek ignoresFeeds_incrementOf?]
    cases hincrement : incrementOf? c.peek with
    | error e => exact .error e
    | ok increment =>
      cases increment with
      | none => exact .ok (.mk _ _ _ _ h)
      | some increment =>
        have hnext := h.step (rest_ne_nil_of_increment hincrement rfl)
        dsimp only [bind, Except.bind, Option.isSome]
        rw [if_pos rfl, if_pos rfl, hnext.peek ignoresFeeds_chompingOf?]
        cases hchomping : chompingOf? c.next.peek with
        | none => exact .ok (.mk _ _ _ _ hnext)
        | some chomping =>
          exact .ok (.mk _ _ _ _ (hnext.step (rest_ne_nil_of_chomping hchomping)))

/-- The same two values, with cursors at the same place or behind the end of both texts. -/
inductive FollowsTwo (p : Placement) (n : Nat) : α × β × Cursor → α × β × Cursor → Prop where
  | mk (a : α) (b : β) (d d' : Cursor) (follows : Cursor.Follows p n d d') :
    FollowsTwo p n (a, b, d) (a, b, d')

/-- The header of a block scalar is the same in both texts. -/
theorem blockHeader_agree (h : Cursor.Placed p n c c') :
    Agree (FollowsTwo p n) (blockHeader c) (blockHeader c') := by
  unfold blockHeader
  refine (blockSigns_agree h).bind ?_
  rintro _ _ ⟨chomping, increment, d, d', hd⟩
  refine Agree.ite (by rw [hd.peek ignoresFeeds_endsWord]) (fun _ => ?_) fun _ => .error _
  refine (restOfLine_agree hd).bind ?_
  intro e e' he
  exact .ok (.mk _ _ _ _ he)

/-! ## Empty lines -/

/-- Spaces up to a column are passed over in both texts. -/
theorem skipIndentation_placed (h : Cursor.Placed p n c c') (indent : Nat) :
    Cursor.Placed p n (skipIndentation indent c) (skipIndentation indent c') := by
  unfold skipIndentation
  rw [h.rest, h.column, p.takeWhile_take_text rfl rfl]
  exact h.advance ((List.takeWhile_sublist _).trans (List.take_sublist _ _)).length_le

/-- Empty lines have been passed over: the same in both texts, or one more in the larger text, which
is the line break behind the other. -/
inductive Opens (p : Placement) (n : Nat) : Nat × Text × Cursor → Nat × Text × Cursor → Prop where
  | same (column : Nat) (breaks : Text) (d d' : Cursor) (placed : Cursor.Placed p n d d')
    (atEnd : d.rest = [] → d'.rest = []) : Opens p n (column, breaks, d) (column, breaks, d')
  | behind (column column' : Nat) (breaks : Text) (d d' : Cursor) (extra : 0 < p.extra)
    (ended : Cursor.Ended d d') :
    Opens p n (column, breaks, d) (column', breaks ++ ['\n'], d')

theorem Opens.mono {x y : Nat × Text × Cursor} (h : Opens p m x y) (hmn : m ≤ n) :
    Opens p n x y := by
  cases h with
  | same column breaks d d' hd hend => exact .same _ _ _ _ (hd.mono hmn) hend
  | behind column column' breaks d d' hextra hd => exact .behind _ _ _ _ _ hextra hd

/-- No empty line is left at the end of a text. -/
theorem blockBreaks_of_nil (h : c.rest = []) :
    blockBreaks indent k breaks c = (breaks, c) := by
  have hskip : skipIndentation indent c = c := by
    unfold skipIndentation
    rw [h, List.take_nil]
    rfl
  cases k with
  | zero => rfl
  | succ k =>
    rw [blockBreaks, hskip]
    simp only [Cursor.lineBreak?_of_nil h]

/-- No empty line is left at the end of a text. -/
theorem blockIndentation_of_nil (h : c.rest = []) (k : Nat) (breaks : Text) (deepest : Nat) :
    ∃ column, blockIndentation k breaks deepest c = (breaks, column, c) := by
  cases k with
  | zero => exact ⟨_, rfl⟩
  | succ k =>
    refine ⟨max deepest c.column, ?_⟩
    rw [blockIndentation, Cursor.skipSpaces, Cursor.skipWhile_of_nil h]
    simp only [Cursor.lineBreak?_of_nil h]

/-- The empty lines of a known indentation at the same place of both texts. -/
theorem blockBreaks_opens (h : Cursor.Placed p n c c') (hk : n < k) (hk' : n + p.extra < k')
    (breaks : Text) (indent : Nat) :
    Opens p n (indent, blockBreaks indent k breaks c) (indent, blockBreaks indent k' breaks c') := by
  induction k generalizing n k' c c' breaks with
  | zero => cases hk
  | succ k ih =>
    obtain ⟨k', rfl⟩ := Nat.exists_eq_add_one.2 (by omega : 0 < k')
    have hskip := skipIndentation_placed h indent
    rw [blockBreaks, blockBreaks]
    rcases hskip.lineBreak?_cases with ⟨hfirst, hsecond, hatEnd⟩ |
      ⟨m, ch, d, d', rfl, hfirst, hsecond, hd⟩ | ⟨d', hextra, hatEnd, hfirst, hsecond, hended⟩
    · simp only [hfirst, hsecond]
      exact .same _ _ _ _ hskip hatEnd
    · simp only [hfirst, hsecond]
      exact (ih hd (by omega) (by omega) _).mono (Nat.le_succ m)
    · simp only [hfirst, hsecond]
      rw [blockBreaks_of_nil hended]
      exact .behind _ _ _ _ _ hextra ⟨hatEnd, hended⟩

/-- The empty lines in front of the first line of text at the same place of both texts. -/
theorem blockIndentation_opens (h : Cursor.Placed p n c c') (hk : n < k) (hk' : n + p.extra < k')
    (breaks : Text) (deepest : Nat) :
    Opens p n
      ((blockIndentation k breaks deepest c).2.1, (blockIndentation k breaks deepest c).1,
        (blockIndentation k breaks deepest c).2.2)
      ((blockIndentation k' breaks deepest c').2.1, (blockIndentation k' breaks deepest c').1,
        (blockIndentation k' breaks deepest c').2.2) := by
  induction k generalizing n k' c c' breaks deepest with
  | zero => cases hk
  | succ k ih =>
    obtain ⟨k', rfl⟩ := Nat.exists_eq_add_one.2 (by omega : 0 < k')
    have hskip := h.skipSpaces
    rw [blockIndentation, blockIndentation, hskip.column]
    rcases hskip.lineBreak?_cases with ⟨hfirst, hsecond, hatEnd⟩ |
      ⟨m, ch, d, d', rfl, hfirst, hsecond, hd⟩ | ⟨d', hextra, hatEnd, hfirst, hsecond, hended⟩
    · simp only [hfirst, hsecond]
      exact .same _ _ _ _ hskip hatEnd
    · simp only [hfirst, hsecond]
      exact (ih hd (by omega) (by omega) _ _).mono (Nat.le_succ m)
    · simp only [hfirst, hsecond]
      rcases blockIndentation_of_nil hended k' (breaks ++ ['\n'])
        (max deepest c.skipSpaces.column) with ⟨column, hnil⟩
      rw [hnil]
      exact .behind _ _ _ _ _ hextra ⟨hatEnd, hended⟩

/-! ## Lines of text -/

/-- The line breaks behind a text without CR are the only place where a run of other characters
ends. -/
theorem rest_eq_nil_of_none (hreturn : '\r' ∉ c.rest)
    (h : (c.skipWhile (!isBreak ·)).lineBreak? = none) : (c.skipWhile (!isBreak ·)).rest = [] := by
  cases hrest : (c.skipWhile (!isBreak ·)).rest with
  | nil => rfl
  | cons x rest =>
    have hdrop := hrest
    rw [Cursor.rest_skipWhile] at hdrop
    have hbreak : isBreak x = true := by
      have hhead := List.head?_dropWhile_not (!isBreak ·) c.rest
      simpa [hdrop] using hhead
    have hx : x ≠ '\r' := by
      rintro rfl
      refine hreturn ((List.dropWhile_sublist (!isBreak ·)).subset ?_)
      rw [hdrop]
      exact List.mem_cons_self
    rw [Cursor.lineBreak?_of_cons hrest hx, if_pos hbreak] at h
    cases h

/-- The lines of a block scalar behind a line of text, given the empty lines there. -/
def blockRest (folded : Bool) (indent fuel : Nat) (value lineBreak : Text) (spaced : Bool) :
    Text × Cursor → Text × Text × Text × Cursor
  | (breaks, c) =>
    if c.column = indent ∧ c.rest ≠ [] then
      blockLines folded indent fuel
        (value ++ (if folded && lineBreak == ['\n'] && !spaced && !beginsWithSpace c then
          (if breaks = [] then [' '] else []) else lineBreak)) breaks c
    else (value, lineBreak, breaks, c)

/-- A line of text that reaches the end of the text, and what follows it. -/
theorem blockLines_of_none (h : (c.skipWhile (!isBreak ·)).lineBreak? = none) :
    blockLines folded indent (k + 1) value breaks c =
      blockRest folded indent k (value ++ breaks ++ c.rest.takeWhile (!isBreak ·)) []
        (beginsWithSpace c)
        (blockBreaks indent ((c.skipWhile (!isBreak ·)).rest.length + 1) []
          (c.skipWhile (!isBreak ·))) := by
  rw [blockLines]
  unfold Cursor.skipWhile at h ⊢
  dsimp only
  rw [h]
  rfl

/-- A line of text with its line break, and what follows it. -/
theorem blockLines_of_some {ch : Char} {d : Cursor}
    (h : (c.skipWhile (!isBreak ·)).lineBreak? = some (ch, d)) :
    blockLines folded indent (k + 1) value breaks c =
      blockRest folded indent k (value ++ breaks ++ c.rest.takeWhile (!isBreak ·)) [ch]
        (beginsWithSpace c) (blockBreaks indent (d.rest.length + 1) [] d) := by
  rw [blockLines]
  unfold Cursor.skipWhile at h
  dsimp only
  rw [h]
  rfl

/-- No line of text is left at the end of a text. -/
theorem blockRest_of_nil {lineBreak : Text} {spaced : Bool} (h : c.rest = []) :
    blockRest folded indent k value lineBreak spaced (breaks, c) = (value, lineBreak, breaks, c) :=
  if_neg fun hgo => hgo.2 h

/-- Lines of text that are the same. At the end of both texts the larger one may have one more line
break, which is then the last one of all. -/
inductive LinesAgree (p : Placement) (n : Nat) :
    Text × Text × Text × Cursor → Text × Text × Text × Cursor → Prop where
  | same (value lineBreak breaks : Text) (d d' : Cursor) (placed : Cursor.Placed p n d d') :
    LinesAgree p n (value, lineBreak, breaks, d) (value, lineBreak, breaks, d')
  | behind (value lineBreak lineBreak' breaks breaks' : Text) (d d' : Cursor)
    (extra : 0 < p.extra) (ended : Cursor.Ended d d')
    (first : lineBreak' = lineBreak ∨ lineBreak' = ['\n'])
    (all : lineBreak' ++ breaks' = lineBreak ++ breaks ++ ['\n']) :
    LinesAgree p n (value, lineBreak, breaks, d) (value, lineBreak', breaks', d')

theorem LinesAgree.mono {x y : Text × Text × Text × Cursor} (h : LinesAgree p m x y)
    (hmn : m ≤ n) : LinesAgree p n x y := by
  cases h with
  | same value lineBreak breaks d d' hd => exact .same _ _ _ _ _ (hd.mono hmn)
  | behind value lineBreak lineBreak' breaks breaks' d d' hextra hd hfirst hall =>
    exact .behind _ _ _ _ _ _ _ hextra hd hfirst hall

/-- Whether a line begins with a space or a tab is the same in both texts. -/
theorem beginsWithSpace_eq (h : Cursor.Placed p n c c') :
    beginsWithSpace c' = beginsWithSpace c :=
  h.peek (q := fun x => x == some ' ' || x == some '\t') ⟨rfl, rfl⟩

/-- Whether a line of text stands at the cursor is the same in both texts. -/
theorem hasLine_iff (h : Cursor.Placed p n c c') (hatEnd : c.rest = [] → c'.rest = []) :
    (c'.column = indent ∧ c'.rest ≠ []) ↔ (c.column = indent ∧ c.rest ≠ []) := by
  rw [h.column]
  exact and_congr_right' (not_congr ⟨h.rest_eq_nil, hatEnd⟩)

/-- Lines of text behind the same empty lines are the same. -/
theorem blockRest_agree {x y : Text × Cursor} {lineBreak : Text} {spaced : Bool}
    (h : Opens p n (indent, x) (indent, y))
    (hlines : ∀ value breaks d d', Cursor.Placed p n d d' →
      LinesAgree p n (blockLines folded indent k value breaks d)
        (blockLines folded indent k' value breaks d')) :
    LinesAgree p n (blockRest folded indent k value lineBreak spaced x)
      (blockRest folded indent k' value lineBreak spaced y) := by
  cases h with
  | same column breaks d d' hd hatEnd =>
    unfold blockRest
    dsimp only
    rw [beginsWithSpace_eq hd]
    by_cases hgo : d.column = indent ∧ d.rest ≠ []
    · rw [if_pos hgo, if_pos ((hasLine_iff hd hatEnd).2 hgo)]
      exact hlines _ _ _ _ hd
    · rw [if_neg hgo, if_neg (mt (hasLine_iff hd hatEnd).1 hgo)]
      exact .same _ _ _ _ _ hd
  | behind column column' breaks d d' hextra hd =>
    rw [blockRest_of_nil hd.1, blockRest_of_nil hd.2]
    exact .behind _ _ _ _ _ _ _ hextra hd (.inl rfl) (List.append_assoc _ _ _).symm

/-- The lines of text at the same place of both texts. -/
theorem blockLines_agree (h : Cursor.Placed p n c c') (hk : n < k) (hk' : n + p.extra < k') :
    LinesAgree p n (blockLines folded indent k value breaks c)
      (blockLines folded indent k' value breaks c') := by
  induction k generalizing n k' c c' value breaks with
  | zero => cases hk
  | succ k ih =>
    obtain ⟨k', rfl⟩ := Nat.exists_eq_add_one.2 (by omega : 0 < k')
    have hskip := h.skipWhile (q := (!isBreak ·)) rfl rfl
    rcases hskip.lineBreak?_cases with ⟨hfirst, hsecond, hatEnd⟩ |
      ⟨m, ch, d, d', rfl, hfirst, hsecond, hd⟩ | ⟨d', hextra, hnil, hfirst, hsecond, hended⟩
    · have hnil := rest_eq_nil_of_none h.noReturn hfirst
      rw [blockLines_of_none hfirst, blockLines_of_none hsecond, blockBreaks_of_nil hnil,
        blockBreaks_of_nil (hatEnd hnil), blockRest_of_nil hnil, blockRest_of_nil (hatEnd hnil),
        h.run rfl rfl]
      exact .same _ _ _ _ _ hskip
    · rw [blockLines_of_some hfirst, blockLines_of_some hsecond, h.run rfl rfl,
        beginsWithSpace_eq h]
      have hopens := blockBreaks_opens hd.tight (Nat.lt_succ_self _) hd.length_lt [] indent
      refine (blockRest_agree (hopens.mono hd.length) ?_).mono (Nat.le_succ m)
      intro value breaks e e' he
      exact ih he (by omega) (by omega)
    · rw [blockLines_of_none hfirst, blockLines_of_some hsecond, blockBreaks_of_nil hnil,
        blockBreaks_of_nil hended, blockRest_of_nil hnil, blockRest_of_nil hended, h.run rfl rfl]
      exact .behind _ _ _ _ _ _ _ hextra ⟨hnil, hended⟩ (.inr rfl) rfl

/-! ## Block scalars -/

/-- The indentation of a block scalar behind its header, and the empty lines there. -/
def blockOpening (least : Nat) (increment : Option Nat) (c : Cursor) : Nat × Text × Cursor :=
  match increment with
  | none =>
    let (breaks, deepest, c) := blockIndentation (c.rest.length + 1) [] 0 c
    (max least deepest, breaks, c)
  | some increment =>
    (least + increment - 1, blockBreaks (least + increment - 1) (c.rest.length + 1) [] c)

/-- The lines of a block scalar behind the empty lines in front of them. -/
def blockText (folded : Bool) : Nat × Text × Cursor → Text × Text × Text × Cursor
  | (indent, breaks, c) =>
    if c.column = indent ∧ c.rest ≠ [] then
      blockLines folded indent (c.rest.length + 1) [] breaks c
    else ([], [], breaks, c)

/-- The content that lines of text stand for. -/
def chomped (chomping : Chomping) : Text × Text × Text × Cursor → Text × Cursor
  | (value, lineBreak, breaks, c) =>
    (value ++ match chomping with
      | .strip => []
      | .clip => lineBreak
      | .keep => lineBreak ++ breaks, c)

/-- A block scalar is its header, the empty lines behind it, and lines of text. -/
theorem readBlock_eq (folded : Bool) (parent : Int) (c : Cursor) :
    readBlock folded parent c = blockHeader c.next >>= fun x =>
      .ok (chomped x.1 (blockText folded (blockOpening (max (parent + 1) 1).toNat x.2.1 x.2.2))) :=
  rfl

/-- The empty lines behind a header at the same place of both texts. -/
theorem blockOpening_opens (h : Cursor.Placed p n c c') (least : Nat) (increment : Option Nat) :
    Opens p n (blockOpening least increment c) (blockOpening least increment c') := by
  cases increment with
  | none =>
    have hopens := blockIndentation_opens h.tight (Nat.lt_succ_self _) h.length_lt [] 0
    unfold blockOpening
    dsimp only
    generalize blockIndentation (c.rest.length + 1) [] 0 c = x at hopens
    generalize blockIndentation (c'.rest.length + 1) [] 0 c' = y at hopens
    rcases x with ⟨breaks, deepest, d⟩
    rcases y with ⟨breaks', deepest', d'⟩
    cases hopens with
    | same _ _ _ _ hd hatEnd => exact .same _ _ _ _ (hd.mono h.length) hatEnd
    | behind _ _ _ _ _ hextra hd => exact .behind _ _ _ _ _ hextra hd
  | some increment =>
    exact (blockBreaks_opens h.tight (Nat.lt_succ_self _) h.length_lt _ _).mono h.length

/-- Lines of text behind the same empty lines are the same. -/
theorem blockText_agree {x y : Nat × Text × Cursor} (h : Opens p n x y) :
    LinesAgree p n (blockText folded x) (blockText folded y) := by
  cases h with
  | same column breaks d d' hd hatEnd =>
    unfold blockText
    dsimp only
    by_cases hgo : d.column = column ∧ d.rest ≠ []
    · rw [if_pos hgo, if_pos ((hasLine_iff hd hatEnd).2 hgo)]
      exact (blockLines_agree hd.tight (Nat.lt_succ_self _) hd.length_lt).mono hd.length
    · rw [if_neg hgo, if_neg (mt (hasLine_iff hd hatEnd).1 hgo)]
      exact .same _ _ _ _ _ hd
  | behind column column' breaks d d' hextra hd =>
    unfold blockText
    dsimp only
    rw [if_neg fun hgo => hgo.2 hd.1, if_neg fun hgo => hgo.2 hd.2]
    exact .behind _ _ _ _ _ _ _ hextra hd (.inl rfl) rfl

/-- Block scalars that are the same, or that end both texts, the one in the larger text with a line
break as its last character. -/
inductive BlockReads (p : Placement) (n : Nat) : Text × Cursor → Text × Cursor → Prop where
  | same (content : Text) (d d' : Cursor) (follows : Cursor.Follows p n d d') :
    BlockReads p n (content, d) (content, d')
  | behind (content content' : Text) (d d' : Cursor) (extra : 0 < p.extra)
    (ended : Cursor.Ended d d') (last : content'.getLast? = some '\n') :
    BlockReads p n (content, d) (content', d')

/-- The contents that lines of text stand for are the same, but for a line break at the end of both
texts. -/
theorem chomped_reads {x y : Text × Text × Text × Cursor} (h : LinesAgree p n x y)
    (chomping : Chomping) : BlockReads p n (chomped chomping x) (chomped chomping y) := by
  cases h with
  | same value lineBreak breaks d d' hd => exact .same _ _ _ (.inl hd)
  | behind value lineBreak lineBreak' breaks breaks' d d' hextra hd hfirst hall =>
    cases chomping with
    | strip => exact .same _ _ _ (.inr hd)
    | clip =>
      rcases hfirst with rfl | rfl
      · exact .same _ _ _ (.inr hd)
      · exact .behind _ _ _ _ hextra hd List.getLast?_concat
    | keep =>
      refine .behind _ _ _ _ hextra hd ?_
      dsimp only
      rw [hall, ← List.append_assoc]
      exact List.getLast?_concat

/-- No text stands behind a header that reaches the end of the text. -/
theorem blockText_of_nil (h : c.rest = []) (least : Nat) (increment : Option Nat)
    (chomping : Chomping) :
    chomped chomping (blockText folded (blockOpening least increment c)) = ([], c) := by
  have hopening : ∃ column, blockOpening least increment c = (column, [], c) := by
    cases increment with
    | none =>
      rcases blockIndentation_of_nil h (c.rest.length + 1) [] 0 with ⟨column, hnil⟩
      refine ⟨max least column, ?_⟩
      unfold blockOpening
      dsimp only
      rw [hnil]
    | some increment =>
      refine ⟨least + increment - 1, ?_⟩
      unfold blockOpening
      dsimp only
      rw [blockBreaks_of_nil h]
  rcases hopening with ⟨column, hcolumn⟩
  rw [hcolumn, blockText, if_neg fun hgo => hgo.2 h]
  cases chomping <;> rfl

/-- A block scalar at the same place of both texts is the same, or ends both texts with a line break
in the larger one. -/
theorem readBlock_agree (h : Cursor.Placed p (n + 1) c c') (hne : c.rest ≠ []) (parent : Int) :
    Agree (BlockReads p n) (readBlock folded parent c) (readBlock folded parent c') := by
  rw [readBlock_eq, readBlock_eq]
  refine (blockHeader_agree (h.next hne)).bind ?_
  rintro _ _ ⟨chomping, increment, d, d', hd | hd⟩
  · exact .ok (chomped_reads (blockText_agree (blockOpening_opens hd _ increment)) chomping)
  · dsimp only
    rw [blockText_of_nil hd.1, blockText_of_nil hd.2]
    exact .ok (.same _ _ _ (.inr hd))

end Yaml
end DocMarkup
