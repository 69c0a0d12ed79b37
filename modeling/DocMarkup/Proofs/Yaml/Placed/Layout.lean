import DocMarkup.Proofs.Yaml.Layout
import DocMarkup.Proofs.Yaml.Placed.Block
import DocMarkup.Proofs.Yaml.Placed.Scalar

/-!
# Layouts of placed texts

A text and a larger one in which it is placed have the same layout from the same place on. Only the
line break behind the text can make a difference, as the last character of a block scalar that reaches
it; otherwise it is passed over in front of the end of the text.

Main definitions:

- {lit}`Yaml.Layout.Moves`: layouts at the same place of both texts.
- {lit}`Yaml.Layout.Ends`: layouts at the end of both texts.
- {lit}`Yaml.Layout.keepsBreak`: whether a block scalar at the end of a text ends in a line break.

Main results:

- Theorem {lit}`Yaml.Layout.Moves.token`: a token at the same place of both texts.
- Theorem {lit}`Yaml.Layout.Moves.run`: the tokens from the same place of both texts on.
-/

namespace DocMarkup
namespace Yaml

/-- The place of a key in the larger text. -/
def KeyPlace.moved (p : Placement) (k : KeyPlace) : KeyPlace :=
  { k with index := k.index + p.index, line := k.line + p.line }

namespace Layout

variable {p : Placement} {n k k' count : Nat} {l m : Layout} {t : Token} {c : Char}
  {d d' : Cursor}

/-- Layouts with the same tokens, indentation and keys, wherever the cursors stand. -/
structure Alike (p : Placement) (l m : Layout) : Prop where
  tokens : m.tokens = l.tokens
  level : m.level = l.level
  indent : m.indent = l.indent
  outerIndents : m.outerIndents = l.outerIndents
  keys : m.keys = l.keys.map (KeyPlace.moved p)

/-- Layouts at the same place of both texts. -/
structure Moves (p : Placement) (n : Nat) (l m : Layout) : Prop extends Alike p l m where
  cursor : Cursor.Placed p n l.cursor m.cursor
  mayBeginKey : m.mayBeginKey = l.mayBeginKey

/-- Layouts at the end of both texts. -/
structure Ends (p : Placement) (l m : Layout) : Prop extends Alike p l m where
  cursor : Cursor.Ended l.cursor m.cursor

/-! ## Keys and indentation -/

/-- A layout that is like a sound one is sound. -/
theorem Alike.sound (h : Alike p l m) (hl : l.Sound) : m.Sound := by
  refine ⟨?_, ?_, ?_, ?_⟩
  · rw [h.keys, List.map_map]
    exact hl.levels
  · intro k hk hrequired
    rw [h.keys] at hk
    rcases List.mem_map.1 hk with ⟨o, ho, rfl⟩
    exact hl.required o ho hrequired
  · rw [h.tokens, h.level]
    exact hl.depth
  · rw [h.tokens]
    exact hl.goesOn

/-- The cursors may be moved on, and it may be settled whether a key begins there. -/
theorem Alike.moves (h : Alike p l m) (hd : Cursor.Placed p n d d') (b : Bool) :
    Moves p n { l with cursor := d, mayBeginKey := b } { m with cursor := d', mayBeginKey := b } :=
  ⟨⟨h.tokens, h.level, h.indent, h.outerIndents, h.keys⟩, hd, rfl⟩

/-- The cursors may be moved to the end of both texts. -/
theorem Alike.ends (h : Alike p l m) (hd : Cursor.Ended d d') (b b' : Bool) :
    Ends p { l with cursor := d, mayBeginKey := b } { m with cursor := d', mayBeginKey := b' } :=
  ⟨⟨h.tokens, h.level, h.indent, h.outerIndents, h.keys⟩, hd⟩

theorem Alike.emit (h : Alike p l m) (t : Token) : Alike p (l.emit t) (m.emit t) :=
  ⟨congrArg (t :: ·) h.tokens, h.level, h.indent, h.outerIndents, h.keys⟩

theorem Moves.emit (h : Moves p n l m) (t : Token) : Moves p n (l.emit t) (m.emit t) :=
  ⟨h.toAlike.emit t, h.cursor, h.mayBeginKey⟩

theorem Ends.emit (h : Ends p l m) (t : Token) : Ends p (l.emit t) (m.emit t) :=
  ⟨h.toAlike.emit t, h.cursor⟩

theorem Moves.mono (h : Moves p k l m) (hkn : k ≤ n) : Moves p n l m :=
  { h with cursor := h.cursor.mono hkn }

/-- The number of characters that are left is a bound of its own. -/
theorem Moves.tight (h : Moves p n l m) : Moves p l.cursor.rest.length l m :=
  { h with cursor := h.cursor.tight }

theorem Moves.emitBehind (h : Moves p n l m) (count : Nat) (t : Token) :
    Moves p n (l.emitBehind count t) (m.emitBehind count t) := by
  refine ⟨⟨?_, h.level, h.indent, h.outerIndents, h.keys⟩, h.cursor, h.mayBeginKey⟩
  unfold Layout.emitBehind
  dsimp only
  rw [h.tokens]

/-- The same places of keys may be given up in both layouts. -/
theorem Moves.filterKeys (h : Moves p n l m) {q q' : KeyPlace → Bool}
    (hq : ∀ k, q' (k.moved p) = q k) :
    Moves p n { l with keys := l.keys.filter q } { m with keys := m.keys.filter q' } := by
  refine ⟨⟨h.tokens, h.level, h.indent, h.outerIndents, ?_⟩, h.cursor, h.mayBeginKey⟩
  dsimp only
  rw [h.keys, List.filter_map]
  congr 1
  exact List.filter_congr fun k _ => hq k

/-- The place of a key of the current level. -/
theorem Alike.key? (h : Alike p l m) : m.key? = l.key?.map (KeyPlace.moved p) := by
  unfold Layout.key?
  rw [h.keys, h.level, List.find?_map]
  rfl

/-- Layouts at the same place of both texts, the place and the brackets of an earlier one. -/
structure Stays (p : Placement) (n : Nat) (o l m : Layout) : Prop extends Moves p n l m where
  place : l.cursor = o.cursor
  brackets : l.level = o.level

theorem Moves.dropKey (h : Moves p n l m) : Agree (Stays p n l) l.dropKey m.dropKey := by
  unfold Layout.dropKey
  refine Agree.ite ?_ (fun _ => .error _) fun _ => .ok ⟨?_, rfl, rfl⟩
  · rw [h.key?]
    cases l.key? <;> rfl
  · exact h.filterKeys fun k => by rw [h.level]; rfl

theorem Moves.saveKey (h : Moves p n l m) : Agree (Stays p n l) l.saveKey m.saveKey := by
  unfold Layout.saveKey
  refine Agree.ite (by rw [h.mayBeginKey]) (fun _ => ?_) fun _ => .ok ⟨h, rfl, rfl⟩
  refine h.dropKey.bind fun l m h => .ok ⟨⟨⟨h.tokens, h.level, h.indent, h.outerIndents, ?_⟩,
    h.cursor, h.mayBeginKey⟩, h.place, h.brackets⟩
  dsimp only
  rw [List.map_cons, h.keys, h.level, h.tokens, h.indent, h.cursor.index, h.cursor.line,
    h.cursor.column]
  rfl

/-- Whether a key must have ended. -/
theorem Moves.isStale (h : Moves p n l m) (k : KeyPlace) :
    m.isStale (k.moved p) = l.isStale k := by
  unfold Layout.isStale KeyPlace.moved
  dsimp only
  rw [h.cursor.line, h.cursor.index, Nat.add_sub_add_right]
  congr 1
  rw [Bool.eq_iff_iff, bne_iff_ne, bne_iff_ne, Ne, Ne, Nat.add_right_cancel_iff]

theorem Moves.dropStaleKeys (h : Moves p n l m) :
    Agree (Stays p n l) l.dropStaleKeys m.dropStaleKeys := by
  unfold Layout.dropStaleKeys
  refine Agree.ite ?_ (fun _ => .error _) fun _ =>
    .ok ⟨h.filterKeys fun k => by rw [h.isStale], rfl, rfl⟩
  rw [h.keys, List.any_map]
  have hany : ((fun k => m.isStale k && k.required) ∘ KeyPlace.moved p) =
      fun k => l.isStale k && k.required :=
    funext fun k => by rw [Function.comp_apply, h.isStale]; rfl
  rw [hany]

/-- The tokens that nothing can be put in front of any more. -/
theorem Moves.settled (h : Moves p n l m) : m.settled = l.settled := by
  unfold Layout.settled Layout.settledCount
  rw [h.keys, h.tokens, List.filter_map, List.map_map]
  have hfilter : ((fun k => k.required || !m.isStale k) ∘ KeyPlace.moved p) =
      fun k => k.required || !l.isStale k :=
    funext fun k => by rw [Function.comp_apply, h.isStale]; rfl
  rw [hfilter]
  rfl

theorem Alike.closeBlock (h : Alike p l m) : Alike p l.closeBlock m.closeBlock := by
  refine ⟨congrArg (Token.blockEnd :: ·) h.tokens, h.level, ?_, ?_, h.keys⟩
  · rw [closeBlock_indent, closeBlock_indent, h.outerIndents]
  · rw [closeBlock_outerIndents, closeBlock_outerIndents, h.outerIndents]

/-- The same block collections are closed. -/
theorem Alike.unwind (h : Alike p l m) (column : Int) :
    Alike p (l.unwind column) (m.unwind column) := by
  have hclose : ∀ (fuel : Nat) {l m : Layout}, Alike p l m →
      Alike p (closeBlocks column fuel l) (closeBlocks column fuel m) := by
    intro fuel
    induction fuel with
    | zero => exact fun h => h
    | succ fuel ih =>
      intro l m h
      rw [closeBlocks_succ, closeBlocks_succ, h.indent]
      split
      · exact ih h.closeBlock
      · exact h
  unfold Layout.unwind
  rw [h.level, h.outerIndents]
  split
  · exact hclose _ h
  · exact h

theorem mayBeginKey_unwind (l : Layout) (column : Int) :
    (l.unwind column).mayBeginKey = l.mayBeginKey :=
  congrArg (·.mayBeginKey) (unwind_with l column l.cursor l.mayBeginKey l.keys)

theorem Moves.unwind (h : Moves p n l m) (column : Int) :
    Moves p n (l.unwind column) (m.unwind column) := by
  refine ⟨h.toAlike.unwind column, ?_, ?_⟩
  · rw [cursor_unwind, cursor_unwind]
    exact h.cursor
  · rw [mayBeginKey_unwind, mayBeginKey_unwind]
    exact h.mayBeginKey

/-- The same block collection begins. -/
theorem Moves.deepen (h : Moves p n l m) (column : Nat) :
    (m.deepen column).1 = (l.deepen column).1 ∧
      Moves p n (l.deepen column).2 (m.deepen column).2 := by
  unfold Layout.deepen
  rw [h.indent]
  split
  · exact ⟨rfl, ⟨h.tokens, h.level, rfl, congrArg (l.indent :: ·) h.outerIndents, h.keys⟩,
      h.cursor, h.mayBeginKey⟩
  · exact ⟨rfl, h⟩

/-- The layout with a block collection begun at the cursor, unless the one around it is there. -/
def blockAt (l : Layout) (t : Token) : Layout :=
  if (l.deepen l.cursor.column).1 then (l.deepen l.cursor.column).2.emit t
  else (l.deepen l.cursor.column).2

theorem beginBlock_eq (l : Layout) (t : Token) :
    l.beginBlock t =
      if l.level ≠ 0 then .ok l
      else if !l.mayBeginKey then .error .malformed else .ok (l.blockAt t) := rfl

theorem Moves.blockAt (h : Moves p n l m) (t : Token) :
    Moves p n (l.blockAt t) (m.blockAt t) := by
  have hdeeper := h.deepen l.cursor.column
  unfold Layout.blockAt
  rw [h.cursor.column, hdeeper.1]
  split
  · exact hdeeper.2.emit t
  · exact hdeeper.2

theorem cursor_blockAt (l : Layout) (t : Token) : (l.blockAt t).cursor = l.cursor := by
  unfold Layout.blockAt Layout.deepen
  split <;> split <;> rfl

theorem level_blockAt (l : Layout) (t : Token) : (l.blockAt t).level = l.level := by
  unfold Layout.blockAt Layout.deepen
  split <;> split <;> rfl

theorem Moves.beginBlock (h : Moves p n l m) (t : Token) :
    Agree (Stays p n l) (l.beginBlock t) (m.beginBlock t) := by
  rw [beginBlock_eq, beginBlock_eq]
  exact Agree.ite (by rw [h.level]) (fun _ => .ok ⟨h, rfl, rfl⟩) fun _ =>
    Agree.ite (by rw [h.mayBeginKey]) (fun _ => .error _) fun _ =>
      .ok ⟨h.blockAt t, cursor_blockAt l t, level_blockAt l t⟩

/-! ## White space -/

/-- No white space is left at the end of a text. -/
theorem skipToToken_of_nil (hnil : l.cursor.rest = []) : skipToToken k l = l := by
  cases k with
  | zero => rfl
  | succ k =>
    have hspaces : l.cursor.skipSpaces = l.cursor := Cursor.skipWhile_of_nil hnil _
    have hcomment : l.cursor.skipComment = l.cursor := by
      unfold Cursor.skipComment Cursor.peek
      rw [hnil]
      rfl
    rw [skipToToken, hspaces, hcomment, Cursor.lineBreak?_of_nil hnil]

/-- White space has been passed over up to the same token of both texts, or to the end of both. -/
inductive Reaches (p : Placement) (n : Nat) (l m : Layout) : Prop where
  | token (moves : Moves p n l m) (noBreak : l.cursor.lineBreak? = none)
    (atEnd : l.cursor.rest = [] → m.cursor.rest = [])
  | ended (ends : Ends p l m)

theorem Reaches.mono (h : Reaches p k l m) (hkn : k ≤ n) : Reaches p n l m := by
  cases h with
  | token hmoves hnone hatEnd => exact .token (hmoves.mono hkn) hnone hatEnd
  | ended hends => exact .ended hends

/-- White space in front of a token in both texts. -/
theorem Moves.skipToToken (h : Moves p n l m) (hk : n < k) (hk' : n + p.extra < k') :
    Reaches p n (skipToToken k l) (skipToToken k' m) := by
  induction k generalizing n k' l m with
  | zero => cases hk
  | succ k ih =>
    obtain ⟨k', rfl⟩ := Nat.exists_eq_add_one.2 (by omega : 0 < k')
    have hskip := h.cursor.skipSpaces.skipComment
    rw [Layout.skipToToken, Layout.skipToToken]
    rcases hskip.lineBreak?_cases with ⟨hfirst, hsecond, hatEnd⟩ |
      ⟨o, ch, d, d', rfl, hfirst, hsecond, hd⟩ | ⟨d', -, hatEnd, hfirst, hsecond, hended⟩
    · simp only [hfirst, hsecond, h.mayBeginKey]
      exact .token (h.toAlike.moves hskip l.mayBeginKey) hfirst hatEnd
    · have hbegins : (m.mayBeginKey || m.level == 0) = (l.mayBeginKey || l.level == 0) := by
        rw [h.mayBeginKey, h.level]
      simp only [hfirst, hsecond, hbegins]
      have hfuel' : o + p.extra < k' := by omega
      exact (ih (h.toAlike.moves hd _) (by omega) hfuel').mono (Nat.le_succ o)
    · simp only [hfirst, hsecond]
      rw [skipToToken_of_nil hended]
      exact .ended (h.toAlike.ends ⟨hatEnd, hended⟩ _ _)

/-! ## Tokens -/

/-- A mark of some characters that stands at the cursor. -/
theorem Moves.pass (h : Moves p (n + 1) l m) {width : Nat} (hpos : 0 < width)
    (hwidth : width ≤ l.cursor.rest.length) (t : Token) :
    Moves p n (l.pass width t) (m.pass width t) :=
  ⟨⟨congrArg (t :: ·) h.tokens, h.level, h.indent, h.outerIndents, h.keys⟩,
    h.cursor.advance_pos hpos hwidth, h.mayBeginKey⟩

/-- The cursors may be moved on. -/
theorem Moves.reach (h : Moves p n l m) (hd : Cursor.Placed p k d d') :
    Moves p k { l with cursor := d } { m with cursor := d' } :=
  ⟨⟨h.tokens, h.level, h.indent, h.outerIndents, h.keys⟩, hd, h.mayBeginKey⟩

/-- It may be settled whether a key begins. -/
theorem Moves.begins (h : Moves p n l m) (b : Bool) :
    Moves p n { l with mayBeginKey := b } { m with mayBeginKey := b } :=
  h.toAlike.moves h.cursor b

/-- Outside brackets a key may begin. -/
theorem Moves.beginsOutside (h : Moves p n l m) :
    Moves p n { l with mayBeginKey := l.level == 0 } { m with mayBeginKey := m.level == 0 } :=
  ⟨⟨h.tokens, h.level, h.indent, h.outerIndents, h.keys⟩, h.cursor, congrArg (· == 0) h.level⟩

/-- The layout with a block mapping begun at the place of its first key, unless it is there. -/
def mapped (l : Layout) (count column : Nat) : Layout :=
  if l.level == 0 && (l.deepen column).1 then
    (l.deepen column).2.emitBehind count .blockMappingStart
  else l

/-- The layout in which what stands at the place of a key is one. -/
def keyed (l : Layout) (count : Nat) : Layout :=
  { l with keys := l.keys.filter (·.level ≠ l.level) }.emitBehind count .key

theorem value_of_key {k : KeyPlace} (h : l.key? = some k) :
    l.value = .ok ({ (l.keyed k.count).mapped k.count k.column with mayBeginKey := false }.pass 1
      .value) := by
  unfold Layout.value
  rw [h]
  rfl

theorem value_of_no_key (h : l.key? = none) :
    l.value = l.beginBlock .blockMappingStart >>= fun l =>
      { l with mayBeginKey := l.level == 0 }.dropKey >>= fun l => .ok (l.pass 1 .value) := by
  unfold Layout.value
  rw [h]

theorem cursor_mapped (l : Layout) (count column : Nat) :
    (l.mapped count column).cursor = l.cursor := by
  unfold Layout.mapped
  split
  · unfold Layout.deepen
    split <;> rfl
  · rfl

theorem Moves.mapped (h : Moves p n l m) (count column : Nat) :
    Moves p n (l.mapped count column) (m.mapped count column) := by
  have hdeeper := h.deepen column
  unfold Layout.mapped
  rw [hdeeper.1, h.level]
  split
  · exact hdeeper.2.emitBehind count _
  · exact h

theorem Moves.keyed (h : Moves p n l m) (count : Nat) :
    Moves p n (l.keyed count) (m.keyed count) :=
  (h.filterKeys fun k => by rw [h.level]; rfl).emitBehind count .key

/-- Whether the text has ended behind a quoted or block scalar that ends in a line break. -/
def endsInBreak (l : Layout) : Bool :=
  l.cursor.rest.isEmpty &&
    match l.tokens with
    | .scalar false content :: _ => content.getLast? == some '\n'
    | _ => false

/-- A token has been found in both texts, and the layouts stand behind it. Only a scalar that ends in
the line break behind the text may be another one. -/
inductive Arrives (p : Placement) (n : Nat) (l m : Layout) : Prop where
  | moves (moves : Moves p n l m)
  | ended (ends : Ends p l m)
  | broken (extra : 0 < p.extra) (keeps : m.endsInBreak = true)

/-- Layouts behind a token that is the same in both texts. -/
theorem arrives_of_moves {x y : Except Fault Layout} (h : Agree (Moves p n) x y) :
    Agree (Arrives p n) x y :=
  h.mono fun _ _ => .moves

section Tokens

variable (h : Moves p (n + 1) l m)

include h

theorem Moves.documentMark (hlength : 3 ≤ l.cursor.rest.length) (t : Token) :
    Agree (Moves p n) (l.documentMark t) (m.documentMark t) := by
  unfold Layout.documentMark
  refine (h.unwind (-1)).dropKey.bind fun o o' ho => .ok ?_
  refine (ho.toMoves.begins false).pass (by decide) ?_ t
  dsimp only
  rw [ho.place, cursor_unwind]
  exact hlength

theorem Moves.quotedScalar {quote : Char} (hquote : isFeed quote = false)
    (hpeek : l.cursor.peek = some quote) :
    Agree (Moves p n) l.quotedScalar m.quotedScalar := by
  unfold Layout.quotedScalar
  refine h.saveKey.bind fun o o' ho => ?_
  refine (readQuoted_agree hquote ho.cursor (ho.place ▸ hpeek)).bind ?_
  rintro _ _ ⟨content, d, d', hd⟩
  exact .ok ((ho.toAlike.moves hd false).emit _)

theorem Moves.plainScalar
    (hstart : ¬(plainRun (l.level != 0) l.cursor.rest = [] ∨ l.cursor.peek = some '#')) :
    Agree (Arrives p n) l.plainScalar m.plainScalar := by
  unfold Layout.plainScalar
  refine h.saveKey.bind fun o o' ho => ?_
  rw [← ho.place, ← ho.brackets] at hstart
  have hplain := readPlain_agree ho.cursor hstart o.indent
  have hread : readPlain (o'.level != 0) o'.indent o'.cursor =
      readPlain (o.level != 0) o.indent o'.cursor := by rw [ho.level, ho.indent]
  dsimp only
  rw [hread]
  generalize readPlain (o.level != 0) o.indent o.cursor = x at hplain
  generalize readPlain (o.level != 0) o.indent o'.cursor = y at hplain
  cases hplain with
  | same value lineEnded d d' hd => exact .ok (.moves ((ho.toAlike.moves hd _).emit _))
  | ended value lineEnded lineEnded' d d' hd =>
    exact .ok (.ended ((ho.toAlike.ends hd _ _).emit _))

variable (hne : l.cursor.rest ≠ [])

include hne

theorem Moves.directive : Agree (Arrives p n) l.directive m.directive := by
  unfold Layout.directive
  refine (h.unwind (-1)).dropKey.bind fun o o' ho => ?_
  have hne' : o.cursor.rest ≠ [] := by rwa [ho.place, cursor_unwind]
  refine (readDirective_agree ho.cursor hne').bind ?_
  rintro _ _ ⟨d, e, e', he | he⟩
  · exact .ok (.moves ((ho.toAlike.moves he false).emit _))
  · exact .ok (.ended ((ho.toAlike.ends he false false).emit _))

theorem Moves.openFlow (t : Token) : Agree (Moves p n) (l.openFlow t) (m.openFlow t) := by
  unfold Layout.openFlow
  refine h.saveKey.bind fun o o' ho => .ok ?_
  have hpos : 1 ≤ o.cursor.rest.length := by rw [ho.place]; exact List.length_pos_iff.2 hne
  exact ⟨⟨congrArg (t :: ·) ho.tokens, congrArg (· + 1) ho.level, ho.indent, ho.outerIndents,
    ho.keys⟩, ho.cursor.advance_pos Nat.one_pos hpos, rfl⟩

theorem Moves.closeFlow (t : Token) : Agree (Moves p n) (l.closeFlow t) (m.closeFlow t) := by
  unfold Layout.closeFlow
  refine h.dropKey.bind fun o o' ho => ?_
  have hpos : 1 ≤ o.cursor.rest.length := by rw [ho.place]; exact List.length_pos_iff.2 hne
  rw [ho.level]
  cases o.level with
  | zero => exact .error _
  | succ level =>
    exact .ok ⟨⟨congrArg (t :: ·) ho.tokens, rfl, ho.indent, ho.outerIndents, ho.keys⟩,
      ho.cursor.advance_pos Nat.one_pos hpos, rfl⟩

theorem Moves.flowEntry : Agree (Moves p n) l.flowEntry m.flowEntry := by
  unfold Layout.flowEntry
  refine (h.begins true).dropKey.bind fun o o' ho => .ok (ho.toMoves.pass Nat.one_pos ?_ _)
  rw [ho.place]
  exact List.length_pos_iff.2 hne

theorem Moves.blockEntry : Agree (Moves p n) l.blockEntry m.blockEntry := by
  unfold Layout.blockEntry
  refine (h.beginBlock _).bind fun o o' ho => ?_
  refine (ho.toMoves.begins true).dropKey.bind fun q q' hq => .ok (hq.toMoves.pass Nat.one_pos ?_ _)
  rw [hq.place]
  exact List.length_pos_iff.2 (ho.place ▸ hne)

theorem Moves.explicitKey : Agree (Moves p n) l.explicitKey m.explicitKey := by
  unfold Layout.explicitKey
  refine (h.beginBlock _).bind fun o o' ho => ?_
  refine ho.toMoves.beginsOutside.dropKey.bind fun q q' hq =>
    .ok (hq.toMoves.pass Nat.one_pos ?_ _)
  rw [hq.place]
  exact List.length_pos_iff.2 (ho.place ▸ hne)

theorem Moves.value : Agree (Moves p n) l.value m.value := by
  have hpos := List.length_pos_iff.2 hne
  have hkey := h.key?
  cases hfound : l.key? with
  | some k =>
    rw [hfound, Option.map_some] at hkey
    rw [value_of_key hfound, value_of_key hkey]
    refine .ok ((((h.keyed k.count).mapped k.count k.column).begins false).pass Nat.one_pos ?_ _)
    dsimp only
    rwa [cursor_mapped]
  | none =>
    rw [hfound, Option.map_none] at hkey
    rw [value_of_no_key hfound, value_of_no_key hkey]
    refine (h.beginBlock _).bind fun o o' ho => ?_
    refine ho.toMoves.beginsOutside.dropKey.bind fun q q' hq =>
      .ok (hq.toMoves.pass Nat.one_pos ?_ _)
    rw [hq.place]
    exact ho.place ▸ hpos

theorem Moves.reference (make : Text → Token) :
    Agree (Moves p n) (l.reference make) (m.reference make) := by
  unfold Layout.reference
  refine h.saveKey.bind fun o o' ho => ?_
  refine (readAnchorName_agree ho.cursor (ho.place ▸ hne)).bind ?_
  rintro _ _ ⟨name, d, d', hd⟩
  exact .ok ((ho.toAlike.moves hd false).emit _)

theorem Moves.tag : Agree (Moves p n) l.tag m.tag := by
  unfold Layout.tag
  refine h.saveKey.bind fun o o' ho => ?_
  refine (readTag_agree ho.cursor (ho.place ▸ hne)).bind ?_
  rintro _ _ ⟨handle, suffix, d, d', hd⟩
  exact .ok ((ho.toAlike.moves hd false).emit _)

/-- A block scalar at the end of the text may be another one. -/
theorem Moves.blockScalar (folded : Bool) :
    Agree (Arrives p n) (l.blockScalar folded) (m.blockScalar folded) := by
  unfold Layout.blockScalar
  refine (h.begins true).dropKey.bind fun o o' ho => ?_
  have hread : readBlock folded o'.indent o'.cursor = readBlock folded o.indent o'.cursor := by
    rw [ho.indent]
  rw [hread]
  refine (readBlock_agree ho.cursor (ho.place ▸ hne) o.indent).bind ?_
  rintro _ _ (⟨content, d, d', hd | hd⟩ | ⟨content, content', d, d', hextra, hd, hlast⟩)
  · exact .ok (.moves ((ho.toMoves.reach hd).emit _))
  · exact .ok (.ended ((ho.toAlike.ends hd _ _).emit _))
  · refine .ok (.broken hextra ?_)
    simp [endsInBreak, Layout.emit, hd.2, hlast]

end Tokens

theorem indicators_eq : indicators = ['-', '?', ':', ',', '[', ']', '\x7b', '\x7d', '#', '&', '*',
    '!', '|', '>', '\'', '"', '%', '@', '\x60'] := by decide +kernel

/-- A plain scalar that begins at a character does not end there. -/
theorem endsPlain_of_beginsPlain {after : Option Char} (h : l.beginsPlain c after = true) :
    endsPlain (l.level != 0) c after = false ∧ c ≠ '#' := by
  unfold beginsPlain at h
  rw [Bool.or_eq_true, Bool.not_eq_true', Bool.or_eq_false_iff, indicators_eq] at h
  rcases h with ⟨hblank, hplain⟩ | hmark
  · simp only [List.contains_cons, List.contains_nil, Bool.or_false, Bool.or_eq_false_iff,
      beq_eq_false_iff_ne] at hplain
    simp [endsPlain, isFlowMark, hblank, hplain]
  · simp only [Bool.and_eq_true, Bool.or_eq_true, Bool.not_eq_true', beq_iff_eq] at hmark
    rcases hmark with ⟨hafter, rfl | ⟨hlevel, rfl | rfl⟩⟩
    · exact ⟨by simp [endsPlain, isFlowMark, isBlankOrEnd, isBreak], by decide⟩
    · exact ⟨by simp [endsPlain, isFlowMark, isBlankOrEnd, isBreak, hlevel], by decide⟩
    · exact ⟨by simp [endsPlain, isFlowMark, hlevel, hafter]; rfl, by decide⟩

/-- A plain scalar that begins at the cursor has a part without white space. -/
theorem not_plain_stop {rest : Text} (hrest : l.cursor.rest = c :: rest)
    (h : l.beginsPlain c rest.head? = true) :
    ¬(plainRun (l.level != 0) l.cursor.rest = [] ∨ l.cursor.peek = some '#') := by
  rcases endsPlain_of_beginsPlain h with ⟨hends, hcomment⟩
  rw [Cursor.peek, hrest, plainRun, hends, List.head?_cons, Option.some_inj]
  rintro (hnil | rfl)
  · cases hnil
  · exact hcomment rfl

theorem Moves.beginsPlain (h : Moves p n l m) {after after' : Option Char}
    (hafter : isBlankOrEnd after' = isBlankOrEnd after) :
    m.beginsPlain c after' = l.beginsPlain c after := by
  unfold Layout.beginsPlain
  rw [hafter, h.level]

/-- A mark of a document is as long as three characters. -/
theorem length_of_atMark {e : Cursor} {mark : Text} (hmark : mark.length = 3)
    (h : e.atMark mark = true) : 3 ≤ e.rest.length := by
  unfold Cursor.atMark Cursor.startsWith at h
  rw [← hmark]
  exact (List.isPrefixOf_iff_prefix.1 (Bool.and_eq_true_iff.1 h).1).length_le

/-- A token at the same place of both texts. -/
theorem Moves.token (h : Moves p (n + 1) l m) {rest : Text} {after' : Option Char}
    (hrest : l.cursor.rest = c :: rest) (hafter : isBlankOrEnd after' = isBlankOrEnd rest.head?) :
    Agree (Arrives p n) (l.token c rest.head?) (m.token c after') := by
  have hne : l.cursor.rest ≠ [] := by simp [hrest]
  have hpeek : l.cursor.peek = some c := by rw [Cursor.peek, hrest, List.head?_cons]
  have hflow : (m.level != 0) = (l.level != 0) := by rw [h.level]
  unfold Layout.token
  dsimp only
  rw [hafter, hflow, h.cursor.column, h.cursor.atMark (by simp [isFeed]),
    h.cursor.atMark (by simp [isFeed]), h.beginsPlain hafter]
  refine .ite Iff.rfl (fun _ => h.directive hne) fun _ => ?_
  refine .ite Iff.rfl (fun hmark => ?_) fun _ => ?_
  · exact arrives_of_moves (h.documentMark (length_of_atMark rfl hmark.2) _)
  refine .ite Iff.rfl (fun hmark => ?_) fun _ => ?_
  · exact arrives_of_moves (h.documentMark (length_of_atMark rfl hmark.2) _)
  refine .ite Iff.rfl (fun _ => arrives_of_moves (h.openFlow hne _)) fun _ => ?_
  refine .ite Iff.rfl (fun _ => arrives_of_moves (h.openFlow hne _)) fun _ => ?_
  refine .ite Iff.rfl (fun _ => arrives_of_moves (h.closeFlow hne _)) fun _ => ?_
  refine .ite Iff.rfl (fun _ => arrives_of_moves (h.closeFlow hne _)) fun _ => ?_
  refine .ite Iff.rfl (fun _ => arrives_of_moves (h.flowEntry hne)) fun _ => ?_
  refine .ite Iff.rfl (fun _ => arrives_of_moves (h.blockEntry hne)) fun _ => ?_
  refine .ite Iff.rfl (fun _ => arrives_of_moves (h.explicitKey hne)) fun _ => ?_
  refine .ite Iff.rfl (fun _ => arrives_of_moves (h.value hne)) fun _ => ?_
  refine .ite Iff.rfl (fun _ => arrives_of_moves (h.reference hne _)) fun _ => ?_
  refine .ite Iff.rfl (fun _ => arrives_of_moves (h.reference hne _)) fun _ => ?_
  refine .ite Iff.rfl (fun _ => arrives_of_moves (h.tag hne)) fun _ => ?_
  refine .ite Iff.rfl (fun _ => h.blockScalar hne false) fun _ => ?_
  refine .ite Iff.rfl (fun _ => h.blockScalar hne true) fun _ => ?_
  refine .ite Iff.rfl (fun hquote => ?_) fun _ => ?_
  · refine arrives_of_moves (h.quotedScalar ?_ hpeek)
    rcases hquote with rfl | rfl <;> rfl
  exact .ite Iff.rfl (fun hplain => h.plainScalar (not_plain_stop hrest hplain)) fun _ => .error _

/-! ## The end of both texts -/

/-- The same tokens and the same fault, or those of texts that are no documents. -/
def SameTokens (x y : List Token × Option Fault) : Prop := y = x ∨ Broken x ∧ Broken y

/-- Where only white space is left of both texts, sound layouts end in the same tokens. -/
theorem Ends.run {o q : Layout} (h : Ends p l m) (ho : o.Sound) (hq : q.Sound)
    (hfirst : skipToToken (o.cursor.rest.length + 1) o = l)
    (hsecond : skipToToken (q.cursor.rest.length + 1) q = m) :
    SameTokens (o.run (k + 1)) (q.run (k' + 1)) := by
  have hl : l.Sound := hfirst ▸ ho.skipToToken _
  by_cases hlevel : l.level = 0
  · have hholds : m.holdsKey = l.holdsKey := by
      rw [hl.holdsKey_eq hlevel, (h.toAlike.sound hl).holdsKey_eq (h.level.trans hlevel), h.keys,
        List.any_map]
      rfl
    by_cases hkey : l.holdsKey = true
    · exact .inr ⟨ho.broken_of_nil hfirst h.cursor.1 fun _ => hkey,
        hq.broken_of_nil hsecond h.cursor.2 fun _ => hholds.trans hkey⟩
    · rw [run_of_nil hfirst h.cursor.1, run_of_nil hsecond h.cursor.2, hholds, if_neg hkey,
        if_neg hkey, (h.toAlike.unwind (-1)).tokens]
      exact .inl rfl
  · exact .inr ⟨ho.broken_of_nil hfirst h.cursor.1 fun hzero => absurd hzero hlevel,
      hq.broken_of_nil hsecond h.cursor.2 fun hzero => absurd (h.level ▸ hzero) hlevel⟩

/-! ## Runs -/

/-- Whether a scalar on the way ends both the text and in a line break. -/
def keepsBreak : Nat → Layout → Bool
  | 0, _ => false
  | fuel + 1, l =>
    match l.step with
    | .ok (l, false) => l.endsInBreak || keepsBreak fuel l
    | _ => false

/-- A step in front of a token at the same place of both texts. -/
theorem Moves.step {o q : Layout} {rest : Text} (h : Moves p (n + 1) l m)
    (hfirst : Layout.skipToToken (o.cursor.rest.length + 1) o = l)
    (hsecond : Layout.skipToToken (q.cursor.rest.length + 1) q = m)
    (hrest : l.cursor.rest = c :: rest) (hnone : l.cursor.lineBreak? = none) :
    Agree (fun x y => Arrives p n x.1 y.1 ∧ x.2 = false ∧ y.2 = false) o.step q.step := by
  have hreturn : c ≠ '\r' := by
    rintro rfl
    exact h.cursor.noReturn (hrest ▸ List.mem_cons_self)
  have hbreak : ¬ isBreak c = true := by
    intro hbreak
    rw [Cursor.lineBreak?_of_cons hrest hreturn, if_pos hbreak] at hnone
    cases hnone
  have hfeed : p.feed c = c := p.feed_eq (q := (!isBreak ·)) rfl (by simpa using hbreak)
  have hrest' : m.cursor.rest = c :: p.text rest := by
    rw [h.cursor.rest, hrest, p.text_cons, hfeed]
  rw [step_of_cons hfirst hrest, step_of_cons hsecond hrest']
  refine h.dropStaleKeys.bind fun s s' hs => ?_
  have hunwound := hs.toMoves.unwind s.cursor.column
  have hplace : (s.unwind s.cursor.column).cursor.rest = c :: rest := by
    rw [cursor_unwind, hs.place, hrest]
  rw [hs.cursor.column]
  refine (hunwound.token hplace (p.class_head? ignoresFeeds_isBlankOrEnd rest)).bind ?_
  intro t t' ht
  exact .ok ⟨ht, rfl, rfl⟩

/-- From the same place of both texts on the tokens are the same, unless a block scalar ends in the
line break behind the text. -/
theorem Moves.run (h : Moves p n l m) (hl : l.Sound) (hk : n < k) (hk' : n + p.extra < k')
    (hkeeps : 0 < p.extra → keepsBreak k' m = false) :
    SameTokens (l.run k) (m.run k') := by
  induction k generalizing n k' l m with
  | zero => cases hk
  | succ k ih =>
    obtain ⟨k', rfl⟩ := Nat.exists_eq_add_one.2 (by omega : 0 < k')
    have hm := h.toAlike.sound hl
    cases h.tight.skipToToken (Nat.lt_succ_self _) h.cursor.length_lt with
    | ended hends => exact hends.run hl hm rfl rfl
    | token hmoves hnone hatEnd =>
      cases hrest : (Layout.skipToToken (l.cursor.rest.length + 1) l).cursor.rest with
      | nil =>
        have hends : Ends p _ _ := ⟨hmoves.toAlike, hrest, hatEnd hrest⟩
        exact hends.run hl hm rfl rfl
      | cons c rest =>
        have hlength := hmoves.cursor.length.trans h.cursor.length
        rw [hrest, List.length_cons] at hlength
        obtain ⟨n, rfl⟩ := Nat.exists_eq_add_one.2 (by omega : 0 < n)
        have hstep := (hmoves.mono h.cursor.length).step rfl rfl hrest hnone
        have hsound := hl.step_of_cons rfl hrest
        rw [Layout.run, Layout.run]
        rw [keepsBreak] at hkeeps
        generalize l.step = x at hstep hsound
        generalize m.step = y at hstep hkeeps
        cases hstep with
        | error e => exact .inl (by rw [h.settled])
        | @ok x y hrelated =>
          rcases x with ⟨o, last⟩
          rcases y with ⟨q, last'⟩
          obtain ⟨harrives, rfl, rfl⟩ := hrelated
          have ho : o.Sound := hsound _ rfl
          dsimp only at hkeeps ⊢
          cases harrives with
          | moves hmoves =>
            refine ih hmoves ho (by omega) (by omega) fun hextra => ?_
            exact (Bool.or_eq_false_iff.1 (hkeeps hextra)).2
          | ended hends =>
            obtain ⟨k, rfl⟩ := Nat.exists_eq_add_one.2 (by omega : 0 < k)
            obtain ⟨k', rfl⟩ := Nat.exists_eq_add_one.2 (by omega : 0 < k')
            exact hends.run ho (hends.toAlike.sound ho) (skipToToken_of_nil hends.cursor.1)
              (skipToToken_of_nil hends.cursor.2)
          | broken hextra hbreak =>
            rw [hbreak, Bool.true_or] at hkeeps
            cases hkeeps hextra

end Layout
end Yaml
end DocMarkup
