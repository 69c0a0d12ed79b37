import DocMarkup.Yaml.Cursor
import Mathlib.Data.List.TakeWhile

/-!
# Texts placed in other texts

A text may stand in a larger one, with characters in front of it, a line break behind it, and each NEL
in it written as LF. A reader that stands at the same place in both sees the same characters, as far
as it tells line breaks from the end of the text and from each other. Only the line break behind the
text can make a difference: where it is passed over in one, both texts have ended.

Main definitions:

- {lit}`Yaml.Placement`: how a text stands in another one.
- {lit}`Yaml.Cursor.Placed`: a cursor at the same place of both.
- {lit}`Yaml.Cursor.Follows`: the same, unless both texts have ended.

Main results:

- Theorems {lit}`Yaml.Cursor.Placed.next`, {lit}`Yaml.Cursor.Placed.takeWhile` and
  {lit}`Yaml.Cursor.Placed.atMark`: what a reader does at the same place of both.
- Theorem {lit}`Yaml.Cursor.Placed.lineBreak?_cases`: the line breaks at the same place of both.
-/

namespace DocMarkup
namespace Yaml

/-! ## Placements -/

/-- A line break that counts as LF and is never part of another one. -/
def isFeed (c : Char) : Bool := c == '\n' || c == '\u0085'

/-- How a text stands in another one: how many characters and lines are in front of it, whether its
NEL are written as LF, and the line break behind it, if there is one. -/
structure Placement where
  index : Nat
  line : Nat
  unified : Bool
  behind : Option Char
  isFeed_of_behind : ∀ b ∈ behind, isFeed b = true

namespace Placement

variable (p : Placement) {s head : Text} {c : Char} {q : Char → Bool}

/-- A character as it is written. -/
def feed (c : Char) : Char := if p.unified && c == '\u0085' then '\n' else c

/-- A text as it is written. -/
def text (s : Text) : Text := s.map p.feed ++ p.behind.toList

theorem text_cons (c : Char) (s : Text) : p.text (c :: s) = p.feed c :: p.text s := rfl

/-- What is written of no text is the line break behind it. -/
theorem text_nil : p.text [] = [] ∨ ∃ b, isFeed b = true ∧ p.text [] = [b] := by
  cases hbehind : p.behind with
  | none => exact Or.inl (by simp [text, hbehind])
  | some b => exact Or.inr ⟨b, p.isFeed_of_behind b hbehind, by simp [text, hbehind]⟩

/-- What does not tell the two feeds apart is the same of a character as it is written. -/
theorem class_feed {β : Type} {q : Char → β} (hq : q '\u0085' = q '\n') (c : Char) :
    q (p.feed c) = q c := by
  unfold feed
  split
  · next h =>
    have hc : c = '\u0085' := by
      simp only [Bool.and_eq_true, beq_iff_eq] at h
      exact h.2
    rw [hc, hq]
  · rfl

/-- What does not tell the two feeds apart is the same of every feed. -/
theorem class_of_isFeed {β : Type} {q : Char → β} (hq : q '\u0085' = q '\n')
    (hc : isFeed c = true) : q c = q '\n' := by
  rcases Bool.or_eq_true _ _ ▸ hc with h | h
  · rw [beq_iff_eq.1 h]
  · rw [beq_iff_eq.1 h, hq]

/-- A character of a class without feeds is written as it is. -/
theorem feed_eq (hq : q '\u0085' = false) (hc : q c = true) : p.feed c = c := by
  unfold feed
  split
  · next h =>
    simp only [Bool.and_eq_true, beq_iff_eq] at h
    rw [h.2, hq] at hc
    cases hc
  · rfl

/-- Whether a character is written as a certain one that is no feed. -/
theorem feed_eq_iff {x : Char} (hx : isFeed x = false) : p.feed c = x ↔ c = x := by
  rcases Bool.or_eq_false_iff.1 hx with ⟨hfeed, hnel⟩
  have hclass := p.class_feed (q := fun c => x == c) (hnel.trans hfeed.symm) c
  rw [eq_comm, ← beq_iff_eq, hclass, beq_iff_eq, eq_comm]

/-- A character that is no CR is not written as one. -/
theorem feed_ne_return (hc : c ≠ '\r') : p.feed c ≠ '\r' :=
  mt (p.feed_eq_iff rfl).1 hc

/-- How many characters stand behind a text. -/
def extra : Nat := p.behind.toList.length

/-- A text is written with as many characters, and the line break behind it. -/
theorem length_text (s : Text) : (p.text s).length = s.length + p.extra := by
  simp [text, extra]

/-- What is left of a text behind some characters is written as it is in the whole. -/
theorem drop_text {k : Nat} (hk : k ≤ s.length) : (p.text s).drop k = p.text (s.drop k) := by
  rw [text, text, List.drop_append_of_le_length (by simpa using hk), List.map_drop]

section Classes

variable (hfeed : q '\n' = false) (hnel : q '\u0085' = false)

include hfeed hnel

/-- A run of a class without feeds is written as it is, within a number of characters. -/
theorem takeWhile_take_text (k : Nat) (s : Text) :
    ((p.text s).take k).takeWhile q = (s.take k).takeWhile q := by
  induction s generalizing k with
  | nil =>
    rcases p.text_nil with hnil | ⟨b, hb, hnil⟩
    · rw [hnil]
    · have hnot : q b = false := (class_of_isFeed (hnel.trans hfeed.symm) hb).trans hfeed
      rw [hnil]
      cases k <;> simp [hnot]
  | cons c s ih =>
    cases k with
    | zero => simp
    | succ k =>
      rw [text_cons, List.take_succ_cons, List.take_succ_cons, List.takeWhile_cons,
        List.takeWhile_cons, p.class_feed (hnel.trans hfeed.symm)]
      split
      · next hc => rw [p.feed_eq hnel hc, ih]
      · rfl

/-- Some characters of a class without feeds are written as they are. -/
theorem take_text (k : Nat) (s : Text) :
    (((p.text s).take k).length = k ∧ ((p.text s).take k).all q = true ↔
        (s.take k).length = k ∧ (s.take k).all q = true) ∧
      ((s.take k).length = k ∧ (s.take k).all q = true →
        (p.text s).take k = s.take k ∧ (p.text s).drop k = p.text (s.drop k)) := by
  -- they are all of the class when the run of the class is as long as they are
  have hrun : ∀ l : Text, (l.take k).length = k ∧ (l.take k).all q = true ↔
      ((l.take k).takeWhile q).length = k := by
    intro l
    constructor
    · rintro ⟨hlength, hall⟩
      rwa [List.takeWhile_eq_self_iff.2 (List.all_eq_true.1 hall)]
    · intro hlength
      have hsublist := List.takeWhile_sublist q (l := l.take k)
      have hle : (l.take k).length ≤ ((l.take k).takeWhile q).length := by
        rw [hlength]
        exact List.length_take_le k l
      have hself := hsublist.eq_of_length_le hle
      rw [hself] at hlength
      exact ⟨hlength, List.all_eq_true.2 (List.takeWhile_eq_self_iff.1 hself)⟩
  refine ⟨by rw [hrun, hrun, p.takeWhile_take_text hfeed hnel], ?_⟩
  rintro ⟨hlength, hall⟩
  have hk : k ≤ s.length := by
    rw [← hlength]
    exact List.length_take_le' k s
  refine ⟨?_, p.drop_text hk⟩
  rw [text, List.take_append_of_le_length (by simpa using hk), ← List.map_take]
  refine (List.map_congr_left fun c hc => ?_).trans (List.map_id _)
  exact p.feed_eq hnel (List.all_eq_true.1 hall c hc)

/-- A run of a class without feeds is written as it is. -/
theorem takeWhile_text (s : Text) : (p.text s).takeWhile q = s.takeWhile q := by
  have htake := p.takeWhile_take_text hfeed hnel (p.text s).length s
  rw [List.take_length] at htake
  rw [htake, List.take_of_length_le]
  rw [length_text]
  exact Nat.le_add_right _ _

/-- What follows a run of a class without feeds is written as it is in the whole. -/
theorem dropWhile_text (s : Text) : (p.text s).dropWhile q = p.text (s.dropWhile q) := by
  induction s with
  | nil =>
    rcases p.text_nil with hnil | ⟨b, hb, hnil⟩
    · rw [List.dropWhile_nil, hnil, List.dropWhile_nil]
    · have hnot : q b = false := (class_of_isFeed (hnel.trans hfeed.symm) hb).trans hfeed
      rw [List.dropWhile_nil, hnil, List.dropWhile_cons_of_neg (by simp [hnot])]
  | cons c s ih =>
    rw [text_cons, List.dropWhile_cons, List.dropWhile_cons,
      p.class_feed (hnel.trans hfeed.symm)]
    split
    · exact ih
    · rfl

end Classes

/-- Whether a text begins with a head without feeds does not depend on how it is written. -/
theorem isPrefixOf_text {head : Text} (hhead : ∀ c ∈ head, isFeed c = false) (s : Text) :
    head.isPrefixOf (p.text s) = head.isPrefixOf s := by
  induction head generalizing s with
  | nil => cases s <;> rfl
  | cons c head ih =>
    rcases List.forall_mem_cons.1 hhead with ⟨hc, hhead⟩
    cases s with
    | nil =>
      rcases p.text_nil with hnil | ⟨b, hb, hnil⟩
      · rw [hnil]
      · have hne : (c == b) = false := by
          rw [beq_eq_false_iff_ne]
          rintro rfl
          rw [hb] at hc
          cases hc
        simp [hnil, List.isPrefixOf, hne]
    | cons d s =>
      -- the first character of the head is no feed, so it equals a feed in neither text
      have hsame : (c == p.feed d) = (c == d) := by
        rw [Bool.eq_iff_iff, beq_iff_eq, beq_iff_eq, eq_comm, p.feed_eq_iff hc, eq_comm]
      rw [text_cons, List.isPrefixOf, List.isPrefixOf, hsame, ih hhead]

end Placement

/-! ## What stands at a cursor -/

/-- A class of what may stand at a place that does not tell feeds and the end of the text apart. -/
structure IgnoresFeeds {β : Type} (q : Option Char → β) : Prop where
  feed : q (some '\n') = q none
  nel : q (some '\u0085') = q none

namespace Placement

variable (p : Placement) {β : Type} {q : Option Char → β}

/-- What stands at a place of a text, as far as feeds and the end are not told apart. -/
theorem class_getElem? (hq : IgnoresFeeds q) (s : Text) (k : Nat) :
    q (p.text s)[k]? = q s[k]? := by
  induction s generalizing k with
  | nil =>
    rcases p.text_nil with hnil | ⟨b, hb, hnil⟩
    · rw [hnil]
    · have hb : q (some b) = q none :=
        (class_of_isFeed (q := fun c => q (some c)) (hq.nel.trans hq.feed.symm) hb).trans hq.feed
      cases k <;> simp [hnil, hb]
  | cons c s ih =>
    cases k with
    | zero =>
      exact p.class_feed (q := fun c => q (some c)) (hq.nel.trans hq.feed.symm) c
    | succ k => exact ih k

/-- What a text begins with, as far as feeds and the end are not told apart. -/
theorem class_head? (hq : IgnoresFeeds q) (s : Text) : q (p.text s).head? = q s.head? := by
  rw [List.head?_eq_getElem?, List.head?_eq_getElem?, p.class_getElem? hq]

end Placement

theorem ignoresFeeds_endsWord : IgnoresFeeds endsWord := ⟨rfl, rfl⟩

theorem ignoresFeeds_isBlankOrEnd : IgnoresFeeds isBlankOrEnd := ⟨rfl, rfl⟩

/-- Whether a certain character stands at a place, for one that is no feed. -/
theorem ignoresFeeds_eq {x : Char} (hx : isFeed x = false) :
    IgnoresFeeds fun c => c == some x := by
  rcases Bool.or_eq_false_iff.1 hx with ⟨hfeed, hnel⟩
  exact ⟨BEq.comm.trans hfeed, BEq.comm.trans hnel⟩

namespace Cursor

variable {p : Placement} {m n k : Nat} {c c' d d' : Cursor} {q : Char → Bool}

/-! ## Cursors -/

/-- The cursor {lit}`c'` stands in the larger text where {lit}`c` stands in the one that is placed in
it. At most {lit}`n` characters are left of that one, and none of them is CR. -/
structure Placed (p : Placement) (n : Nat) (c c' : Cursor) : Prop where
  rest : c'.rest = p.text c.rest
  index : c'.index = c.index + p.index
  line : c'.line = c.line + p.line
  column : c'.column = c.column
  noReturn : '\r' ∉ c.rest
  length : c.rest.length ≤ n

/-- Both texts have ended. -/
def Ended (c c' : Cursor) : Prop := c.rest = [] ∧ c'.rest = []

/-- The cursors stand at the same place, or both texts have ended. -/
def Follows (p : Placement) (n : Nat) (c c' : Cursor) : Prop := Placed p n c c' ∨ Ended c c'

theorem Placed.mono (h : Placed p m c c') (hmn : m ≤ n) : Placed p n c c' :=
  { h with length := Nat.le_trans h.length hmn }

/-- How many characters are left of the larger text. -/
theorem Placed.length_rest (h : Placed p n c c') : c'.rest.length = c.rest.length + p.extra := by
  rw [h.rest, p.length_text]

/-- One more than what is left of the larger text. -/
theorem Placed.length_lt (h : Placed p n c c') : c.rest.length + p.extra < c'.rest.length + 1 := by
  rw [h.length_rest]
  exact Nat.lt_succ_self _

/-- Where the larger text has ended, the one that is placed in it has. -/
theorem Placed.rest_eq_nil (h : Placed p n c c') (hnil : c'.rest = []) : c.rest = [] := by
  rw [h.rest] at hnil
  exact List.map_eq_nil_iff.1 (List.append_eq_nil_iff.1 hnil).1

/-- The number of characters that are left is a bound of its own. -/
theorem Placed.tight (h : Placed p n c c') : Placed p c.rest.length c c' :=
  { h with length := Nat.le_refl _ }

/-- What stands some places behind the cursor, as far as feeds and the end are not told apart. -/
theorem Placed.peekAt (h : Placed p n c c') {β : Type} {q : Option Char → β}
    (hq : IgnoresFeeds q) (k : Nat) : q (c'.peekAt k) = q (c.peekAt k) := by
  rw [Cursor.peekAt, Cursor.peekAt, h.rest, p.class_getElem? hq]

/-- What stands at the cursor, as far as feeds and the end are not told apart. -/
theorem Placed.peek (h : Placed p n c c') {β : Type} {q : Option Char → β} (hq : IgnoresFeeds q) :
    q c'.peek = q c.peek := by
  rw [Cursor.peek, Cursor.peek, h.rest, p.class_head? hq]

/-- Whether a certain character stands some places behind the cursor. -/
theorem Placed.peekAt_eq (h : Placed p n c c') {x : Char} (hx : isFeed x = false) (k : Nat) :
    c'.peekAt k = some x ↔ c.peekAt k = some x := by
  have hpeek := h.peekAt (ignoresFeeds_eq hx) k
  rw [← beq_iff_eq, hpeek, beq_iff_eq]

/-- Whether a certain character stands at the cursor. -/
theorem Placed.peek_eq (h : Placed p n c c') {x : Char} (hx : isFeed x = false) :
    c'.peek = some x ↔ c.peek = some x := by
  have hpeek := h.peek (ignoresFeeds_eq hx)
  rw [← beq_iff_eq, hpeek, beq_iff_eq]

/-- Whether a mark stands at the cursor. -/
theorem Placed.atMark (h : Placed p n c c') {mark : Text} (hmark : ∀ c ∈ mark, isFeed c = false) :
    c'.atMark mark = c.atMark mark := by
  rw [Cursor.atMark, Cursor.atMark, startsWith, startsWith, h.rest, p.isPrefixOf_text hmark,
    h.peekAt ignoresFeeds_isBlankOrEnd]

/-- Whether a mark of a document stands at the cursor. -/
theorem Placed.atDocumentMark (h : Placed p n c c') :
    c'.atDocumentMark = c.atDocumentMark := by
  rw [Cursor.atDocumentMark, Cursor.atDocumentMark, h.atMark (by simp [isFeed]),
    h.atMark (by simp [isFeed])]

/-! ## Moving on -/

/-- The step over a character that is no CR. -/
theorem next_of_cons {x : Char} {rest : Text} (hrest : c.rest = x :: rest) (hx : x ≠ '\r') :
    c.next = if isBreak x then ⟨rest, c.index + 1, c.line + 1, 0⟩
      else if x.toNat == 0xFEFF then ⟨rest, c.index + 1, c.line, c.column⟩
      else ⟨rest, c.index + 1, c.line, c.column + 1⟩ := by
  have hreturn : (x == '\r') = false := by simpa using hx
  rw [Cursor.next, hrest]
  simp only [hreturn, Bool.false_and, Bool.not_false, Bool.and_true]

/-- A character is passed over in both texts. -/
theorem Placed.next (h : Placed p (n + 1) c c') (hne : c.rest ≠ []) :
    Placed p n c.next c'.next := by
  rcases List.exists_cons_of_ne_nil hne with ⟨x, rest, hrest⟩
  have hnoReturn := h.noReturn
  have hlength := h.length
  rw [hrest, List.mem_cons, not_or] at hnoReturn
  rw [hrest, List.length_cons, Nat.add_le_add_iff_right] at hlength
  have hreturn : p.feed x ≠ '\r' := p.feed_ne_return (Ne.symm hnoReturn.1)
  have hrest' : c'.rest = p.feed x :: p.text rest := by rw [h.rest, hrest, p.text_cons]
  rw [next_of_cons hrest (Ne.symm hnoReturn.1), next_of_cons hrest' hreturn,
    p.class_feed (q := isBreak) rfl, p.class_feed (q := fun c => c.toNat == 0xFEFF) rfl]
  have hindex : c'.index + 1 = c.index + 1 + p.index := by rw [h.index]; omega
  have hline : c'.line + 1 = c.line + 1 + p.line := by rw [h.line]; omega
  split
  · exact ⟨rfl, hindex, hline, rfl, hnoReturn.2, hlength⟩
  · split
    · exact ⟨rfl, hindex, h.line, h.column, hnoReturn.2, hlength⟩
    · exact ⟨rfl, hindex, h.line, congrArg (· + 1) h.column, hnoReturn.2, hlength⟩

/-- A character is passed over in both texts. -/
theorem Placed.step (h : Placed p n c c') (hne : c.rest ≠ []) : Placed p n c.next c'.next :=
  (h.mono (Nat.le_succ n)).next hne

/-- A text where a character stands has not ended. -/
theorem rest_ne_nil {x : Char} (h : c.peek = some x) : c.rest ≠ [] := by
  intro hnil
  rw [peek, hnil] at h
  cases h

/-- What is left behind a character. -/
theorem rest_next (c : Cursor) : c.next.rest = c.rest.tail := by
  unfold next
  split
  · next h => rw [h, List.tail_nil]
  · next h =>
    rw [h, List.tail_cons]
    split
    · rfl
    · split <;> rfl

/-- What is left behind some characters. -/
theorem rest_advance (k : Nat) (c : Cursor) : (c.advance k).rest = c.rest.drop k := by
  induction k generalizing c with
  | zero => rfl
  | succ k ih => rw [advance, ih, rest_next, List.drop_tail, Nat.add_comm]

/-- Some characters are passed over in both texts. -/
theorem Placed.advance_add (h : Placed p (n + k) c c') (hk : k ≤ c.rest.length) :
    Placed p n (c.advance k) (c'.advance k) := by
  induction k generalizing c c' with
  | zero => exact h
  | succ k ih =>
    have hne : c.rest ≠ [] := by
      intro hnil
      rw [hnil] at hk
      cases hk
    refine ih (h.next hne) ?_
    rw [rest_next, List.length_tail]
    omega

/-- Some characters are passed over in both texts. -/
theorem Placed.advance (h : Placed p n c c') (hk : k ≤ c.rest.length) :
    Placed p n (c.advance k) (c'.advance k) :=
  (h.mono (Nat.le_add_right n k)).advance_add hk

/-- Some characters are passed over in both texts, at least one of them. -/
theorem Placed.advance_pos (h : Placed p (n + 1) c c') (hpos : 0 < k) (hk : k ≤ c.rest.length) :
    Placed p n (c.advance k) (c'.advance k) := by
  obtain ⟨k, rfl⟩ : ∃ m, k = m + 1 := ⟨k - 1, by omega⟩
  have hne : c.rest ≠ [] := List.ne_nil_of_length_pos (Nat.lt_of_lt_of_le hpos hk)
  refine (h.next hne).advance ?_
  rw [rest_next, List.length_tail]
  omega

section Classes

variable (h : Placed p n c c') (hfeed : q '\n' = false) (hnel : q '\u0085' = false)

include h hfeed hnel

/-- A run of a class without feeds is the same in both texts. -/
theorem Placed.run : c'.rest.takeWhile q = c.rest.takeWhile q := by
  rw [h.rest, p.takeWhile_text hfeed hnel]

/-- A run of a class without feeds is passed over in both texts. -/
theorem Placed.skipWhile : Placed p n (c.skipWhile q) (c'.skipWhile q) := by
  unfold Cursor.skipWhile Cursor.takeWhile
  dsimp only
  rw [h.run hfeed hnel]
  exact h.advance (List.takeWhile_sublist q).length_le

/-- A run of a class without feeds that is not empty is passed over in both texts. -/
theorem Placed.skipWhile_pos (hpos : n = k + 1) (hrun : c.rest.takeWhile q ≠ []) :
    Placed p k (c.skipWhile q) (c'.skipWhile q) := by
  subst hpos
  unfold Cursor.skipWhile Cursor.takeWhile
  dsimp only
  rw [h.run hfeed hnel]
  exact h.advance_pos (List.length_pos_iff.2 hrun) (List.takeWhile_sublist q).length_le

/-- A run of a class without feeds is taken in both texts. -/
theorem Placed.takeWhile : ∃ d d', c.takeWhile q = (c.rest.takeWhile q, d) ∧
    c'.takeWhile q = (c.rest.takeWhile q, d') ∧ Placed p n d d' := by
  refine ⟨c.skipWhile q, c'.skipWhile q, rfl, ?_, h.skipWhile hfeed hnel⟩
  rw [← h.run hfeed hnel]
  rfl

end Classes

/-- Spaces are passed over in both texts. -/
theorem Placed.skipSpaces (h : Placed p n c c') : Placed p n c.skipSpaces c'.skipSpaces :=
  h.skipWhile rfl rfl

/-- A comment is passed over in both texts. -/
theorem Placed.skipComment (h : Placed p n c c') : Placed p n c.skipComment c'.skipComment := by
  have hpeek := h.peek_eq (x := '#') rfl
  unfold Cursor.skipComment
  by_cases hcomment : c.peek = some '#'
  · simp only [hcomment, hpeek.2 hcomment, beq_self_eq_true, if_true]
    exact h.skipWhile rfl rfl
  · simp only [hcomment, mt hpeek.1 hcomment, beq_iff_eq, if_false]
    exact h

/-! ## The end of a text -/

/-- What is left behind a run of a class. -/
theorem rest_skipWhile (q : Char → Bool) (c : Cursor) :
    (c.skipWhile q).rest = c.rest.dropWhile q := by
  have hdrop : (c.rest.takeWhile q ++ c.rest.dropWhile q).drop (c.rest.takeWhile q).length =
      c.rest.dropWhile q := List.drop_left
  rw [List.takeWhile_append_dropWhile] at hdrop
  unfold skipWhile takeWhile
  rw [rest_advance, hdrop]

/-- Nothing is passed over where no character of the class stands. -/
theorem skipWhile_of_run_nil (hrun : c.rest.takeWhile q = []) : c.skipWhile q = c := by
  unfold skipWhile takeWhile
  rw [hrun]
  rfl

/-- Nothing is passed over at the end of a text. -/
theorem skipWhile_of_nil (hrest : c.rest = []) (q : Char → Bool) : c.skipWhile q = c :=
  skipWhile_of_run_nil (by rw [hrest, List.takeWhile_nil])

/-- No mark of a document stands at the end of a text. -/
theorem atDocumentMark_of_nil (hrest : c.rest = []) : c.atDocumentMark = false := by
  unfold atDocumentMark atMark startsWith
  rw [hrest]
  rfl

/-! ## Line breaks -/

/-- The line break at a cursor on a character that is no CR. -/
theorem lineBreak?_of_cons {x : Char} {rest : Text} (hrest : c.rest = x :: rest) (hx : x ≠ '\r') :
    c.lineBreak? =
      if isBreak x then
        some (if x.toNat == 0x2028 || x.toNat == 0x2029 then x else '\n', c.next)
      else none := by
  unfold lineBreak?
  split
  · next h => rw [h] at hrest; cases hrest
  · next h =>
    rw [h] at hrest
    exact absurd (List.cons.inj hrest).1.symm hx
  · next h =>
    rw [h] at hrest
    rw [(List.cons.inj hrest).1]

/-- No line break stands at the end of a text. -/
theorem lineBreak?_of_nil (hrest : c.rest = []) : c.lineBreak? = none := by
  unfold lineBreak?
  rw [hrest]

/-- The line breaks at the same place of both texts: none, which is also the end of both if it is that
of one; the same one; or the one behind the text that is placed. -/
inductive LineBreaks (p : Placement) (n : Nat) (c c' : Cursor) : Prop where
  | neither (first : c.lineBreak? = none) (second : c'.lineBreak? = none)
    (atEnd : c.rest = [] → c'.rest = [])
  | both (m : Nat) (ch : Char) (d d' : Cursor) (bound : n = m + 1)
    (first : c.lineBreak? = some (ch, d)) (second : c'.lineBreak? = some (ch, d'))
    (placed : Placed p m d d')
  | behind (d' : Cursor) (extra : 0 < p.extra) (atEnd : c.rest = []) (first : c.lineBreak? = none)
    (second : c'.lineBreak? = some ('\n', d')) (ended : d'.rest = [])

/-- The line breaks at the same place of both texts. -/
theorem Placed.lineBreak?_cases (h : Placed p n c c') : LineBreaks p n c c' := by
  cases hrest : c.rest with
  | nil =>
    have hfirst : c.lineBreak? = none := lineBreak?_of_nil hrest
    rcases p.text_nil with hnil | ⟨b, hb, hnil⟩
    · have hrest' : c'.rest = [] := by rw [h.rest, hrest, hnil]
      exact .neither hfirst (lineBreak?_of_nil hrest') fun _ => hrest'
    · have hrest' : c'.rest = [b] := by rw [h.rest, hrest, hnil]
      have hreturn : b ≠ '\r' := by
        rintro rfl
        cases hb
      have hbreak : isBreak b = true := Placement.class_of_isFeed (q := isBreak) rfl hb
      have hline : (b.toNat == 0x2028 || b.toNat == 0x2029) = false :=
        Placement.class_of_isFeed (q := fun c => c.toNat == 0x2028 || c.toNat == 0x2029) rfl hb
      have hextra : 0 < p.extra := by
        have hlength := h.length_rest
        rw [hrest, hrest', List.length_nil, Nat.zero_add, List.length_singleton] at hlength
        exact hlength ▸ Nat.one_pos
      refine .behind c'.next hextra hrest hfirst ?_ ?_
      · rw [lineBreak?_of_cons hrest' hreturn, if_pos hbreak, hline]
        rfl
      · rw [rest_next, hrest']
        rfl
  | cons x rest =>
    have hnoReturn := h.noReturn
    rw [hrest, List.mem_cons, not_or] at hnoReturn
    have hrest' : c'.rest = p.feed x :: p.text rest := by rw [h.rest, hrest, p.text_cons]
    have hreturn : p.feed x ≠ '\r' := p.feed_ne_return (Ne.symm hnoReturn.1)
    have hfirst := lineBreak?_of_cons hrest (Ne.symm hnoReturn.1)
    have hsecond := lineBreak?_of_cons hrest' hreturn
    rw [p.class_feed (q := isBreak) rfl] at hsecond
    by_cases hbreak : isBreak x = true
    · rw [if_pos hbreak] at hfirst hsecond
      have hlength := h.length
      rw [hrest, List.length_cons] at hlength
      obtain ⟨m, rfl⟩ : ∃ m, n = m + 1 := ⟨n - 1, by omega⟩
      have hchar : (if (p.feed x).toNat == 0x2028 || (p.feed x).toNat == 0x2029 then p.feed x
          else '\n') = if x.toNat == 0x2028 || x.toNat == 0x2029 then x else '\n' := by
        rw [p.class_feed (q := fun c => c.toNat == 0x2028 || c.toNat == 0x2029) rfl]
        split
        · next hsep =>
          exact p.feed_eq (q := fun c => c.toNat == 0x2028 || c.toNat == 0x2029) rfl hsep
        · rfl
      rw [hchar] at hsecond
      exact .both m _ _ _ rfl hfirst hsecond (h.next (by simp [hrest]))
    · rw [if_neg hbreak] at hfirst hsecond
      exact .neither hfirst hsecond fun hnil => by rw [hrest] at hnil; cases hnil

end Cursor
end Yaml
end DocMarkup
