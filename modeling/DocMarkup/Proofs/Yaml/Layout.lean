import DocMarkup.Yaml.Layout
import Mathlib.Data.List.Nodup

/-!
# Invariants of layouts

While tokens are found, each depth of brackets has one place at most where a key may begin, required
keys stand outside brackets, and the depth is the number of brackets that are open. The mark of the
end of the text is the last token.

Main definitions:

- {lit}`Yaml.Token.opens`, {lit}`Yaml.Token.closes`: the brackets.
- {lit}`Yaml.Layout.Sound`: what holds of a layout before the text has ended.
- {lit}`Yaml.Layout.Broken`: the tokens of a text that is no document.

Main results:

- Theorem {lit}`Yaml.Layout.Sound.step_of_cons`: a token found in a sound layout leaves it sound.
- Theorem {lit}`Yaml.Layout.run_of_nil`: the tokens of a text where only white space is left.
- Theorem {lit}`Yaml.Layout.Sound.broken_of_nil`: a text that ends inside brackets or at a required key
  is no document.
-/

namespace DocMarkup
namespace Yaml

variable {α β : Type}

/-! ## Outcomes -/

/-- What holds of a value, if there is one. -/
def Ensures (P : α → Prop) (x : Except Fault α) : Prop := ∀ a, x = .ok a → P a

theorem Ensures.error {P : α → Prop} (e : Fault) : Ensures P (.error e) := nofun

theorem Ensures.ok {P : α → Prop} {a : α} (h : P a) : Ensures P (.ok a) := by
  rintro _ ⟨rfl⟩
  exact h

theorem Ensures.bind {P : α → Prop} {Q : β → Prop} {x : Except Fault α} {f : α → Except Fault β}
    (h : Ensures P x) (hf : ∀ a, P a → Ensures Q (f a)) : Ensures Q (x >>= f) := by
  cases x with
  | error e => exact .error e
  | ok a => exact hf a (h a rfl)

/-- Whatever is read, what follows it holds. -/
theorem Ensures.bind_any {Q : β → Prop} {x : Except Fault α} {f : α → Except Fault β}
    (hf : ∀ a, Ensures Q (f a)) : Ensures Q (x >>= f) :=
  Ensures.bind (P := fun _ => True) (fun _ _ => trivial) fun a _ => hf a

theorem Ensures.ite {P : α → Prop} {a : Prop} [Decidable a] {x y : Except Fault α}
    (hx : a → Ensures P x) (hy : ¬ a → Ensures P y) : Ensures P (if a then x else y) := by
  by_cases ha : a
  · rw [if_pos ha]
    exact hx ha
  · rw [if_neg ha]
    exact hy ha

/-! ## Tokens -/

namespace Token

/-- An opening bracket. -/
def opens : Token → Bool
  | .flowSequenceStart | .flowMappingStart => true
  | _ => false

/-- A closing bracket. -/
def closes : Token → Bool
  | .flowSequenceEnd | .flowMappingEnd => true
  | _ => false

/-- The mark of the end of the text. -/
def isLast : Token → Bool
  | .streamEnd => true
  | _ => false

/-- A token that is neither a bracket nor the mark of the end of the text. -/
def isInner (t : Token) : Bool := !(t.opens || t.closes || t.isLast)

end Token

namespace Layout

variable {l : Layout} {t : Token} {column : Int}

/-- What holds of a layout before the text has ended. -/
structure Sound (l : Layout) : Prop where
  levels : (l.keys.map (·.level)).Nodup
  required : ∀ k ∈ l.keys, k.required = true → k.level = 0
  depth : l.tokens.countP Token.opens = l.tokens.countP Token.closes + l.level
  goesOn : l.tokens.any Token.isLast = false

/-- The layout at the beginning of a text is sound. -/
theorem sound_start (s : Text) : (start s).Sound :=
  ⟨List.nodup_nil, nofun, rfl, rfl⟩

/-- A token that is no bracket can be put behind the others. -/
theorem Sound.emit (h : l.Sound) (ht : t.isInner = true) : (l.emit t).Sound := by
  unfold Token.isInner at ht
  simp only [Bool.not_eq_true', Bool.or_eq_false_iff] at ht
  refine ⟨h.levels, h.required, ?_, ?_⟩
  · simpa [Layout.emit, ht] using h.depth
  · simpa [Layout.emit, ht] using h.goesOn

/-- A token that is no bracket can be put among the others. -/
theorem Sound.emitBehind (h : l.Sound) (ht : t.isInner = true) (count : Nat) :
    (l.emitBehind count t).Sound := by
  unfold Token.isInner at ht
  simp only [Bool.not_eq_true', Bool.or_eq_false_iff] at ht
  have happend := List.take_append_drop (l.tokens.length - count) l.tokens
  have hdepth := h.depth
  have hgoesOn := h.goesOn
  rw [← happend, List.countP_append, List.countP_append] at hdepth
  rw [← happend, List.any_append] at hgoesOn
  refine ⟨h.levels, h.required, ?_, ?_⟩
  · simpa [Layout.emitBehind, ht, List.countP_append] using hdepth
  · simpa [Layout.emitBehind, ht, List.any_append] using hgoesOn

/-! ## Keys -/

/-- Fewer places where a key may begin leave a layout sound. -/
theorem Sound.filterKeys (h : l.Sound) (q : KeyPlace → Bool) :
    Sound { l with keys := l.keys.filter q } :=
  ⟨h.levels.sublist (List.filter_sublist.map _), fun k hk => h.required k (List.mem_of_mem_filter hk),
    h.depth, h.goesOn⟩

/-- The place of a key that is given up. -/
theorem Sound.dropKey (h : l.Sound) :
    Ensures (fun m => m.Sound ∧ m.level = l.level ∧ ∀ k ∈ m.keys, k.level ≠ l.level) l.dropKey := by
  unfold Layout.dropKey
  refine .ite (fun _ => .error _) fun _ => .ok ⟨h.filterKeys _, rfl, fun k hk => ?_⟩
  simpa using (List.mem_filter.1 hk).2

/-- The place of a key that is remembered. -/
theorem Sound.saveKey (h : l.Sound) : Ensures Sound l.saveKey := by
  unfold Layout.saveKey
  refine .ite (fun _ => ?_) fun _ => .ok h
  refine h.dropKey.bind ?_
  rintro m ⟨hm, hlevel, hkeys⟩
  refine .ok ⟨?_, ?_, hm.depth, hm.goesOn⟩
  · refine List.nodup_cons.2 ⟨?_, hm.levels⟩
    rw [List.mem_map]
    rintro ⟨k, hk, hsame⟩
    exact hkeys k hk (hsame.trans hlevel)
  · intro k hk hrequired
    rcases List.mem_cons.1 hk with rfl | hk
    · simp only [Bool.and_eq_true, beq_iff_eq] at hrequired
      exact hrequired.1
    · exact hm.required k hk hrequired

/-- Places of keys that have ended are given up. -/
theorem Sound.dropStaleKeys (h : l.Sound) : Ensures Sound l.dropStaleKeys :=
  .ite (fun _ => .error _) fun _ => .ok (h.filterKeys _)

/-! ## Indentation -/

/-- The block collection that is indented deepest, closed. -/
def closeBlock (l : Layout) : Layout :=
  { l with indent := l.outerIndents.headD (-1), outerIndents := l.outerIndents.tail }.emit .blockEnd

theorem closeBlocks_succ (column : Int) (fuel : Nat) (l : Layout) :
    closeBlocks column (fuel + 1) l =
      if column < l.indent then closeBlocks column fuel l.closeBlock else l := rfl

theorem closeBlock_indent (l : Layout) : l.closeBlock.indent = l.outerIndents.headD (-1) := rfl

theorem closeBlock_outerIndents (l : Layout) : l.closeBlock.outerIndents = l.outerIndents.tail :=
  rfl

/-- The deeper block collections closed, one after the other. -/
theorem unwind_of_level (h : l.level = 0) (hcolumn : -1 ≤ column) :
    l.unwind column = if column < l.indent then l.closeBlock.unwind column else l := by
  have hclosed : l.closeBlock.level = 0 := h
  rw [unwind, unwind, if_pos h, if_pos hclosed, closeBlocks_succ, closeBlock_outerIndents]
  cases houter : l.outerIndents with
  | nil =>
    have hindent : ¬ column < l.closeBlock.indent := by
      rw [closeBlock_indent, houter]
      exact Int.not_lt.2 hcolumn
    rw [List.tail_nil, List.length_nil, closeBlocks_succ column 0 l.closeBlock, if_neg hindent]
    rfl
  | cons indent outer => rfl

/-- The cursor and the places of keys do not matter where collections are closed. -/
theorem unwind_with (l : Layout) (column : Int) (c : Cursor) (b : Bool) (keys : List KeyPlace) :
    { l with cursor := c, mayBeginKey := b, keys := keys }.unwind column =
      { l.unwind column with cursor := c, mayBeginKey := b, keys := keys } := by
  have hclose : ∀ (fuel : Nat) (l : Layout),
      closeBlocks column fuel { l with cursor := c, mayBeginKey := b, keys := keys } =
        { closeBlocks column fuel l with cursor := c, mayBeginKey := b, keys := keys } := by
    intro fuel
    induction fuel with
    | zero => exact fun _ => rfl
    | succ fuel ih =>
      intro l
      rw [closeBlocks_succ, closeBlocks_succ]
      dsimp only
      split
      · exact ih l.closeBlock
      · rfl
  unfold unwind
  dsimp only
  split
  · exact hclose _ l
  · rfl

theorem cursor_unwind (l : Layout) (column : Int) : (l.unwind column).cursor = l.cursor :=
  congrArg (·.cursor) (unwind_with l column l.cursor l.mayBeginKey l.keys)

theorem keys_unwind (l : Layout) (column : Int) : (l.unwind column).keys = l.keys :=
  congrArg (·.keys) (unwind_with l column l.cursor l.mayBeginKey l.keys)

/-- No bracket is closed with a block collection. -/
theorem level_unwind (l : Layout) (column : Int) : (l.unwind column).level = l.level := by
  have hclose : ∀ (fuel : Nat) (l : Layout), (closeBlocks column fuel l).level = l.level := by
    intro fuel
    induction fuel with
    | zero => exact fun _ => rfl
    | succ fuel ih =>
      intro l
      rw [closeBlocks_succ]
      split
      · exact ih l.closeBlock
      · rfl
  unfold unwind
  split
  · exact hclose _ l
  · rfl

/-- The layout is left alone inside brackets. -/
theorem unwind_of_level_ne (h : l.level ≠ 0) : l.unwind column = l := if_neg h

/-- Collections that end at a column end all the more with the text. -/
theorem unwind_unwind (hcolumn : -1 ≤ column) : (l.unwind column).unwind (-1) = l.unwind (-1) := by
  by_cases hlevel : l.level = 0
  · induction houter : l.outerIndents generalizing l with
    | nil =>
      rw [unwind_of_level hlevel hcolumn]
      split
      · next hindent =>
        have hclosed : ¬ column < l.closeBlock.indent := by
          rw [closeBlock_indent, houter]
          exact Int.not_lt.2 hcolumn
        rw [unwind_of_level hlevel (Int.le_refl _), if_pos (Int.lt_of_le_of_lt hcolumn hindent),
          unwind_of_level (l := l.closeBlock) hlevel hcolumn, if_neg hclosed]
      · rfl
    | cons indent outer ih =>
      rw [unwind_of_level hlevel hcolumn]
      split
      · next hindent =>
        rw [unwind_of_level hlevel (Int.le_refl _), if_pos (Int.lt_of_le_of_lt hcolumn hindent)]
        exact ih hlevel (by rw [closeBlock_outerIndents, houter, List.tail_cons])
      · rfl
  · rw [unwind_of_level_ne hlevel]

/-- Closed collections leave a layout sound. -/
theorem Sound.unwind (h : l.Sound) (column : Int) : (l.unwind column).Sound := by
  have hclose : ∀ (fuel : Nat) {l : Layout}, l.Sound → (closeBlocks column fuel l).Sound := by
    intro fuel
    induction fuel with
    | zero => exact fun h => h
    | succ fuel ih =>
      intro l h
      rw [closeBlocks]
      split
      · exact ih (Sound.emit ⟨h.levels, h.required, h.depth, h.goesOn⟩ rfl)
      · exact h
  unfold Layout.unwind
  split
  · exact hclose _ h
  · exact h

/-- A block collection that begins leaves a layout sound. -/
theorem Sound.deepen (h : l.Sound) (column : Nat) : (l.deepen column).2.Sound := by
  unfold Layout.deepen
  split
  · exact ⟨h.levels, h.required, h.depth, h.goesOn⟩
  · exact h

/-- A block collection that may begin leaves a layout sound. -/
theorem Sound.beginBlock (h : l.Sound) (ht : t.isInner = true) : Ensures Sound (l.beginBlock t) := by
  unfold Layout.beginBlock
  refine .ite (fun _ => .ok h) fun _ => .ite (fun _ => .error _) fun _ => .ok ?_
  have hdeeper := h.deepen l.cursor.column
  split
  · exact hdeeper.emit ht
  · exact hdeeper

/-! ## Tokens that are found -/

/-- Where the cursor stands, and whether a key may begin there, leave a layout sound. -/
theorem Sound.onward (h : l.Sound) (c : Cursor) (b : Bool) :
    Sound { l with cursor := c, mayBeginKey := b } :=
  ⟨h.levels, h.required, h.depth, h.goesOn⟩

/-- White space leaves a layout sound. -/
theorem Sound.skipToToken (h : l.Sound) (fuel : Nat) : (skipToToken fuel l).Sound := by
  induction fuel generalizing l with
  | zero => exact h
  | succ fuel ih =>
    rw [Layout.skipToToken]
    split
    · exact h.onward _ _
    · exact ih (h.onward _ _)

/-- A mark that is no bracket. -/
theorem Sound.pass (h : l.Sound) (ht : t.isInner = true) (width : Nat) : (l.pass width t).Sound :=
  (h.onward _ _).emit ht

theorem Sound.documentMark (h : l.Sound) (ht : t.isInner = true) :
    Ensures Sound (l.documentMark t) :=
  (h.unwind (-1)).dropKey.bind fun _ hm => .ok ((hm.1.onward _ _).pass ht 3)

theorem Sound.directive (h : l.Sound) : Ensures Sound l.directive :=
  (h.unwind (-1)).dropKey.bind fun _ hm => .bind_any fun _ => .ok ((hm.1.onward _ _).emit rfl)

theorem Sound.openFlow (h : l.Sound) (hopens : t.opens = true) (hcloses : t.closes = false)
    (hlast : t.isLast = false) : Ensures Sound (l.openFlow t) := by
  refine h.saveKey.bind fun m hm => .ok ⟨hm.levels, hm.required, ?_, ?_⟩
  · have hdepth := hm.depth
    simp only [Layout.pass, Layout.emit, List.countP_cons, hopens, hcloses]
    simp only [if_true, if_false, Bool.false_eq_true]
    omega
  · simpa [Layout.pass, Layout.emit, hlast] using hm.goesOn

theorem Sound.closeFlow (h : l.Sound) (hopens : t.opens = false) (hcloses : t.closes = true)
    (hlast : t.isLast = false) : Ensures Sound (l.closeFlow t) := by
  refine h.dropKey.bind fun m hm => ?_
  have hdepth := hm.1.depth
  cases hlevel : m.level with
  | zero => exact .error _
  | succ level =>
    refine .ok ⟨hm.1.levels, hm.1.required, ?_, ?_⟩
    · rw [hlevel] at hdepth
      simp only [Layout.pass, Layout.emit, List.countP_cons, hopens, hcloses]
      simp only [if_true, if_false, Bool.false_eq_true]
      omega
    · simpa [Layout.pass, Layout.emit, hlast] using hm.1.goesOn

theorem Sound.flowEntry (h : l.Sound) : Ensures Sound l.flowEntry :=
  (h.onward _ _).dropKey.bind fun _ hm => .ok (hm.1.pass rfl 1)

theorem Sound.blockEntry (h : l.Sound) : Ensures Sound l.blockEntry :=
  (h.beginBlock rfl).bind fun _ hm => (hm.onward _ _).dropKey.bind fun _ ho => .ok (ho.1.pass rfl 1)

theorem Sound.explicitKey (h : l.Sound) : Ensures Sound l.explicitKey :=
  (h.beginBlock rfl).bind fun _ hm => (hm.onward _ _).dropKey.bind fun _ ho => .ok (ho.1.pass rfl 1)

theorem Sound.value (h : l.Sound) : Ensures Sound l.value := by
  unfold Layout.value
  cases l.key? with
  | some k =>
    have hkey := (h.filterKeys (·.level ≠ l.level)).emitBehind (t := .key) rfl k.count
    refine .ok (Sound.pass (Sound.onward ?_ _ _) rfl 1)
    split
    · exact (hkey.deepen k.column).emitBehind rfl k.count
    · exact hkey
  | none =>
    exact (h.beginBlock rfl).bind fun _ hm => (hm.onward _ _).dropKey.bind fun _ ho =>
      .ok (ho.1.pass rfl 1)

theorem Sound.reference (h : l.Sound) {make : Text → Token}
    (hmake : ∀ name, (make name).isInner = true) : Ensures Sound (l.reference make) :=
  h.saveKey.bind fun _ hm => .bind_any fun _ => .ok ((hm.onward _ _).emit (hmake _))

theorem Sound.tag (h : l.Sound) : Ensures Sound l.tag :=
  h.saveKey.bind fun _ hm => .bind_any fun _ => .ok ((hm.onward _ _).emit rfl)

theorem Sound.blockScalar (h : l.Sound) (folded : Bool) : Ensures Sound (l.blockScalar folded) :=
  (h.onward _ _).dropKey.bind fun _ hm => .bind_any fun _ => .ok ((hm.1.onward _ _).emit rfl)

theorem Sound.quotedScalar (h : l.Sound) : Ensures Sound l.quotedScalar :=
  h.saveKey.bind fun _ hm => .bind_any fun _ => .ok ((hm.onward _ _).emit rfl)

theorem Sound.plainScalar (h : l.Sound) : Ensures Sound l.plainScalar :=
  h.saveKey.bind fun _ hm => .ok ((hm.onward _ _).emit rfl)

/-- A token that is found leaves a layout sound. -/
theorem Sound.token (h : l.Sound) (c : Char) (after : Option Char) :
    Ensures Sound (l.token c after) := by
  unfold Layout.token
  refine .ite (fun _ => h.directive) fun _ => ?_
  refine .ite (fun _ => h.documentMark rfl) fun _ => ?_
  refine .ite (fun _ => h.documentMark rfl) fun _ => ?_
  refine .ite (fun _ => h.openFlow rfl rfl rfl) fun _ => ?_
  refine .ite (fun _ => h.openFlow rfl rfl rfl) fun _ => ?_
  refine .ite (fun _ => h.closeFlow rfl rfl rfl) fun _ => ?_
  refine .ite (fun _ => h.closeFlow rfl rfl rfl) fun _ => ?_
  refine .ite (fun _ => h.flowEntry) fun _ => ?_
  refine .ite (fun _ => h.blockEntry) fun _ => ?_
  refine .ite (fun _ => h.explicitKey) fun _ => ?_
  refine .ite (fun _ => h.value) fun _ => ?_
  refine .ite (fun _ => h.reference fun _ => rfl) fun _ => ?_
  refine .ite (fun _ => h.reference fun _ => rfl) fun _ => ?_
  refine .ite (fun _ => h.tag) fun _ => ?_
  refine .ite (fun _ => h.blockScalar false) fun _ => ?_
  refine .ite (fun _ => h.blockScalar true) fun _ => ?_
  refine .ite (fun _ => h.quotedScalar) fun _ => ?_
  exact .ite (fun _ => h.plainScalar) fun _ => .error _

/-- The step in front of a token. -/
theorem step_of_cons {m : Layout} {c : Char} {rest : Text}
    (hskip : Layout.skipToToken (l.cursor.rest.length + 1) l = m)
    (hrest : m.cursor.rest = c :: rest) :
    l.step = m.dropStaleKeys >>= fun o =>
      (o.unwind o.cursor.column).token c rest.head? >>= fun o => .ok (o, false) := by
  unfold step
  rw [hskip]
  unfold Layout.dropStaleKeys
  split
  · rfl
  · dsimp only [bind, Except.bind]
    rw [cursor_unwind]
    dsimp only
    rw [hrest]
    rfl

/-- A step in front of a token leaves a layout sound. -/
theorem Sound.step_of_cons {m : Layout} {c : Char} {rest : Text} (h : l.Sound)
    (hskip : Layout.skipToToken (l.cursor.rest.length + 1) l = m)
    (hrest : m.cursor.rest = c :: rest) :
    Ensures (fun x => x.1.Sound) l.step := by
  rw [Layout.step_of_cons hskip hrest]
  refine (hskip ▸ h.skipToToken _ : m.Sound).dropStaleKeys.bind fun o ho => ?_
  exact ((ho.unwind _).token _ _).bind fun q hq => .ok hq

/-! ## The end of the text -/

/-- The layout without the places of keys that have ended. -/
def fresh (l : Layout) : Layout := { l with keys := l.keys.filter fun k => !l.isStale k }

/-- Whether a required key is given up where the text ends: one that must have ended, or the one of
the current level. -/
def holdsKey (l : Layout) : Bool :=
  (l.keys.any fun k => l.isStale k && k.required) || l.fresh.key?.any (·.required)

/-- A sound layout outside brackets gives up a required key where the text ends if there is one. -/
theorem Sound.holdsKey_eq (h : l.Sound) (hlevel : l.level = 0) :
    l.holdsKey = l.keys.any (·.required) := by
  rw [Bool.eq_iff_iff, holdsKey, Bool.or_eq_true, List.any_eq_true, List.any_eq_true]
  constructor
  · rintro (⟨k, hk, hrequired⟩ | hfound)
    · exact ⟨k, hk, (Bool.and_eq_true_iff.1 hrequired).2⟩
    · rcases (Option.any_eq_true _ _).1 hfound with ⟨k, hk, hrequired⟩
      exact ⟨k, List.mem_of_mem_filter (List.mem_of_find?_eq_some hk), hrequired⟩
  · rintro ⟨k, hk, hrequired⟩
    by_cases hstale : l.isStale k = true
    · exact .inl ⟨k, hk, by rw [hstale, hrequired]; rfl⟩
    -- the key has level 0, and is the only one that has
    have hzero := h.required k hk hrequired
    have hfresh : k ∈ l.fresh.keys := List.mem_filter.2 ⟨hk, by simpa using hstale⟩
    refine .inr ?_
    cases hfind : l.fresh.key? with
    | none =>
      have hnone := List.find?_eq_none.1 hfind k hfresh
      simp [hzero, fresh, hlevel] at hnone
    | some o =>
      have hlevel' : o.level = l.fresh.level := by simpa using List.find?_some hfind
      have hsame : o = k := by
        refine List.inj_on_of_nodup_map h.levels
          (List.mem_of_mem_filter (List.mem_of_find?_eq_some hfind)) hk ?_
        rw [hlevel', hzero]
        exact hlevel
      rw [hsame]
      exact hrequired

/-- The key of the current level, where collections are closed. -/
theorem key?_unwind (l : Layout) (column : Int) : (l.unwind column).key? = l.key? := by
  rw [key?, keys_unwind, level_unwind]
  rfl

/-- The text does not end where a required key begins. -/
theorem finish_of_key (hcolumn : -1 ≤ column) (h : l.key?.any (·.required) = true) :
    (l.unwind column).finish = .error .malformed := by
  unfold finish dropKey
  rw [unwind_unwind hcolumn, key?_unwind, if_pos h]
  rfl

/-- The last token, behind the ends of all block collections. -/
theorem finish_of_no_key (hcolumn : -1 ≤ column) (h : l.key?.any (·.required) = false) :
    ∃ o, (l.unwind column).finish = .ok o ∧ o.tokens = .streamEnd :: (l.unwind (-1)).tokens := by
  unfold finish dropKey
  rw [unwind_unwind hcolumn, key?_unwind, h]
  exact ⟨_, rfl, rfl⟩

/-- The step at the end of the text. -/
theorem step_of_nil {m : Layout} (hskip : skipToToken (l.cursor.rest.length + 1) l = m)
    (hnil : m.cursor.rest = []) :
    l.step = m.dropStaleKeys >>= fun o =>
      (o.unwind o.cursor.column).finish >>= fun o => .ok (o, true) := by
  unfold step
  rw [hskip]
  unfold dropStaleKeys
  split
  · rfl
  · dsimp only [bind, Except.bind]
    rw [cursor_unwind]
    dsimp only
    rw [hnil]
    rfl

/-- The tokens of a text where only white space is left. -/
theorem run_of_nil {fuel : Nat} {m : Layout}
    (hskip : skipToToken (l.cursor.rest.length + 1) l = m) (hnil : m.cursor.rest = []) :
    l.run (fuel + 1) =
      if m.holdsKey then (l.settled, some .malformed)
      else ((.streamEnd :: (m.unwind (-1)).tokens).reverse, none) := by
  have htokens : (m.fresh.unwind (-1)).tokens = (m.unwind (-1)).tokens :=
    congrArg (·.tokens) (unwind_with m (-1) m.cursor m.mayBeginKey m.fresh.keys)
  have hcolumn : -1 ≤ (m.fresh.cursor.column : Int) := by omega
  rw [run, step_of_nil hskip hnil]
  unfold dropStaleKeys holdsKey
  by_cases hstale : (m.keys.any fun k => m.isStale k && k.required) = true
  · rw [if_pos hstale, hstale]
    rfl
  · rw [if_neg hstale, Bool.eq_false_iff.2 hstale, Bool.false_or, ← fresh]
    by_cases hkey : m.fresh.key?.any (·.required) = true
    · dsimp only [bind, Except.bind]
      rw [finish_of_key hcolumn hkey, if_pos hkey]
    · rcases finish_of_no_key hcolumn (Bool.eq_false_iff.2 hkey) with ⟨o, ho, hlast⟩
      dsimp only [bind, Except.bind]
      rw [ho, if_neg hkey]
      dsimp only
      rw [hlast, htokens]

/-- Tokens of a text that is no document: it is malformed before it has ended, or a bracket is open at
its end. -/
inductive Broken : List Token × Option Fault → Prop where
  | malformed (tokens : List Token) (goesOn : tokens.any Token.isLast = false) :
    Broken (tokens, some .malformed)
  | bracket (tokens : List Token) (depth : tokens.countP Token.opens ≠ tokens.countP Token.closes) :
    Broken (tokens, none)

/-- The settled tokens of a sound layout do not end the text. -/
theorem Sound.settled (h : l.Sound) : l.settled.any Token.isLast = false := by
  rw [List.any_eq_false]
  intro t ht
  have hmem := (List.take_sublist _ _).subset ht
  exact List.any_eq_false.1 h.goesOn t (List.mem_reverse.1 hmem)

/-- A text that ends inside brackets or at a required key is no document. -/
theorem Sound.broken_of_nil {fuel : Nat} {m : Layout} (h : l.Sound)
    (hskip : Layout.skipToToken (l.cursor.rest.length + 1) l = m) (hnil : m.cursor.rest = [])
    (hopen : m.level = 0 → m.holdsKey = true) : Broken (l.run (fuel + 1)) := by
  rw [run_of_nil hskip hnil]
  split
  · exact .malformed _ h.settled
  · next hholds =>
    have hlevel := mt hopen hholds
    have hdepth := (hskip ▸ h.skipToToken _ : m.Sound).depth
    refine .bracket _ ?_
    rw [unwind_of_level_ne hlevel, List.countP_reverse, List.countP_reverse,
      List.countP_cons_of_neg (by decide), List.countP_cons_of_neg (by decide)]
    omega

end Layout
end Yaml
end DocMarkup
