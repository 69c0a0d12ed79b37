import DocMarkup.Proofs.Yaml.Bracket
import DocMarkup.Proofs.Yaml.Placed.Layout
import DocMarkup.Yaml.Document

/-!
# Documents of placed texts

A text has the same value when line feeds stand in front of it, when NEL in it are written as LF, and
when a line break stands behind it in which no scalar ends. Only a byte order mark at its beginning
must not be behind line feeds.

Main definitions:

- {lit}`Yaml.Layout.behind`: the layout at the beginning of a text behind line feeds.

Main results:

- Theorem {lit}`Yaml.Placement.sameTokens_layout`: the tokens of a text and of one it is placed in.
- Theorem {lit}`Yaml.Placement.read_placed`: their values.
-/

namespace DocMarkup
namespace Yaml

namespace Layout

variable {p : Placement} {k : Nat} {l m : Layout} {lead s : Text}

/-! ## The beginning of a text -/

/-- The layout at the beginning of a text, with line feeds in front of it. -/
def behind (lead s : Text) : Layout :=
  { start [] with cursor := ⟨s, lead.length, lead.length, 0⟩ }

/-- A text that begins with no byte order mark begins with its first character. -/
theorem start_eq (hmark : s.head?.any (·.toNat == 0xFEFF) = false) :
    start s = { start [] with cursor := Cursor.start s } := by
  have hpeek : (Cursor.start s).peek.any (·.toNat == 0xFEFF) = false := hmark
  unfold start
  simp only [hpeek]
  rfl

/-- The beginnings of a text and of one that nothing stands in front of are the same place. -/
theorem moves_start (hindex : p.index = 0) (hline : p.line = 0) (hreturn : '\r' ∉ s) :
    Moves p s.length (start s) (start (p.text s)) := by
  have hplaced : Cursor.Placed p s.length (Cursor.start s) (Cursor.start (p.text s)) :=
    ⟨rfl, by rw [hindex]; rfl, by rw [hline]; rfl, rfl, hreturn, Nat.le_refl _⟩
  have hmark : IgnoresFeeds fun c : Option Char => c.any (·.toNat == 0xFEFF) := ⟨rfl, rfl⟩
  refine ⟨⟨rfl, rfl, rfl, rfl, rfl⟩, ?_, rfl⟩
  unfold start
  dsimp only
  rw [hplaced.peek hmark]
  split
  · next hmark =>
    refine hplaced.step fun hnil => ?_
    rw [Cursor.peek, hnil] at hmark
    cases hmark
  · exact hplaced

/-- The beginning of a text is the same place behind line feeds, unless a byte order mark stands
there. -/
theorem moves_behind (hindex : p.index = lead.length) (hline : p.line = lead.length)
    (hmark : s.head?.any (·.toNat == 0xFEFF) = false) (hreturn : '\r' ∉ s) :
    Moves p s.length (start s) (behind lead (p.text s)) := by
  rw [start_eq hmark]
  refine ⟨⟨rfl, rfl, rfl, rfl, rfl⟩, ⟨rfl, ?_, ?_, rfl, hreturn, Nat.le_refl _⟩, rfl⟩
  · exact hindex.symm.trans (Nat.zero_add _).symm
  · exact hline.symm.trans (Nat.zero_add _).symm

/-! ## Line feeds in front of a text -/

/-- A line feed in front of a token is passed over. -/
theorem skipToToken_feed {c : Char} (hc : isFeed c = true) (hrest : l.cursor.rest = c :: s)
    (hbegins : l.mayBeginKey = true) (k : Nat) :
    skipToToken (k + 1) l =
      skipToToken k { l with cursor := ⟨s, l.cursor.index + 1, l.cursor.line + 1, 0⟩ } := by
  have hclass : c ≠ '\r' ∧ c ≠ '#' ∧ (c == ' ') = false ∧ isBreak c = true := by
    rcases Bool.or_eq_true _ _ ▸ hc with h | h <;> rw [beq_iff_eq.1 h] <;> decide
  rcases hclass with ⟨hreturn, hcomment, hspace, hbreak⟩
  have hspaces : l.cursor.skipSpaces = l.cursor :=
    Cursor.skipWhile_of_run_nil (by rw [hrest, List.takeWhile_cons, hspace]; rfl)
  have hcomments : l.cursor.skipComment = l.cursor := by
    unfold Cursor.skipComment Cursor.peek
    simp [hrest, hcomment]
  rw [skipToToken, hspaces, hcomments, Cursor.lineBreak?_of_cons hrest hreturn, if_pos hbreak,
    Cursor.next_of_cons hrest hreturn, if_pos hbreak]
  simp only [hbegins, Bool.true_or]

/-- Line feeds in front of a token are passed over. -/
theorem skipToToken_lead (hlead : ∀ c ∈ lead, isFeed c = true)
    (hrest : l.cursor.rest = lead ++ s) (hcolumn : l.cursor.column = 0)
    (hbegins : l.mayBeginKey = true) (k : Nat) :
    skipToToken (lead.length + k) l = skipToToken k
      { l with cursor := ⟨s, l.cursor.index + lead.length, l.cursor.line + lead.length, 0⟩ } := by
  induction lead generalizing l with
  | nil =>
    rw [List.nil_append] at hrest
    rw [List.length_nil, Nat.zero_add, Nat.add_zero, Nat.add_zero, ← hrest, ← hcolumn]
  | cons c lead ih =>
    rcases List.forall_mem_cons.1 hlead with ⟨hc, hlead⟩
    rw [List.length_cons, Nat.add_right_comm, skipToToken_feed hc hrest hbegins]
    have hrest : ({ l with cursor := ⟨lead ++ s, l.cursor.index + 1, l.cursor.line + 1, 0⟩ } :
        Layout).cursor.rest = lead ++ s := rfl
    refine (ih hlead hrest rfl hbegins).trans ?_
    simp only [Nat.add_assoc, Nat.add_comm 1]

/-- A step depends on what it finds in front of it only. -/
theorem step_congr
    (h : skipToToken (l.cursor.rest.length + 1) l = skipToToken (m.cursor.rest.length + 1) m) :
    l.step = m.step := by
  unfold step
  rw [h]

theorem run_congr (hstep : l.step = m.step) (hsettled : l.settled = m.settled) (k : Nat) :
    l.run k = m.run k := by
  cases k with
  | zero => rw [run, run, hsettled]
  | succ k => rw [run, run, hstep, hsettled]

theorem keepsBreak_congr (hstep : l.step = m.step) (k : Nat) : keepsBreak k l = keepsBreak k m := by
  cases k with
  | zero => rfl
  | succ k => rw [keepsBreak, keepsBreak, hstep]

/-- Line feeds at the beginning of a text are passed over in the first step. -/
theorem step_start (hlead : ∀ c ∈ lead, isFeed c = true) (hne : lead ≠ []) (s : Text) :
    (start (lead ++ s)).step = (behind lead s).step := by
  have hmark : (lead ++ s).head?.any (·.toNat == 0xFEFF) = false := by
    rcases List.exists_cons_of_ne_nil hne with ⟨c, rest, rfl⟩
    rcases Bool.or_eq_true _ _ ▸ hlead c List.mem_cons_self with h | h
    · rw [beq_iff_eq.1 h]
      rfl
    · rw [beq_iff_eq.1 h]
      rfl
  refine step_congr ?_
  rw [start_eq hmark]
  have hlength : (lead ++ s).length + 1 = lead.length + (s.length + 1) := by
    rw [List.length_append, Nat.add_assoc]
  change skipToToken ((lead ++ s).length + 1) _ = skipToToken (s.length + 1) _
  rw [hlength, skipToToken_lead hlead rfl rfl rfl]
  simp only [Cursor.start, Nat.zero_add]
  rfl

end Layout

/-! ## Values -/

namespace Placement

open Layout

variable (p : Placement) {lead s : Text}

/-- A text has the same tokens as one that it is placed in behind line feeds. -/
theorem sameTokens_layout (hindex : p.index = lead.length) (hline : p.line = lead.length)
    (hlead : ∀ c ∈ lead, isFeed c = true) (hreturn : '\r' ∉ s)
    (hmark : lead ≠ [] → s.head?.any (·.toNat == 0xFEFF) = false)
    (hkeeps : 0 < p.extra →
      keepsBreak ((lead ++ p.text s).length + 1) (start (lead ++ p.text s)) = false) :
    SameTokens (layout s) (layout (lead ++ p.text s)) := by
  have hfuel : s.length + p.extra < (lead ++ p.text s).length + 1 := by
    rw [List.length_append, p.length_text]
    omega
  unfold layout
  by_cases hne : lead = []
  · subst hne
    exact (moves_start hindex hline hreturn).run (sound_start s) (Nat.lt_succ_self _) hfuel hkeeps
  · have hstep := step_start hlead hne (p.text s)
    rw [keepsBreak_congr hstep] at hkeeps
    rw [run_congr hstep rfl]
    exact (moves_behind hindex hline (hmark hne) hreturn).run (sound_start s)
      (Nat.lt_succ_self _) hfuel hkeeps

end Placement

/-- Texts with the same tokens have the same document. -/
theorem documentOf?_congr {s s' : Text} (h : Layout.SameTokens (layout s) (layout s')) :
    documentOf? s' = documentOf? s := by
  rcases h with h | ⟨h, h'⟩
  · unfold documentOf?
    rw [h]
  · rw [documentOf?_of_broken h, documentOf?_of_broken h']

/-- Every feed may stand in a document. -/
theorem all_isPrintable_of_feeds {lead : Text} (hlead : ∀ c ∈ lead, isFeed c = true) :
    lead.all isPrintable = true :=
  List.all_eq_true.2 fun c hc => Placement.class_of_isFeed (q := isPrintable) rfl (hlead c hc)

namespace Placement

open Layout

variable (p : Placement) {lead s : Text}

/-- A text may be a document exactly when it may be as it is written. -/
theorem all_isPrintable_text (s : Text) : (p.text s).all isPrintable = s.all isPrintable := by
  have hfeed : isPrintable ∘ p.feed = isPrintable := funext (p.class_feed (q := isPrintable) rfl)
  have hbehind : p.behind.toList.all isPrintable = true :=
    all_isPrintable_of_feeds fun c hc => p.isFeed_of_behind c (Option.mem_toList.1 hc)
  rw [text, List.all_append, List.all_map, hfeed, hbehind, Bool.and_true]

/-- A text has the same value as one that it is placed in behind line feeds, unless a byte order mark
is behind line feeds or a scalar ends in the line break behind the text. -/
theorem read_placed (hindex : p.index = lead.length) (hline : p.line = lead.length)
    (hlead : ∀ c ∈ lead, isFeed c = true) (hreturn : '\r' ∉ s)
    (hmark : lead ≠ [] → s.head?.any (·.toNat == 0xFEFF) = false)
    (hkeeps : 0 < p.extra →
      keepsBreak ((lead ++ p.text s).length + 1) (start (lead ++ p.text s)) = false) :
    read (lead ++ p.text s) = read s := by
  have htokens := p.sameTokens_layout hindex hline hlead hreturn hmark hkeeps
  unfold read
  rw [List.all_append, all_isPrintable_of_feeds hlead, Bool.true_and, p.all_isPrintable_text,
    documentOf?_congr htokens]

end Placement
end Yaml
end DocMarkup
