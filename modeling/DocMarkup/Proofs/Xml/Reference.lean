import DocMarkup.Proofs.Xml.RawName

/-!
# References and values

A reference is read from a body in which no tag begins, and so is a quoted value. What either stands
for is made of characters that a document may hold.

Main definitions:

- {lit}`Xml.IsRun`: a run of characters that a document may hold.
- {lit}`Xml.Piece.IsSound`: a piece that is such a character, or an entity.

Main results:

- Theorem {lit}`Xml.valuePieces?_eq_some`: what can be said of every value that is read.
- Theorem {lit}`Xml.quotedValue?_local`: a quoted value is read without a look at what is behind it.
-/

namespace DocMarkup
namespace Xml

open Text (Stops takeWhile_run dropWhile_run stops_dropWhile of_mem_takeWhile)

/-! ## References -/

/-- A run of characters that a document may hold. -/
def IsRun (s : Text) : Prop := ∀ c ∈ s, isChar c = true

/-- A piece that is a character that a document may hold, or the name of an entity. -/
def Piece.IsSound : Piece → Prop
  | .char c => isChar c = true
  | .entity _ => True

variable {rule : CharRule}

/-- What a line end is read as is a run. -/
theorem IsRun.lineEnd {run : Text} (hrun : IsRun run) : IsRun (rule.lineEnd run) := by
  unfold CharRule.lineEnd
  split
  · exact hrun
  · exact List.forall_mem_singleton.2 (by decide)

/-- A character that is referred to by number is one that a document may hold. -/
theorem isChar_of_charOf? {n : Nat} {c : Char} (h : charOf? n = some c) : isChar c = true := by
  simp only [charOf?] at h
  split at h
  · next hchar => exact Option.some.inj h ▸ hchar
  · simp at h

/-- The predefined characters are characters that a document may hold. -/
theorem isChar_of_predefined {name : Text} {c : Char}
    (h : Assoc.get? name predefined = some c) : isChar c = true := by
  have hall : ∀ entry ∈ predefined, isChar entry.2 = true := by decide
  generalize predefined = entries at h hall
  induction entries with
  | nil => simp [Assoc.get?] at h
  | cons entry entries ih =>
    rw [Assoc.get?] at h
    split at h
    · exact Option.some.inj h ▸ hall entry (by simp)
    · exact ih h fun e he => hall e (by simp [he])

/-- No tag begins in what a reference is read from, and the reference stands for a sound piece. -/
theorem reference?_eq_some (hrule : rule.IsLawful) {body : Text} {piece : Piece}
    (h : reference? rule body = some piece) : '<' ∉ body ∧ piece.IsSound := by
  have hdigits : ∀ {p : Char → Bool} {digits : Text}, p '<' = false → digits.all p = true →
      '<' ∉ digits := by
    intro p digits hp hall hmem
    have hlt := List.all_eq_true.1 hall _ hmem
    rw [hp] at hlt
    contradiction
  unfold reference? at h
  split at h
  · split at h
    · next hhex =>
      rcases Option.map_eq_some_iff.1 h with ⟨c, hc, rfl⟩
      exact ⟨by simpa using hdigits (by decide) hhex.2, isChar_of_charOf? hc⟩
    · simp at h
  · split at h
    · next hdecimal =>
      rcases Option.map_eq_some_iff.1 h with ⟨c, hc, rfl⟩
      exact ⟨by simpa using hdigits (by decide) hdecimal.2, isChar_of_charOf? hc⟩
    · simp at h
  · split at h
    · next hname =>
      refine ⟨mark_not_mem_plainName hrule hname (by decide), ?_⟩
      split at h
      · next c hc => exact Option.some.inj h ▸ isChar_of_predefined hc
      · exact Option.some.inj h ▸ trivial
    · simp at h

/-! ## Values -/

/-- A character that begins no mark of a value gives its own piece. -/
theorem valuePieces?_cons {c : Char} {s : Text} (hlt : c ≠ '<') (hamp : c ≠ '&')
    (hbreak : ∀ more, c = '\r' → s ≠ '\n' :: more) :
    valuePieces? rule (c :: s) =
      if isSpace c then (.char ' ' :: ·) <$> valuePieces? rule s
      else if isChar c then (.char c :: ·) <$> valuePieces? rule s
      else none := by
  rw [valuePieces?]
  · exact hlt
  · exact hamp
  · exact hbreak

/-- Sound pieces join the pieces of a value. -/
theorem forall_isSound_push (first : List Piece) {front s : Text} {pieces : List Piece}
    (hfront : '<' ∉ front) (hfirst : ∀ p ∈ first, p.IsSound)
    (h : (first ++ ·) <$> valuePieces? rule s = some pieces)
    (ih : ∀ {others}, valuePieces? rule s = some others → '<' ∉ s ∧ ∀ p ∈ others, p.IsSound) :
    '<' ∉ front ++ s ∧ ∀ p ∈ pieces, p.IsSound := by
  rcases Option.map_eq_some_iff.1 h with ⟨others, hothers, rfl⟩
  rcases ih hothers with ⟨hs, hsound⟩
  constructor
  · intro hmem
    rcases List.mem_append.1 hmem with hmem | hmem
    · exact hfront hmem
    · exact hs hmem
  · exact List.forall_mem_append.2 ⟨hfirst, hsound⟩

/-- No tag begins in what a value is read from, and every piece of the value is sound. -/
theorem valuePieces?_eq_some (hrule : rule.IsLawful) {s : Text} {pieces : List Piece}
    (h : valuePieces? rule s = some pieces) : '<' ∉ s ∧ ∀ p ∈ pieces, p.IsSound := by
  have hblank : ∀ run, ∀ p ∈ blankPieces run, p.IsSound := by
    intro run
    exact List.forall_mem_map.2 fun _ _ => (by decide : isChar ' ' = true)
  have hsingle : ∀ {c : Char}, (c = '<' → False) → '<' ∉ [c] := by
    intro c hc hmem
    exact hc (List.mem_singleton.1 hmem).symm
  -- the induction also speaks of a value that is read from inside a reference
  revert pieces
  refine (valuePieces?.mutual_induct
    (fun s => ∀ {pieces}, valuePieces? rule s = some pieces →
      '<' ∉ s ∧ ∀ p ∈ pieces, p.IsSound)
    (fun body s => ∀ {pieces}, valueReference? rule body s = some pieces →
      '<' ∉ body ++ s ∧ ∀ p ∈ pieces, p.IsSound)
    ?nil ?tag ?reference ?lineBreak ?space ?plain ?refused ?unclosed ?closed ?body).1 s
  case nil =>
    intro pieces h
    obtain rfl : [] = pieces := by simpa [valuePieces?] using h
    simp
  case tag =>
    intro tail pieces h
    simp [valuePieces?] at h
  case reference =>
    intro rest ih pieces h
    rw [valuePieces?] at h
    simpa using ih h
  case lineBreak =>
    intro rest ih pieces h
    rw [valuePieces?] at h
    have hfront : '<' ∉ ['\r', '\n'] := by decide
    exact forall_isSound_push _ hfront (hblank _) h ih
  case space =>
    intro c rest hlt hamp hbreak hspace ih pieces h
    rw [valuePieces?_cons hlt hamp hbreak, if_pos hspace] at h
    exact forall_isSound_push (blankPieces [c]) (hsingle hlt) (hblank _) h ih
  case plain =>
    intro c rest hlt hamp hbreak hspace hchar ih pieces h
    rw [valuePieces?_cons hlt hamp hbreak, if_neg hspace, if_pos hchar] at h
    have hsound : Piece.IsSound (.char c) := hchar
    exact forall_isSound_push [.char c] (hsingle hlt) (List.forall_mem_singleton.2 hsound) h ih
  case refused =>
    intro c rest hlt hamp hbreak hspace hchar pieces h
    rw [valuePieces?_cons hlt hamp hbreak, if_neg hspace, if_neg hchar] at h
    simp at h
  case unclosed =>
    intro body pieces h
    simp [valueReference?] at h
  case closed =>
    intro body rest ih pieces h
    simp only [valueReference?, Option.bind_eq_bind, Option.bind_eq_some_iff] at h
    rcases h with ⟨piece, hpiece, h⟩
    rcases reference?_eq_some hrule hpiece with ⟨hbody, hsound⟩
    have hfront : '<' ∉ body ++ [';'] := by simp [hbody]
    have hclosed := forall_isSound_push [piece] hfront (List.forall_mem_singleton.2 hsound) h ih
    rwa [List.append_assoc] at hclosed
  case body =>
    intro body c rest hclose ih pieces h
    rw [valueReference?] at h
    · simpa using ih h
    · exact hclose

/-- A quoted value is read without a look at what is behind its closing quote. -/
theorem quotedValue?_local (hrule : rule.IsLawful) {s rest : Text} {pieces : List Piece}
    (h : quotedValue? rule s = some (pieces, rest)) :
    (∀ p ∈ pieces, p.IsSound) ∧ ∃ taken, s = taken ++ rest ∧ '<' ∉ taken ∧
      ∀ rest', quotedValue? rule (taken ++ rest') = some (pieces, rest') := by
  cases s with
  | nil => simp [quotedValue?] at h
  | cons quote s =>
    simp only [quotedValue?] at h
    split at h
    · next hquote =>
      split at h
      · simp at h
      · next c after hdrop =>
        simp only [Option.bind_eq_bind, Option.bind_eq_some_iff] at h
        rcases h with ⟨pieces', hpieces, hpair⟩
        obtain ⟨rfl, rfl⟩ : pieces' = pieces ∧ after = rest := by simpa using hpair
        obtain rfl : c = quote := by
          have hc := stops_dropWhile (· != quote) s
          rw [hdrop] at hc
          simpa using hc
        rcases valuePieces?_eq_some hrule hpieces with ⟨hlt, hsound⟩
        refine ⟨hsound, c :: (s.takeWhile (· != c) ++ [c]), ?_, ?_, ?_⟩
        · rw [List.cons_append, List.append_assoc, List.singleton_append, ← hdrop,
            List.takeWhile_append_dropWhile]
        · have hc : '<' ≠ c := by rcases hquote with rfl | rfl <;> decide
          simpa [hc] using hlt
        · intro rest'
          have hrun : ∀ d ∈ s.takeWhile (· != c), (d != c) = true := fun d hd =>
            of_mem_takeWhile (p := (· != c)) hd
          have hstop : Stops (· != c) (c :: rest') := by simp
          rw [List.cons_append, List.append_assoc, List.singleton_append]
          simp only [quotedValue?, if_pos hquote, dropWhile_run hrun hstop,
            takeWhile_run hrun hstop, hpieces, Option.bind_eq_bind, Option.bind_some]
    · simp at h

/-- A quoted value begins with a quote. -/
theorem stops_quotedValue? {s rest : Text} {value : List Piece}
    (h : quotedValue? rule s = some (value, rest)) : Stops isSpace s := by
  cases s with
  | nil => simp
  | cons quote s =>
    rw [quotedValue?] at h
    split at h
    · next hquote => rcases hquote with rfl | rfl <;> simp [isSpace]
    · simp at h

end Xml
end DocMarkup
