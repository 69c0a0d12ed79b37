import DocMarkup.Proofs.Region.Indented
import DocMarkup.Proofs.Region.Marker
import DocMarkup.Proofs.Text.Run

/-!
# The shape of marker lines

Whether a line is a marker can be said without a search: a directive stands behind its blanks with a
name behind it, or one comment fills the rest of it, around a body between angle brackets. The brackets
of a comment are found from both ends, so a line has one body at most, though the body may hold further
brackets and ends of comments. Of a text with several lines, the marker must fit on what is in front of
a last line feed.

Main definitions:

- {lit}`MarkerStyle.HasDirective`: a text that begins with a directive.
- {lit}`MarkerStyle.IsComment`: a comment around a bracketed body.
- {lit}`MarkerStyle.HasComment`: a text that is such a comment.

Main results:

- Theorem {lit}`MarkerStyle.bracketed?_eq_some_iff`: where the body of a comment ends.
- Theorems {lit}`MarkerStyle.startName?_directive_iff`, {lit}`MarkerStyle.isEnd_directive_iff`,
  {lit}`MarkerStyle.startName?_comment_iff` and {lit}`MarkerStyle.isEnd_comment_iff`: the shape of each
  kind of marker.
- Theorem {lit}`MarkerStyle.HasComment.unique`: a line has one body at most.
- Theorem {lit}`MarkerStyle.markers_unambiguous`: what marker lines are and what they are not.
-/

namespace DocMarkup

namespace Text

variable {s t : Text}

/-! ## Trimmed texts -/

/-- A text is the blanks it begins with, and the rest. -/
theorem exists_blanks (s : Text) :
    ∃ gap, (∀ c ∈ gap, isBlank c = true) ∧ s = gap ++ trimStart s :=
  ⟨s.takeWhile isBlank, fun _ => of_mem_takeWhile, List.takeWhile_append_dropWhile.symm⟩

/-- Blanks in front of a character that is none are trimmed. -/
theorem trimStart_run {gap : Text} (hgap : ∀ c ∈ gap, isBlank c = true) (hs : Stops isBlank s) :
    trimStart (gap ++ s) = s :=
  dropWhile_run hgap hs

/-- A trimmed text begins with no blank. -/
theorem stops_trim (s : Text) : Stops isBlank (trim s) := by
  have hfront : trim s <+: trimStart s := by
    have hsuffix := List.dropWhile_suffix isBlank (l := (trimStart s).reverse)
    exact List.reverse_suffix.1 (by simpa [trim, trimEnd] using hsuffix)
  rcases hfront with ⟨rest, hrest⟩
  have hstart : Stops isBlank (trimStart s) := stops_dropWhile isBlank s
  intro c hc
  refine hstart c ?_
  rw [← hrest]
  cases htrim : trim s with
  | nil => simp [htrim] at hc
  | cons d t => simpa [htrim] using hc

/-- A trimmed text ends with no blank. -/
theorem stops_reverse_trim (s : Text) : Stops isBlank (trim s).reverse := by
  unfold trim trimEnd
  rw [List.reverse_reverse]
  exact stops_dropWhile isBlank _

/-- Blanks in front of a text are trimmed. -/
theorem trim_append {gap : Text} (hgap : ∀ c ∈ gap, isBlank c = true) (s : Text) :
    trim (gap ++ s) = trim s := by
  rw [trim, trimStart_append hgap, trim]

/-- A text that is trimmed in front is trimmed alike. -/
theorem trim_trimStart (s : Text) : trim (trimStart s) = trim s := by
  rcases exists_blanks s with ⟨gap, hgap, hs⟩
  rw [← trim_append hgap, ← hs]

end Text

namespace MarkerStyle

open Text

variable {line s body rest name directive : Text}

/-! ## Ends of lines -/

/-- What may stand behind the end of a line: nothing, or a last line feed. -/
def IsLineStop (s : Text) : Prop := s = [] ∨ s = ['\n']

/-- A text without a last line feed. -/
def unended (s : Text) : Text := if s.getLast? = some '\n' then s.dropLast else s

/-- A last line feed ends the line in front of it. -/
theorem exists_lineStop (s : Text) : ∃ stop, IsLineStop stop ∧ s = unended s ++ stop := by
  unfold unended
  split
  · next hlast =>
    rcases List.getLast?_eq_some_iff.1 hlast with ⟨line, rfl⟩
    exact ⟨['\n'], .inr rfl, by rw [List.dropLast_concat]⟩
  · exact ⟨[], .inl rfl, (List.append_nil s).symm⟩

/-- A line that ends in no line feed is found in front of its end. -/
theorem unended_append {stop : Text} (hstop : IsLineStop stop) (hlast : s.getLast? ≠ some '\n') :
    unended (s ++ stop) = s := by
  unfold unended
  rcases hstop with rfl | rfl
  · rw [List.append_nil, if_neg hlast]
  · rw [if_pos (List.getLast?_concat ..), List.dropLast_concat]

/-- A text is one line when it is followed by the end of a line, and holds no line feed itself. -/
theorem oneLine?_eq_some_iff :
    oneLine? s = some line ↔ '\n' ∉ line ∧ ∃ stop, IsLineStop stop ∧ s = line ++ stop := by
  have hunfold : oneLine? s =
      if (unended s).contains '\n' then none else some (unended s) := rfl
  rw [hunfold]
  constructor
  · intro h
    split at h
    · cases h
    · next hfeed =>
      obtain rfl := Option.some.inj h
      exact ⟨fun hmem => hfeed (List.contains_iff_mem.2 hmem), exists_lineStop s⟩
  · rintro ⟨hfeed, stop, hstop, rfl⟩
    have hlast : line.getLast? ≠ some '\n' := fun h => hfeed (List.mem_of_getLast? h)
    rw [unended_append hstop hlast, if_neg (fun h => hfeed (List.contains_iff_mem.1 h))]

/-! ## Directives -/

/-- A text that begins, behind blanks, with a directive; the rest of its line is what stands behind the
directive, perhaps without the blanks in front. -/
def HasDirective (directive line rest : Text) : Prop :=
  '\n' ∉ rest ∧ ∃ gap stop, (∀ c ∈ gap, isBlank c = true) ∧ IsLineStop stop ∧
    trimStart line = directive ++ (gap ++ (rest ++ stop))

/-- What is found behind a directive stands behind it. -/
theorem hasDirective_of_directiveRest? (h : directiveRest? directive line = some rest) :
    HasDirective directive line rest := by
  simp only [directiveRest?, Option.bind_eq_bind, Option.bind_eq_some_iff] at h
  rcases h with ⟨behind, hbehind, hrest⟩
  rcases exists_blanks behind with ⟨gap, hgap, hsplit⟩
  rcases oneLine?_eq_some_iff.1 hrest with ⟨hfeed, stop, hstop, hline⟩
  refine ⟨hfeed, gap, stop, hgap, hstop, ?_⟩
  rw [after?_eq_some_iff.1 hbehind, ← hline, ← hsplit]

/-- What stands behind a directive is found up to the blanks in front of it. -/
theorem HasDirective.exists_directiveRest? (h : HasDirective directive line rest) :
    ∃ found, directiveRest? directive line = some found ∧ trim found = trim rest := by
  rcases h with ⟨hfeed, gap, stop, hgap, hstop, hline⟩
  have hunfold : directiveRest? directive line = oneLine? (trimStart (rest ++ stop)) := by
    rw [directiveRest?, after?_eq_some_iff.2 hline]
    exact congrArg oneLine? (trimStart_append hgap _)
  rw [hunfold]
  rcases exists_blanks rest with ⟨front, hfront, hsplit⟩
  cases htrim : trimStart rest with
  | nil =>
    -- the end of the line may be a line feed, which is a blank behind blanks
    have hblank : trimStart (rest ++ stop) = [] := by
      have hall : ∀ c ∈ front ++ stop, isBlank c = true := by
        intro c hc
        rcases List.mem_append.1 hc with hc | hc
        · exact hfront c hc
        · rcases hstop with rfl | rfl
          · cases hc
          · exact List.mem_singleton.1 hc ▸ rfl
      have hrun := trimStart_run hall stops_nil
      rw [htrim, List.append_nil] at hsplit
      rwa [List.append_nil, ← hsplit] at hrun
    refine ⟨[], by rw [hblank]; rfl, ?_⟩
    rw [← trim_trimStart rest, htrim]
  | cons c behind =>
    have hne : trimStart rest ≠ [] := by
      rw [htrim]
      exact List.cons_ne_nil c behind
    have hkept : trimStart (rest ++ stop) = trimStart rest ++ stop := by
      have hstops : Stops isBlank (trimStart rest ++ stop) :=
        (stops_dropWhile isBlank rest).append hne stop
      have hrun := trimStart_run hfront hstops
      rwa [← List.append_assoc, ← hsplit] at hrun
    have hone : '\n' ∉ trimStart rest := fun hmem =>
      hfeed ((List.dropWhile_suffix isBlank).subset hmem)
    refine ⟨trimStart rest, ?_, trim_trimStart rest⟩
    rw [hkept]
    exact oneLine?_eq_some_iff.2 ⟨hone, stop, hstop, rfl⟩

/-- A start line in source code carries its name behind the directive, without blanks around it. -/
theorem startName?_directive_iff : MarkerStyle.directive.startName? line = some name ↔
    ∃ rest, HasDirective "#region".toList line rest ∧ name = trim rest := by
  simp only [startName?, Option.map_eq_some_iff]
  constructor
  · rintro ⟨found, hfound, rfl⟩
    exact ⟨found, hasDirective_of_directiveRest? hfound, rfl⟩
  · rintro ⟨rest, hrest, rfl⟩
    exact hrest.exists_directiveRest?

/-- An end line in source code begins with its directive. -/
theorem isEnd_directive_iff : MarkerStyle.directive.isEnd line = true ↔
    ∃ rest, HasDirective "#endregion".toList line rest := by
  simp only [isEnd, Option.isSome_iff_exists]
  constructor
  · rintro ⟨found, hfound⟩
    exact ⟨found, hasDirective_of_directiveRest? hfound⟩
  · rintro ⟨rest, hrest⟩
    rcases hrest.exists_directiveRest? with ⟨found, hfound, _⟩
    exact ⟨found, hfound⟩

/-! ## Comments -/

/-- A comment around a body between angle brackets, with optional blanks outside of them. -/
inductive IsComment : Text → Text → Prop
  | intro {gap body back : Text} (hgap : ∀ c ∈ gap, isBlank c = true)
    (hback : ∀ c ∈ back, isBlank c = true) :
    IsComment ("<!--".toList ++ (gap ++ '<' :: (body ++ '>' :: (back ++ "-->".toList)))) body

/-- The body of a comment stands in it. -/
theorem IsComment.subset (h : IsComment s body) : body ⊆ s := by
  rcases h with ⟨_, _⟩
  intro c hc
  simp [hc]

/-- A text that is, behind blanks, such a comment around a body of one line, up to the end of its own
line. -/
def HasComment (line body : Text) : Prop :=
  '\n' ∉ body ∧ ∃ comment stop, IsComment comment body ∧ IsLineStop stop ∧
    trimStart line = comment ++ stop

/-- Read from its end, a comment begins with its mark, and a bracket closes the body behind blanks. -/
theorem bracketed?_eq_some_iff_reverse : bracketed? s = some body ↔
    '\n' ∉ body ∧ ∃ inner, (unended s).reverse = ">--".toList ++ inner ∧
      trimStart inner = '>' :: body.reverse := by
  unfold bracketed? unended trimStart
  simp only [Option.bind_eq_bind, Option.bind_eq_some_iff, after?_eq_some_iff]
  constructor
  · rintro ⟨inner, hinner, hmatch⟩
    split at hmatch
    · next found hclosed =>
      split at hmatch
      · cases hmatch
      · next hfeed =>
        obtain rfl := Option.some.inj hmatch
        refine ⟨?_, inner, hinner, ?_⟩
        · exact fun hmem => hfeed (List.contains_iff_mem.2 (List.mem_reverse.1 hmem))
        · rw [hclosed, List.reverse_reverse]
    · cases hmatch
  · rintro ⟨hfeed, inner, hinner, hclosed⟩
    have hbody : ¬body.reverse.contains '\n' = true := by simpa using hfeed
    refine ⟨inner, hinner, ?_⟩
    simp only [hclosed, if_neg hbody, List.reverse_reverse]

/-- A body ends in front of the last closing bracket, when only blanks stand between this and the end
of the comment. -/
theorem bracketed?_eq_some_iff : bracketed? s = some body ↔
    '\n' ∉ body ∧ ∃ back stop, (∀ c ∈ back, isBlank c = true) ∧ IsLineStop stop ∧
      s = body ++ '>' :: (back ++ "-->".toList) ++ stop := by
  rw [bracketed?_eq_some_iff_reverse]
  refine and_congr_right fun _ => ?_
  constructor
  · rintro ⟨inner, hinner, hclosed⟩
    rcases exists_lineStop s with ⟨stop, hstop, hs⟩
    rcases exists_blanks inner with ⟨back, hback, hsplit⟩
    have hend : unended s = body ++ '>' :: (back.reverse ++ "-->".toList) := by
      have hwhole := congrArg List.reverse hinner
      rw [hsplit, hclosed] at hwhole
      simpa using hwhole
    refine ⟨back.reverse, stop, fun c hc => hback c (List.mem_reverse.1 hc), hstop, ?_⟩
    rw [← hend]
    exact hs
  · rintro ⟨back, stop, hback, hstop, rfl⟩
    have hlast : (body ++ '>' :: (back ++ "-->".toList)).getLast? ≠ some '\n' := by
      have hconcat : body ++ '>' :: (back ++ "-->".toList) =
          (body ++ '>' :: (back ++ "--".toList)) ++ ['>'] := by simp
      rw [hconcat, List.getLast?_concat]
      decide
    have hback' : ∀ c ∈ back.reverse, isBlank c = true :=
      fun c hc => hback c (List.mem_reverse.1 hc)
    refine ⟨back.reverse ++ '>' :: body.reverse, ?_, trimStart_run hback' (stops_cons.2 rfl)⟩
    rw [unended_append hstop hlast]
    simp

/-- A bracket opens behind the blanks at the beginning of the comment. -/
theorem commentRest?_eq_some_iff : commentRest? line = some s ↔
    ∃ gap, (∀ c ∈ gap, isBlank c = true) ∧
      trimStart line = "<!--".toList ++ (gap ++ '<' :: s) := by
  simp only [commentRest?, Option.bind_eq_bind, Option.bind_eq_some_iff, after?_eq_some_iff]
  constructor
  · rintro ⟨rest, hrest, hs⟩
    rcases exists_blanks rest with ⟨gap, hgap, hsplit⟩
    refine ⟨gap, hgap, ?_⟩
    rw [hrest, ← List.singleton_append, ← hs, ← hsplit]
  · rintro ⟨gap, hgap, hline⟩
    exact ⟨_, hline, trimStart_run hgap (stops_cons.2 rfl)⟩

/-- The body that is found in a comment is the one around which it stands. -/
theorem hasComment_iff : HasComment line body ↔ (commentRest? line).bind bracketed? = some body := by
  simp only [Option.bind_eq_some_iff, commentRest?_eq_some_iff, bracketed?_eq_some_iff]
  constructor
  · rintro ⟨hfeed, _, stop, ⟨hgap, hback⟩, hstop, hline⟩
    refine ⟨_, ⟨_, hgap, ?_⟩, hfeed, _, stop, hback, hstop, rfl⟩
    rw [hline]
    simp only [List.append_assoc, List.cons_append]
  · rintro ⟨_, ⟨gap, hgap, hline⟩, hfeed, back, stop, hback, hstop, rfl⟩
    refine ⟨hfeed, _, stop, .intro hgap hback, hstop, ?_⟩
    rw [hline]
    simp only [List.append_assoc, List.cons_append]

/-- A line has one body at most. -/
theorem HasComment.unique {body' : Text} (h : HasComment line body) (h' : HasComment line body') :
    body = body' :=
  Option.some.inj ((hasComment_iff.1 h).symm.trans (hasComment_iff.1 h'))

/-- A start line in markup carries its name in its body, which begins neither with a slash nor with a
blank. -/
theorem startName?_comment_iff : MarkerStyle.comment.startName? line = some name ↔
    ∃ c rest, HasComment line (c :: rest) ∧ c ≠ '/' ∧ isBlank c = false ∧ name = trim (c :: rest) := by
  simp only [startName?, Option.bind_eq_bind, Option.bind_eq_some_iff, hasComment_iff]
  constructor
  · rintro ⟨body, hbody, hmatch⟩
    cases body with
    | nil => cases hmatch
    | cons c rest =>
      dsimp only at hmatch
      split at hmatch
      · cases hmatch
      · next hc =>
        rcases not_or.1 hc with ⟨hslash, hblank⟩
        exact ⟨c, rest, hbody, hslash, Bool.eq_false_iff.2 hblank,
          (Option.some.inj hmatch).symm⟩
  · rintro ⟨c, rest, hbody, hslash, hblank, rfl⟩
    refine ⟨c :: rest, hbody, ?_⟩
    simp [hslash, hblank]

/-- A slash in front of a text begins its body. -/
theorem bracketed?_cons_slash :
    bracketed? ('/' :: s) = some ('/' :: body) ↔ bracketed? s = some body := by
  simp [bracketed?_eq_some_iff]

/-- An end line in markup has a slash at the beginning of its body. -/
theorem isEnd_comment_iff : MarkerStyle.comment.isEnd line = true ↔
    ∃ rest, HasComment line ('/' :: rest) := by
  simp only [isEnd, Option.isSome_iff_exists, hasComment_iff, Option.bind_eq_some_iff,
    after?_eq_some_iff]
  constructor
  · rintro ⟨rest, _, ⟨s, hs, rfl⟩, hrest⟩
    exact ⟨rest, _, hs, bracketed?_cons_slash.2 hrest⟩
  · rintro ⟨rest, s, hs, hbody⟩
    rcases bracketed?_prefix hbody with ⟨tail, rfl⟩
    exact ⟨rest, _, ⟨_, hs, rfl⟩, bracketed?_cons_slash.1 hbody⟩

/-! ## Single lines -/

/-- A line without line feeds has none behind its blanks. -/
theorem feed_not_mem_trimStart (hline : '\n' ∉ line) : '\n' ∉ trimStart line :=
  fun hfeed => hline ((List.dropWhile_suffix isBlank).subset hfeed)

/-- Nothing stands behind the end of a line that has no line feed. -/
theorem IsLineStop.eq_nil {stop : Text} (hstop : IsLineStop stop) (hline : '\n' ∉ s ++ stop) :
    stop = [] := by
  rcases hstop with rfl | rfl
  · rfl
  · exact absurd (by simp) hline

/-- A line without line feeds holds a directive when it begins with it, behind its blanks. -/
theorem hasDirective_of_append (hline : '\n' ∉ line) (h : trimStart line = directive ++ rest) :
    HasDirective directive line rest := by
  have hfeed : '\n' ∉ directive ++ rest := h ▸ feed_not_mem_trimStart hline
  refine ⟨fun hmem => hfeed (List.mem_append_right _ hmem), [], [], by simp, .inl rfl, ?_⟩
  rw [h, List.nil_append, List.append_nil]

/-- A line without line feeds that holds a directive begins with it, behind its blanks. -/
theorem HasDirective.exists_append (h : HasDirective directive line rest) (hline : '\n' ∉ line) :
    ∃ behind, trimStart line = directive ++ behind ∧ trim behind = trim rest := by
  rcases h with ⟨_, gap, stop, hgap, hstop, hsplit⟩
  have hfeed : '\n' ∉ directive ++ (gap ++ (rest ++ stop)) := hsplit ▸ feed_not_mem_trimStart hline
  simp only [← List.append_assoc] at hfeed
  obtain rfl := hstop.eq_nil hfeed
  exact ⟨gap ++ rest, by rw [hsplit, List.append_nil], trim_append hgap rest⟩

/-- A start line in source code is a directive with the name behind it. -/
theorem startName?_directive_of_line (hline : '\n' ∉ line) :
    MarkerStyle.directive.startName? line = some name ↔
      ∃ rest, trimStart line = "#region".toList ++ rest ∧ name = trim rest := by
  rw [startName?_directive_iff]
  constructor
  · rintro ⟨rest, hrest, rfl⟩
    rcases hrest.exists_append hline with ⟨behind, hbehind, htrim⟩
    exact ⟨behind, hbehind, htrim.symm⟩
  · rintro ⟨rest, hrest, rfl⟩
    exact ⟨rest, hasDirective_of_append hline hrest, rfl⟩

/-- An end line in source code is a directive with anything behind it. -/
theorem isEnd_directive_of_line (hline : '\n' ∉ line) :
    MarkerStyle.directive.isEnd line = true ↔
      ∃ rest, trimStart line = "#endregion".toList ++ rest := by
  rw [isEnd_directive_iff]
  constructor
  · rintro ⟨rest, hrest⟩
    rcases hrest.exists_append hline with ⟨behind, hbehind, _⟩
    exact ⟨behind, hbehind⟩
  · rintro ⟨rest, hrest⟩
    exact ⟨rest, hasDirective_of_append hline hrest⟩

/-- A line without line feeds holds a comment when it is one, behind its blanks. -/
theorem hasComment_iff_isComment (hline : '\n' ∉ line) :
    HasComment line body ↔ IsComment (trimStart line) body := by
  have hfeed := feed_not_mem_trimStart hline
  constructor
  · rintro ⟨_, comment, stop, hcomment, hstop, hsplit⟩
    rw [hsplit] at hfeed ⊢
    obtain rfl := hstop.eq_nil hfeed
    rwa [List.append_nil]
  · intro h
    exact ⟨fun hmem => hfeed (h.subset hmem), _, [], h, .inl rfl, (List.append_nil _).symm⟩

/-! ## Markers -/

/-- The name of a region is a trimmed text. -/
theorem exists_trim_of_startName? {style : MarkerStyle} (h : style.startName? line = some name) :
    ∃ body, name = trim body := by
  cases style with
  | directive =>
    rcases startName?_directive_iff.1 h with ⟨rest, _, hrest⟩
    exact ⟨rest, hrest⟩
  | comment =>
    rcases startName?_comment_iff.1 h with ⟨c, rest, _, _, _, hbody⟩
    exact ⟨c :: rest, hbody⟩

/-- No text is both a start line and an end line, names have no blanks around them, and blanks in front
of a text do not matter. A line without line feeds that begins, behind its blanks, with a directive is a
marker in source code, and the rest of it is the name. A line that is, behind its blanks, a comment
around a bracketed body is a marker in markup: a start line, with the body as its name, when the body
begins neither with a slash nor with a blank, and an end line when it begins with a slash; and it has no
other body. -/
theorem markers_unambiguous :
    (∀ (style : MarkerStyle) (line : Text),
      ¬((style.startName? line).isSome ∧ style.isEnd line = true) ∧
      (∀ name, style.startName? line = some name →
        Stops isBlank name ∧ Stops isBlank name.reverse) ∧
      ∀ indent, (∀ c ∈ indent, isBlank c = true) →
        style.startName? (indent ++ line) = style.startName? line ∧
        style.isEnd (indent ++ line) = style.isEnd line) ∧
    ∀ line, '\n' ∉ line →
      (∀ name, MarkerStyle.directive.startName? line = some name ↔
        ∃ rest, trimStart line = "#region".toList ++ rest ∧ name = trim rest) ∧
      (MarkerStyle.directive.isEnd line = true ↔
        ∃ rest, trimStart line = "#endregion".toList ++ rest) ∧
      (∀ name, MarkerStyle.comment.startName? line = some name ↔
        ∃ c rest, IsComment (trimStart line) (c :: rest) ∧ c ≠ '/' ∧ isBlank c = false ∧
          name = trim (c :: rest)) ∧
      (MarkerStyle.comment.isEnd line = true ↔ ∃ rest, IsComment (trimStart line) ('/' :: rest)) ∧
      ∀ body body', IsComment (trimStart line) body → IsComment (trimStart line) body' →
        body = body' := by
  refine ⟨fun style line => ⟨?_, ?_, fun indent hindent => ⟨?_, ?_⟩⟩, fun line hline => ?_⟩
  · rintro ⟨hstart, hend⟩
    exact absurd (hend.symm.trans (isEnd_eq_false hstart)) (by decide)
  · intro name hname
    rcases exists_trim_of_startName? hname with ⟨body, rfl⟩
    exact ⟨stops_trim body, stops_reverse_trim body⟩
  · exact startName?_append hindent style line
  · exact isEnd_append hindent style line
  · have hcomment : ∀ body, HasComment line body ↔ IsComment (trimStart line) body :=
      fun _ => hasComment_iff_isComment hline
    refine ⟨fun name => startName?_directive_of_line hline, isEnd_directive_of_line hline,
      fun name => ?_, ?_, fun body body' h h' => ?_⟩
    · simp only [startName?_comment_iff, hcomment]
    · simp only [isEnd_comment_iff, hcomment]
    · exact ((hcomment body).2 h).unique ((hcomment body').2 h')

/-- A body that holds a bracket and the end of a comment, and one that a slash begins, both behind a
line feed. -/
theorem markers_unambiguous_nested :
    let line := "<!--\u3000<a>-->b >\x85-->".toList
    let closing := "<!--</a>-->b >-->".toList
    let indent := "\n\t".toList
    '\n' ∉ line ∧ '\n' ∉ closing ∧ (∀ c ∈ indent, isBlank c = true) ∧
      MarkerStyle.comment.startName? (indent ++ line) = some "a>-->b".toList ∧
      MarkerStyle.comment.isEnd (indent ++ closing) = true ∧
      ∀ body, IsComment (trimStart line) body → body = "a>-->b ".toList := by
  intro line closing indent
  have hline : '\n' ∉ line := by decide
  have hclosing : '\n' ∉ closing := by decide
  have hindent : ∀ c ∈ indent, isBlank c = true := List.all_eq_true.1 (by decide)
  have hgap : ∀ c ∈ "\u3000".toList, isBlank c = true := List.all_eq_true.1 (by decide)
  have hback : ∀ c ∈ "\x85".toList, isBlank c = true := List.all_eq_true.1 (by decide)
  have hnone : ∀ c ∈ ([] : Text), isBlank c = true := by simp
  have hbody : IsComment (trimStart line) "a>-->b ".toList := by
    have hsplit : trimStart line = "<!--".toList ++ ("\u3000".toList ++ '<' ::
        ("a>-->b ".toList ++ '>' :: ("\x85".toList ++ "-->".toList))) := by decide
    rw [hsplit]
    exact .intro hgap hback
  have hslash : IsComment (trimStart closing) "/a>-->b ".toList := by
    have hsplit : trimStart closing = "<!--".toList ++ ([] ++ '<' ::
        ("/a>-->b ".toList ++ '>' :: ([] ++ "-->".toList))) := by decide
    rw [hsplit]
    exact .intro hnone hnone
  rcases markers_unambiguous with ⟨htexts, hlines⟩
  rcases hlines line hline with ⟨_, _, hstart, _, hunique⟩
  rcases hlines closing hclosing with ⟨_, _, _, hend, _⟩
  refine ⟨hline, hclosing, hindent, ?_, ?_, fun body h => hunique _ _ h hbody⟩
  · rw [((htexts .comment line).2.2 indent hindent).1]
    exact (hstart _).2 ⟨'a', ">-->b ".toList, hbody, by decide, by decide, rfl⟩
  · rw [((htexts .comment closing).2.2 indent hindent).2]
    exact hend.2 ⟨"a>-->b ".toList, hslash⟩

end MarkerStyle
end DocMarkup
