import DocMarkup.Proofs.Link.Map
import DocMarkup.Proofs.Text.Lines
import DocMarkup.Proofs.Text.Run
import DocMarkup.Proofs.Trace.Laws
import DocMarkup.Proofs.Yaml.Placed.Document

/-!
# Declared types of maps

Behind a declaration a text is cut into lines and joined again: every line boundary becomes a line
feed, line feeds at the beginning are dropped, and a boundary at the very end is dropped. A map behind
a declaration is read as it is without one when it has no other boundaries than LF and NEL, no byte
order mark behind line feeds, and no block scalar that ends in the last line break.

Main definitions:

- {lit}`Mime.reshaped`: a text as it stands behind a declaration.
- {lit}`Mime.Keeps`: texts that are read as they stand behind a declaration.
- {lit}`LinkMap.ofText`: the targets of a text.

Main results:

- Theorem {lit}`Mime.Keeps.read_reshaped`: such a text has the same value behind a declaration.
- Theorem {lit}`LinkMap.load_declared`: a file with a declaration gives what its text does without it.
-/

namespace DocMarkup

open Yaml (isFeed Placement)
open Yaml.Layout (keepsBreak start)

namespace Mime

variable {s lead core : Text} {tail : Option Char} {c : Char}

/-! ## Texts behind a declaration -/

/-- A text as it stands behind a declaration. -/
def reshaped (s : Text) : Text := (Text.joinLines (Text.allLines s)).dropWhile (· == '\n')

/-- A declaration is cut off. -/
theorem split_declared {mime : Text} (hmime : mime.any Text.isLineBoundary = false)
    (s : Text) : split (mark ++ mime ++ '\n' :: s) = (some (Text.trim mime), reshaped s) := by
  have hmark : mark.any Text.isLineBoundary = false := by decide +kernel
  have hline : ∀ c ∈ mark ++ mime, Text.isLineBoundary c = false ∧ c ≠ '\r' := by
    intro c hc
    have hboundary := (List.mem_append.1 hc).elim (List.any_eq_false.1 hmark c)
      (List.any_eq_false.1 hmime c)
    refine ⟨Bool.eq_false_iff.2 hboundary, ?_⟩
    rintro rfl
    exact hboundary rfl
  unfold split Text.allLines
  rw [Text.linesAt_append_feed rfl hline]
  simp only [Text.after?_eq_some_iff.2 rfl]
  rfl

/-- A text without a declaration is left as it is. -/
theorem split_of_no_mark (h : Text.after? mark s = none) : split s = (none, s) := by
  unfold split
  cases hlines : Text.allLines s with
  | nil => rfl
  | cons first rest =>
    have hfirst : first <+: s := Text.head?_linesAt_prefix s first (by
      rw [← Text.allLines, hlines]
      rfl)
    cases hmark : Text.after? mark first with
    | none => simp only [hmark]
    | some mime =>
      rcases hfirst with ⟨after, rfl⟩
      rw [Text.after?_eq_some_iff.1 hmark, List.append_assoc,
        Text.after?_eq_some_iff.2 rfl] at h
      cases h

/-! ## Joined lines -/

/-- NEL written as LF. -/
def unified : Placement := ⟨0, 0, true, none, by simp⟩

theorem unified_feed_of_isFeed (hc : isFeed c = true) : unified.feed c = '\n' := by
  rcases Bool.or_eq_true _ _ ▸ hc with h | h <;> rw [beq_iff_eq.1 h] <;> rfl

theorem unified_feed_of_not_isFeed (hc : isFeed c = false) : unified.feed c = c := by
  have hnel := (Bool.or_eq_false_iff.1 hc).2
  simp [Placement.feed, unified, hnel]

theorem isLineBoundary_of_isFeed (hc : isFeed c = true) : Text.isLineBoundary c = true :=
  Placement.class_of_isFeed (q := Text.isLineBoundary) rfl hc

theorem ne_return_of_isFeed (hc : isFeed c = true) : c ≠ '\r' := by
  rintro rfl
  cases hc

/-- Joined lines have LF for every break but one at the very end. -/
theorem joinLines_allLines (hbreaks : ∀ c ∈ s, Text.isLineBoundary c = true → isFeed c = true)
    (htail : ∀ c ∈ tail, isFeed c = true) (hlast : tail = none → s.getLast?.any isFeed = false) :
    Text.joinLines (Text.allLines (s ++ tail.toList)) = unified.text s := by
  induction s with
  | nil =>
    cases tail with
    | none => rfl
    | some b =>
      have hb := htail b rfl
      change Text.joinLines (Text.allLines [b]) = []
      rw [Text.allLines, Text.linesAt_break (isLineBoundary_of_isFeed hb) (ne_return_of_isFeed hb)]
      rfl
  | cons c s ih =>
    rcases List.forall_mem_cons.1 hbreaks with ⟨hc, hbreaks⟩
    have hlast' : tail = none → s.getLast?.any isFeed = false := by
      intro htail
      have hlast := hlast htail
      cases s with
      | nil => rfl
      | cons d s => rwa [List.getLast?_cons_cons] at hlast
    have ih := ih hbreaks hlast'
    rw [Text.allLines] at ih
    rw [List.cons_append, Text.allLines, Placement.text_cons]
    by_cases hfeed : isFeed c = true
    · have hne : s ++ tail.toList ≠ [] := by
        intro hnil
        rcases List.append_eq_nil_iff.1 hnil with ⟨rfl, htail⟩
        have hlast := hlast (by simpa using htail)
        simp [hfeed] at hlast
      rw [Text.linesAt_break (isLineBoundary_of_isFeed hfeed) (ne_return_of_isFeed hfeed),
        Text.joinLines_nil_cons (Text.linesAt_ne_nil hne), ih, unified_feed_of_isFeed hfeed]
    · have hboundary : Text.isLineBoundary c = false := Bool.eq_false_iff.2 (mt hc hfeed)
      have hreturn : c ≠ '\r' := by
        rintro rfl
        cases hboundary
      rw [Text.linesAt_cons hboundary hreturn, Text.joinLines_consLine, ih,
        unified_feed_of_not_isFeed (Bool.eq_false_iff.2 hfeed)]

/-! ## Line feeds at the ends of a text -/

/-- A text cut into the line feeds that it begins with, a line feed that it ends with, and what is
between them. -/
structure Parts (s lead core : Text) (tail : Option Char) : Prop where
  whole : s = lead ++ core ++ tail.toList
  leads : ∀ c ∈ lead, isFeed c = true
  stops : Text.Stops isFeed core
  ends : ∀ c ∈ tail, isFeed c = true
  last : tail = none → (lead ++ core).getLast?.any isFeed = false

/-- Every text has such parts. -/
theorem exists_parts (s : Text) : ∃ lead core tail, Parts s lead core tail := by
  have hwhole (s : Text) : s.takeWhile isFeed ++ s.dropWhile isFeed = s :=
    List.takeWhile_append_dropWhile
  by_cases hlast : s.getLast?.any isFeed = true
  · rcases (Option.any_eq_true _ _).1 hlast with ⟨b, hb, hfeed⟩
    refine ⟨s.dropLast.takeWhile isFeed, s.dropLast.dropWhile isFeed, some b, ?_,
      fun c hc => List.mem_takeWhile_imp hc, Text.stops_dropWhile _ _, ?_, nofun⟩
    · rw [hwhole]
      exact (List.dropLast_append_getLast? b hb).symm
    · rintro c ⟨⟩
      exact hfeed
  · refine ⟨s.takeWhile isFeed, s.dropWhile isFeed, none, ?_,
      fun c hc => List.mem_takeWhile_imp hc, Text.stops_dropWhile _ _, by simp, ?_⟩
    · rw [hwhole]
      exact (List.append_nil s).symm
    · rw [hwhole]
      exact fun _ => Bool.eq_false_iff.2 hlast

namespace Parts

variable (h : Parts s lead core tail)

include h

/-- What a text is behind a declaration: the middle part with LF for every break. -/
theorem reshaped_eq (hbreaks : ∀ c ∈ s, Text.isLineBoundary c = true → isFeed c = true) :
    reshaped s = unified.text core := by
  have hmember : ∀ c ∈ lead ++ core, c ∈ s := fun c hc => by
    rw [h.whole]
    exact List.mem_append_left _ hc
  have hlines := joinLines_allLines (fun c hc => hbreaks c (hmember c hc)) h.ends h.last
  rw [← h.whole] at hlines
  have hlead : ∀ c ∈ lead.map unified.feed, (c == '\n') = true := by
    intro c hc
    rcases List.mem_map.1 hc with ⟨d, hd, rfl⟩
    rw [unified_feed_of_isFeed (h.leads d hd)]
    rfl
  have hstops : Text.Stops (· == '\n') (unified.text core) := by
    cases core with
    | nil => exact Text.stops_nil
    | cons c core =>
      have hc := Text.stops_cons.1 h.stops
      rw [Placement.text_cons, unified_feed_of_not_isFeed hc]
      exact Text.stops_cons.2 (Bool.or_eq_false_iff.1 hc).1
  have htext : unified.text (lead ++ core) = lead.map unified.feed ++ unified.text core := by
    simp [Placement.text]
  rw [reshaped, hlines, htext, Text.dropWhile_run hlead hstops]

/-- Behind a declaration a text has the value of its middle part. -/
theorem read_reshaped (hbreaks : ∀ c ∈ s, Text.isLineBoundary c = true → isFeed c = true)
    (hreturn : '\r' ∉ core) : Yaml.read (reshaped s) = Yaml.read core := by
  have hread : Yaml.read ([] ++ unified.text core) = Yaml.read core :=
    unified.read_placed rfl rfl (by simp) hreturn (by simp) nofun
  rw [h.reshaped_eq hbreaks]
  exact hread

/-- How the middle part stands in the text. -/
def placement : Placement := ⟨lead.length, lead.length, false, tail, h.ends⟩

theorem text_placement : lead ++ h.placement.text core = s := by
  have hfeed : core.map h.placement.feed = core :=
    (List.map_congr_left fun c _ => by simp [Placement.feed, placement]).trans (List.map_id core)
  rw [Placement.text, hfeed, ← List.append_assoc]
  exact h.whole.symm

/-- A text has the value of its middle part. -/
theorem read_eq (hreturn : '\r' ∉ core)
    (hmark : lead ≠ [] → core.head?.any (·.toNat == 0xFEFF) = false)
    (hkeeps : 0 < h.placement.extra → keepsBreak (s.length + 1) (start s) = false) :
    Yaml.read s = Yaml.read core := by
  have hwhole := h.text_placement
  rw [← hwhole]
  refine h.placement.read_placed rfl rfl h.leads hreturn hmark fun hextra => ?_
  rw [hwhole]
  exact hkeeps hextra

end Parts

/-! ## Texts that are read as they are -/

/-- The texts that are read as they stand behind a declaration: those without line boundaries other
than LF and NEL, without a byte order mark behind the line feeds at the beginning, and, when they end
in a line feed, without a block scalar that keeps it. -/
structure Keeps (s : Text) : Prop where
  boundaries : ∀ c ∈ s, Text.isLineBoundary c = true → isFeed c = true
  mark : s.head?.any isFeed = true → (s.dropWhile isFeed).head?.any (·.toNat == 0xFEFF) = false
  ending : s.getLast?.any isFeed = true → keepsBreak (s.length + 1) (start s) = false

instance (s : Text) : Decidable (Keeps s) :=
  have : Decidable (∀ c ∈ s, Text.isLineBoundary c = true → isFeed c = true) :=
    List.decidableBAll (fun c => Text.isLineBoundary c = true → isFeed c = true) s
  decidable_of_iff
    ((∀ c ∈ s, Text.isLineBoundary c = true → isFeed c = true) ∧
      (s.head?.any isFeed = true → (s.dropWhile isFeed).head?.any (·.toNat == 0xFEFF) = false) ∧
      (s.getLast?.any isFeed = true → keepsBreak (s.length + 1) (start s) = false))
    ⟨fun ⟨boundaries, mark, ending⟩ => ⟨boundaries, mark, ending⟩,
      fun h => ⟨h.boundaries, h.mark, h.ending⟩⟩

namespace Keeps

variable (hs : Keeps s)

include hs

/-- No CR is left of the line boundaries. -/
theorem return_not_mem : '\r' ∉ s := by
  intro hmem
  cases hs.boundaries '\r' hmem rfl

/-- No byte order mark stands behind line feeds. -/
theorem mark_core (h : Parts s lead core tail) (hlead : lead ≠ []) :
    core.head?.any (·.toNat == 0xFEFF) = false := by
  cases core with
  | nil => rfl
  | cons c core =>
    rcases List.exists_cons_of_ne_nil hlead with ⟨b, rest, hfirst⟩
    have hhead : s.head?.any isFeed = true := by
      rw [h.whole, hfirst]
      exact h.leads b (hfirst ▸ List.mem_cons_self)
    have hdrop : s.dropWhile isFeed = c :: core ++ tail.toList := by
      rw [h.whole, List.append_assoc]
      exact Text.dropWhile_run h.leads (h.stops.append (List.cons_ne_nil c core) _)
    have hmark := hs.mark hhead
    rw [hdrop] at hmark
    exact hmark

/-- No scalar ends in the line break behind the middle part. -/
theorem ending_core (h : Parts s lead core tail) (hextra : 0 < h.placement.extra) :
    keepsBreak (s.length + 1) (start s) = false := by
  refine hs.ending ?_
  cases tail with
  | none => cases hextra
  | some b =>
    rw [h.whole, Option.toList_some, List.getLast?_concat]
    exact h.ends b rfl

/-- Such a text has the same value behind a declaration. -/
theorem read_reshaped : Yaml.read (reshaped s) = Yaml.read s := by
  rcases exists_parts s with ⟨lead, core, tail, h⟩
  have hreturn : '\r' ∉ core := by
    intro hmem
    refine hs.return_not_mem ?_
    rw [h.whole]
    exact List.mem_append_left _ (List.mem_append_right _ hmem)
  rw [h.read_reshaped hs.boundaries hreturn,
    h.read_eq hreturn (hs.mark_core h) (hs.ending_core h)]

end Keeps
end Mime

namespace LinkMap

variable {t t' : FileTree} {file : List Text} {body : Text}

/-! ## Files with a declaration -/

/-- The targets of a text without a declaration, in a file. -/
def ofText (file : List Text) (s : Text) : Except Failure (List (Text × LinkTarget)) := do
  let map ← Config.readMapping (.referencesNotMapping (Path.print file)) s
  ofMapping Url.join? map

/-- Loading reports nothing when a file declares no type, or that of a map. -/
theorem load_eq {s : Text} (htext : t.text file = .ok s)
    (hdeclared : (Mime.split s).1 = none ∨ (Mime.split s).1 = some mime) :
    load t file = ⟨.nil, ofText file (Mime.split s).2⟩ := by
  have hsteps (rest : Text) :
      ((Recorded.ofExcept (Config.readMapping (.referencesNotMapping (Path.print file)) rest) >>=
        fun map => Recorded.ofExcept (ofMapping Url.join? map)) :
          Recorded Failure (List (Text × LinkTarget))) = ⟨.nil, ofText file rest⟩ := by
    unfold ofText
    cases Config.readMapping (.referencesNotMapping (Path.print file)) rest <;> rfl
  unfold load
  rw [htext, Recorded.ofExcept_ok_bind]
  generalize Mime.split s = x at hdeclared ⊢
  rcases x with ⟨declared, rest⟩
  rcases hdeclared with hnone | hmime
  · dsimp only at hnone
    rw [hnone]
    exact hsteps rest
  · dsimp only at hmime
    rw [hmime]
    exact hsteps rest

theorem trim_mime : Text.trim mime = mime := by decide +kernel

/-- A file that declares the type of a map gives what its text gives behind a declaration, and one
without a declaration what its text gives; neither reports anything. Both give the same when the text
has no line boundaries but LF and NEL, no byte order mark behind line feeds, and no block scalar that
ends in its last line break. -/
theorem load_declared (htext : t.text file = .ok (Mime.mark ++ mime ++ '\n' :: body))
    (htext' : t'.text file = .ok body) (hbody : Text.after? Mime.mark body = none) :
    load t file = ⟨.nil, ofText file (Mime.reshaped body)⟩ ∧
      load t' file = ⟨.nil, ofText file body⟩ ∧
      (Mime.Keeps body → load t file = load t' file) := by
  have hsplit : Mime.split (Mime.mark ++ mime ++ '\n' :: body) =
      (some mime, Mime.reshaped body) := by
    rw [Mime.split_declared (by decide +kernel), trim_mime]
  have hdeclared : load t file = ⟨.nil, ofText file (Mime.reshaped body)⟩ := by
    rw [load_eq htext (.inr (by rw [hsplit])), hsplit]
  have hplain : load t' file = ⟨.nil, ofText file body⟩ := by
    have hsplit' := Mime.split_of_no_mark hbody
    rw [load_eq htext' (.inl (by rw [hsplit'])), hsplit']
  refine ⟨hdeclared, hplain, fun hkeeps => ?_⟩
  rw [hdeclared, hplain, ofText, ofText, Config.readMapping, Config.readMapping,
    hkeeps.read_reshaped]

/-- A file of ASCII characters. -/
def asciiFile (s : Text) : FileTree := ⟨[(["a.yml".toList], s.map (UInt8.ofNat ·.toNat))], []⟩

/-- A map with a blank line in front of it and one behind it. -/
theorem load_declared_blank_lines :
    let file := ["a.yml".toList]
    let body := "\nreferences:\n- uid: N.A\n  name: A\n\n".toList
    let t := asciiFile (Mime.mark ++ mime ++ '\n' :: body)
    let t' := asciiFile body
    Mime.Keeps body ∧ load t file = load t' file ∧
      (load t' file).outcome = .ok [("N.A".toList, ⟨"A".toList, none⟩)] := by
  intro file body t t'
  have htext : t.text file = .ok (Mime.mark ++ mime ++ '\n' :: body) :=
    eq_ok_of_toOption (by decide +kernel)
  have htext' : t'.text file = .ok body := eq_ok_of_toOption (by decide +kernel)
  have hbody : Text.after? Mime.mark body = none := by decide +kernel
  have hkeeps : Mime.Keeps body := by decide +kernel
  refine ⟨hkeeps, (load_declared htext htext' hbody).2.2 hkeeps, ?_⟩
  exact eq_ok_of_toOption (by decide +kernel)

/-- Behind a declaration a block scalar at the end of a file loses its last line break. -/
theorem load_declared_loses_break :
    let file := ["a.yml".toList]
    let body := "references:\n- uid: a\n  name: |\n    x\n".toList
    let t := asciiFile (Mime.mark ++ mime ++ '\n' :: body)
    let t' := asciiFile body
    t.text file = .ok (Mime.mark ++ mime ++ '\n' :: body) ∧ t'.text file = .ok body ∧
      Text.after? Mime.mark body = none ∧
      (load t file).outcome = .ok [("a".toList, ⟨"x".toList, none⟩)] ∧
      (load t' file).outcome = .ok [("a".toList, ⟨"x\n".toList, none⟩)] := by
  intro file body t t'
  exact ⟨eq_ok_of_toOption (by decide +kernel), eq_ok_of_toOption (by decide +kernel),
    by decide +kernel, eq_ok_of_toOption (by decide +kernel), eq_ok_of_toOption (by decide +kernel)⟩

end LinkMap
end DocMarkup
