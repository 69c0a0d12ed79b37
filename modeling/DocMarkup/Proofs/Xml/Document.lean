import DocMarkup.Proofs.Trace
import DocMarkup.Proofs.Xml.Doctype
import DocMarkup.Proofs.Xml.RoundTrip
import DocMarkup.Xml.Document

/-!
# Documents that are read

The element of a document is sound whatever its encoding, its document type and its entities are.
Only its names may be others than content on its own could have: an encoding may allow more letters
in them, and a declared attribute may have a local part that is no name. No mark stands in them.

Main results:

- Theorem {lit}`Xml.rootOfText?_isContent`: the element of a text is sound.
- Theorem {lit}`Xml.readDocument_isContent`: the element of a document is sound.
-/

namespace DocMarkup
namespace Xml

variable {rule : CharRule} {f : Forest QName}

/-- The tokens of an element are sound. -/
theorem elementTokens?_isSound (hrule : rule.IsLawful) {fuel depth : Nat} {s rest : Text}
    {tokens : List Token} (h : elementTokens? rule fuel depth s = some (tokens, rest)) :
    ∀ t ∈ tokens, t.IsSound rule := by
  induction fuel generalizing depth s tokens with
  | zero => simp [elementTokens?] at h
  | succ fuel ih =>
    simp only [elementTokens?, Option.bind_eq_bind, Option.bind_eq_some_iff, Prod.exists] at h
    rcases h with ⟨first, behind, hstep, h⟩
    have hfirst := (step?_local hrule hstep).1
    split at h
    · exact (Prod.mk.inj (Option.some.inj h)).1 ▸ hfirst
    · simp only [Option.bind_eq_some_iff, Prod.exists, Option.some.injEq, Prod.mk.injEq] at h
      rcases h with ⟨others, _, hothers, rfl, rfl⟩
      intro t ht
      rcases List.mem_append.1 ht with ht | ht
      · exact hfirst t ht
      · exact ih hothers t ht

/-- The declarations in front of an element are sound. -/
theorem doctype?_isSound (hrule : rule.IsLawful) {pieceSize : Option Nat} {standsAlone : Bool}
    {s rest : Text} {declarations : Declarations}
    (h : doctype? rule pieceSize standsAlone s = some (declarations, rest)) :
    declarations.IsSound IsCuttable := by
  unfold doctype? at h
  split at h
  · rw [← (Prod.mk.inj (Option.some.inj h)).1]
    exact Declarations.none_isSound
  · simp only [Option.bind_eq_bind, Option.bind_eq_some_iff, Prod.exists, Option.some.injEq,
      Prod.mk.injEq] at h
    rcases h with ⟨_, _, hread, _, _, rfl, rfl⟩
    exact Doctype.read?_isSound hrule hread

/-- The element of a text is sound. -/
theorem rootOfText?_isContent (hrule : rule.IsLawful) {pieceSize : Option Nat} {standsAlone : Bool}
    {s : Text} (h : rootOfText? rule pieceSize standsAlone s = some f) :
    IsContent IsUnmarked f := by
  simp only [rootOfText?, Option.bind_eq_bind, Option.bind_eq_some_iff, Prod.exists] at h
  rcases h with ⟨_, _, declarations, _, hdoctype, h⟩
  split at h
  · simp only [Option.bind_eq_some_iff, Prod.exists] at h
    rcases h with ⟨tokens, _, htokens, _, _, h⟩
    split at h
    · simp only [Option.bind_eq_some_iff] at h
      rcases h with ⟨events, hevents, raw, hraw, root, hroot, h⟩
      have hsound := Declarations.events?_isSound (doctype?_isSound hrule hdoctype)
        (fun _ hname => hname.isCuttable CharRule.standard_isLawful)
        (fun _ hname => hname.isCuttable hrule) (elementTokens?_isSound hrule htokens) hevents
      rcases rawForest?_isSound hsound hraw with ⟨hall, hmerged⟩
      have hcontent : IsContent IsUnmarked root :=
        ⟨expand?_isSound cutsTo_cuttable Bindings.initial_isSound hall hroot,
          expand?_isMerged hmerged hroot⟩
      split at h
      · exact Option.some.inj h ▸ hcontent
      · simp at h
    · simp at h
  · simp at h

/-- Every coding has a lawful rule for names. -/
theorem Coding.charRule_isLawful (coding : Coding) : coding.charRule.IsLawful := by
  cases coding with
  | utf8 | ascii | page => exact CharRule.standard_isLawful
  | utf16 | latin1 => exact CharRule.withOrdinals_isLawful

/-- The element of a document is sound. -/
theorem readDocument_isContent {bytes : Bytes} (h : readDocument bytes = .ok f) :
    IsContent IsUnmarked f := by
  simp only [readDocument] at h
  split at h
  · simp at h
  · next heading length _ =>
    -- whichever coding the heading names, its rule for names is lawful
    have hroot : ∀ named : Coding, ∀ s : Text,
        (rootOfText? named.charRule named.pieceSize? heading.standsAlone s).elim
          (Except.error DocumentFault.malformed) .ok = .ok f →
        IsContent IsUnmarked f := by
      intro named s hroot
      cases hread : rootOfText? named.charRule named.pieceSize? heading.standsAlone s with
      | none => simp [hread] at hroot
      | some root =>
        obtain rfl : root = f := by simpa [hread] using hroot
        exact rootOfText?_isContent named.charRule_isLawful hread
    split at h
    · exact hroot _ _ h
    · rcases outcome_bind_eq_ok h with ⟨named, _, h⟩
      exact hroot named _ h

end Xml
end DocMarkup
