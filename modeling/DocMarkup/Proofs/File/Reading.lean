import DocMarkup.File.Source
import DocMarkup.Proofs.Trace.Laws

/-!
# What becomes of a source

A source without NUL is answered with the text of its file, or with nothing and one notice, or its
load fails. It fails in three cases alone: the disk cannot tell where its path leads, or whether a
file stands there, or the encoding refuses the bytes of the file without a place where they are
damaged. A file that cannot be opened or read, and bytes that are damaged, are reported.

Main definitions:

- {lit}`SourceFolder.Leads`: the path inside the directory to which a source leads.
- {lit}`SourceFolder.Answers`: a source of which the text is given.
- {lit}`SourceFolder.Reports`: a source of which nothing is given but a notice.
- {lit}`SourceFolder.Aborts`: a source whose load fails.

Main results:

- Theorem {lit}`SourceFolder.load_cases`: what becomes of a source.
- Theorem {lit}`SourceFolder.questions_loadFrom`: loading a source asks nothing.
-/

namespace DocMarkup
namespace SourceFolder

open Encoding (Codecs Decoder Fault)

variable {f : SourceFolder} {d : Disk} {c : Codecs} {decode : Decoder} {source : Text}
  {path : List Text} {failure : Failure}

/-! ## Steps of a load -/

/-- The path inside the directory to which a source leads on a disk. -/
structure Leads (f : SourceFolder) (d : Disk) (source : Text) (path : List Text) : Prop where
  resolves : d.resolve f.root (Path.slashed source) = .ok path
  inside : f.root <+: path

/-- A source without an answer about where its path leads fails. -/
theorem loadFrom_unresolved (hnul : source.contains '\x00' = false)
    (hresolve : d.resolve f.root (Path.slashed source) = .error failure) :
    f.loadFrom d c source = .fail failure := by
  rw [loadFrom, hnul, hresolve]
  rfl

/-- A source that leads out of the directory is reported. -/
theorem loadFrom_outside (hnul : source.contains '\x00' = false)
    (hresolve : d.resolve f.root (Path.slashed source) = .ok path) (houtside : ¬ f.root <+: path) :
    f.loadFrom d c source =
      ⟨⟨[], [.sourceOutside (Path.print f.root) source]⟩, .ok none⟩ := by
  rw [← List.isPrefixOf_iff_prefix, Bool.not_eq_true] at houtside
  rw [loadFrom, hnul, hresolve, Recorded.ofExcept_ok_bind, houtside]
  rfl

/-- What a load comes to that asks whether a file stands at the path of its source. -/
theorem Leads.loadFrom_eq (h : f.Leads d source path) (hnul : source.contains '\x00' = false) :
    f.loadFrom d c source = .ofExcept (d.isFile path) >>= fun isFile =>
      if isFile then f.readFrom c source (d.content path)
      else ⟨⟨[], [.sourceMissing source]⟩, .ok none⟩ := by
  have hinside := List.isPrefixOf_iff_prefix.2 h.inside
  rw [loadFrom, hnul, h.resolves, Recorded.ofExcept_ok_bind, hinside]
  rfl

/-- A source fails where nobody can tell whether a file stands at its path. -/
theorem Leads.loadFrom_unanswered (h : f.Leads d source path)
    (hnul : source.contains '\x00' = false) (hfile : d.isFile path = .error failure) :
    f.loadFrom d c source = .fail failure := by
  rw [h.loadFrom_eq hnul, hfile]
  rfl

/-- A source without a file at its path is reported. -/
theorem Leads.loadFrom_missing (h : f.Leads d source path)
    (hnul : source.contains '\x00' = false) (hfile : d.isFile path = .ok false) :
    f.loadFrom d c source = ⟨⟨[], [.sourceMissing source]⟩, .ok none⟩ := by
  rw [h.loadFrom_eq hnul, hfile]
  rfl

/-- A source with a file at its path is read. -/
theorem Leads.loadFrom_file (h : f.Leads d source path) (hnul : source.contains '\x00' = false)
    (hfile : d.isFile path = .ok true) :
    f.loadFrom d c source = f.readFrom c source (d.content path) := by
  rw [h.loadFrom_eq hnul, hfile]
  rfl

/-! ## Outcomes -/

/-- Bytes that the encoding takes for damaged, or none at all. -/
def IsUnreadable (decode : Decoder) (content : Content) : Prop :=
  ∀ bytes, content = .bytes bytes → decode bytes = .error .damaged

/-- The text of the file to which a source leads is given, with line feeds for all breaks, and
nothing is left behind. -/
def Answers (f : SourceFolder) (d : Disk) (c : Codecs) (decode : Decoder) (source : Text) : Prop :=
  ∃ path bytes text, f.Leads d source path ∧ d.isFile path = .ok true ∧
    d.content path = .bytes bytes ∧ decode bytes = .ok text ∧
    f.loadFrom d c source = ⟨.nil, .ok (some (Text.unifyBreaks text))⟩

/-- Why a source is not given: its path leads out of the directory, no file stands there, or the file
cannot be opened, read or decoded. -/
inductive Lacks (f : SourceFolder) (d : Disk) (decode : Decoder) (source : Text) : Notice → Prop
  | outside {path : List Text} (hresolve : d.resolve f.root (Path.slashed source) = .ok path)
    (houtside : ¬ f.root <+: path) :
    Lacks f d decode source (.sourceOutside (Path.print f.root) source)
  | missing {path : List Text} (hleads : f.Leads d source path) (hfile : d.isFile path = .ok false) :
    Lacks f d decode source (.sourceMissing source)
  | unreadable {path : List Text} (hleads : f.Leads d source path) (hfile : d.isFile path = .ok true)
    (hcontent : IsUnreadable decode (d.content path)) :
    Lacks f d decode source (.sourceUnreadable source)

/-- Nothing is given of a source, and exactly one notice is left behind, which says why. -/
def Reports (f : SourceFolder) (d : Disk) (c : Codecs) (decode : Decoder) (source : Text) : Prop :=
  ∃ n, f.Lacks d decode source n ∧ f.loadFrom d c source = ⟨⟨[], [n]⟩, .ok none⟩

/-- With what a source fails: the disk has no answer about its path, or the encoding refuses the bytes
of its file without a place where they are damaged. -/
inductive Aborts (f : SourceFolder) (d : Disk) (decode : Decoder) (source : Text) : Failure → Prop
  | unresolved {failure : Failure}
    (hresolve : d.resolve f.root (Path.slashed source) = .error failure) :
    Aborts f d decode source failure
  | unanswered {path : List Text} {failure : Failure} (hleads : f.Leads d source path)
    (hfile : d.isFile path = .error failure) : Aborts f d decode source failure
  | refused {path : List Text} {bytes : Bytes} {fault : Fault} {failure : Failure}
    (hleads : f.Leads d source path) (hfile : d.isFile path = .ok true)
    (hcontent : d.content path = .bytes bytes) (hdecode : decode bytes = .error fault)
    (hrefusal : refusal? fault = some failure) : Aborts f d decode source failure

/-! ## Contents -/

/-- Damage alone leads to no failure. -/
theorem refusal?_eq_none_iff {fault : Fault} : refusal? fault = none ↔ fault = .damaged := by
  cases fault <;> simp [refusal?]

/-- What a fault leads to is not the failure of a malformed comment. -/
theorem not_malformed_of_refusal? {fault : Fault} (h : refusal? fault = some failure) :
    ∀ raw file, failure ≠ .malformed raw file := by
  rintro raw file rfl
  cases fault <;> cases h

/-- With a known encoding, a content that is not read to bytes is unreadable. -/
theorem readFrom_of_not_bytes (hdecoder : f.decoder c = .ok decode) {content : Content}
    (hcontent : ∀ bytes, content ≠ .bytes bytes) : f.readFrom c source content = unreadable source := by
  unfold readFrom
  rw [hdecoder]
  cases content with
  | closed => rfl
  | broken => rfl
  | bytes bytes => exact absurd rfl (hcontent bytes)

/-- With a known encoding, bytes are decoded. -/
theorem readFrom_bytes (hdecoder : f.decoder c = .ok decode) (bytes : Bytes) :
    f.readFrom c source (.bytes bytes) = readBytes decode source bytes := by
  unfold readFrom
  rw [hdecoder]

/-- A content is read to a text, to nothing with a notice, or not at all. -/
theorem readFrom_cases (hdecoder : f.decoder c = .ok decode) (source : Text) (content : Content) :
    (∃ bytes text, content = .bytes bytes ∧ decode bytes = .ok text ∧
      f.readFrom c source content = ⟨.nil, .ok (some (Text.unifyBreaks text))⟩) ∨
    (IsUnreadable decode content ∧
      f.readFrom c source content = ⟨⟨[], [.sourceUnreadable source]⟩, .ok none⟩) ∨
    ∃ bytes fault failure, content = .bytes bytes ∧ decode bytes = .error fault ∧
      refusal? fault = some failure ∧ f.readFrom c source content = .fail failure := by
  by_cases hbytes : ∃ bytes, content = .bytes bytes
  · rcases hbytes with ⟨bytes, rfl⟩
    rw [readFrom_bytes hdecoder, readBytes]
    cases hdecode : decode bytes with
    | ok text => exact Or.inl ⟨bytes, text, rfl, hdecode, rfl⟩
    | error fault =>
      cases hrefusal : refusal? fault with
      | none =>
        refine Or.inr (Or.inl ⟨?_, by simp only [hrefusal]; rfl⟩)
        rintro _ ⟨rfl⟩
        rw [hdecode, refusal?_eq_none_iff.1 hrefusal]
      | some failure =>
        exact Or.inr (Or.inr ⟨bytes, fault, failure, rfl, hdecode, hrefusal,
          by simp only [hrefusal]; rfl⟩)
  · have hnone : ∀ bytes, content ≠ .bytes bytes := fun bytes h => hbytes ⟨bytes, h⟩
    refine Or.inr (Or.inl ⟨fun bytes h => absurd h (hnone bytes), ?_⟩)
    rw [readFrom_of_not_bytes hdecoder hnone]
    rfl

/-! ## Sources -/

/-- A source fails with what the disk or the encoding fails with. -/
theorem Aborts.loadFrom_eq (h : f.Aborts d decode source failure)
    (hdecoder : f.decoder c = .ok decode) (hnul : source.contains '\x00' = false) :
    f.loadFrom d c source = .fail failure := by
  cases h with
  | unresolved hresolve => exact loadFrom_unresolved hnul hresolve
  | unanswered hleads hfile => exact hleads.loadFrom_unanswered hnul hfile
  | refused hleads hfile hcontent hdecode hrefusal =>
    rw [hleads.loadFrom_file hnul hfile, hcontent, readFrom_bytes hdecoder]
    simp only [readBytes, hdecode, hrefusal]
    rfl

/-- A source never fails as a malformed comment does. -/
theorem Aborts.not_malformed (h : f.Aborts d decode source failure) :
    ∀ raw file, failure ≠ .malformed raw file := by
  cases h with
  | unresolved hresolve => exact d.resolve_fails hresolve
  | unanswered _ hfile => exact d.isFile_fails hfile
  | refused _ _ _ _ hrefusal => exact not_malformed_of_refusal? hrefusal

/-- A source without NUL is answered or reported, or it fails. -/
theorem answers_or_reports_or_aborts (hdecoder : f.decoder c = .ok decode)
    (hnul : source.contains '\x00' = false) :
    (f.Answers d c decode source ∨ f.Reports d c decode source) ∨
      ∃ failure, f.Aborts d decode source failure := by
  cases hresolve : d.resolve f.root (Path.slashed source) with
  | error failure => exact Or.inr ⟨failure, .unresolved hresolve⟩
  | ok path =>
    by_cases hinside : f.root <+: path
    · have hleads : f.Leads d source path := ⟨hresolve, hinside⟩
      cases hfile : d.isFile path with
      | error failure => exact Or.inr ⟨failure, .unanswered hleads hfile⟩
      | ok isFile =>
        cases isFile with
        | false =>
          exact Or.inl (Or.inr ⟨_, .missing hleads hfile, hleads.loadFrom_missing hnul hfile⟩)
        | true =>
          have hload := hleads.loadFrom_file (c := c) hnul hfile
          rcases readFrom_cases hdecoder source (d.content path) with
            ⟨bytes, text, hcontent, hdecode, hread⟩ | ⟨hcontent, hread⟩ |
              ⟨bytes, fault, failure, hcontent, hdecode, hrefusal, _⟩
          · exact Or.inl (Or.inl ⟨path, bytes, text, hleads, hfile, hcontent, hdecode,
              hload.trans hread⟩)
          · exact Or.inl (Or.inr ⟨_, .unreadable hleads hfile hcontent, hload.trans hread⟩)
          · exact Or.inr ⟨failure, .refused hleads hfile hcontent hdecode hrefusal⟩
    · exact Or.inl (Or.inr ⟨_, .outside hresolve hinside, loadFrom_outside hnul hresolve hinside⟩)

/-- A source that is answered or reported is loaded. -/
theorem outcome_loadFrom (h : f.Answers d c decode source ∨ f.Reports d c decode source) :
    ∃ code, (f.loadFrom d c source).outcome = .ok code := by
  rcases h with ⟨_, _, _, _, _, _, _, hload⟩ | ⟨_, _, hload⟩
  · exact ⟨_, congrArg Recorded.outcome hload⟩
  · exact ⟨_, congrArg Recorded.outcome hload⟩

/-- What becomes of a source without NUL: its text is given, or nothing with exactly one notice that
says why; or else its load fails, with the disk or with the encoding, and in no other case. -/
theorem load_cases (hdecoder : f.decoder c = .ok decode) (hnul : source.contains '\x00' = false) :
    (f.Answers d c decode source ∨ f.Reports d c decode source) ∧
        (∀ failure, ¬ f.Aborts d decode source failure) ∨
      ∃ failure, f.Aborts d decode source failure ∧ f.loadFrom d c source = .fail failure := by
  rcases answers_or_reports_or_aborts (d := d) hdecoder hnul with hgoes | ⟨failure, haborts⟩
  · refine Or.inl ⟨hgoes, fun failure haborts => ?_⟩
    rcases outcome_loadFrom hgoes with ⟨code, hcode⟩
    rw [haborts.loadFrom_eq hdecoder hnul] at hcode
    cases hcode
  · exact Or.inr ⟨failure, haborts, haborts.loadFrom_eq hdecoder hnul⟩

/-- Loading a source asks nothing. -/
theorem questions_loadFrom (hdecoder : f.decoder c = .ok decode) (source : Text) :
    (f.loadFrom d c source).trace.questions = [] := by
  cases hnul : source.contains '\x00' with
  | true =>
    rw [loadFrom, hnul]
    rfl
  | false =>
    rcases load_cases (d := d) hdecoder hnul with
      ⟨⟨_, _, _, _, _, _, _, hload⟩ | ⟨_, _, hload⟩, _⟩ | ⟨_, _, hload⟩
    · rw [hload]
      rfl
    · rw [hload]
    · rw [hload]
      rfl

end SourceFolder
end DocMarkup
