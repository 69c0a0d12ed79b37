import DocMarkup.Proofs.Comment.Asked
import DocMarkup.Proofs.Comment.File
import DocMarkup.Proofs.Encoding.Fault
import DocMarkup.Proofs.File.Length
import DocMarkup.Proofs.File.Source

/-!
# Comments with sources from files

The sources of a batch come from the files of a directory, on any disk and in any encoding. A source
that is outside, missing or unreadable is reported, and the batch goes on. A source whose load fails
ends the batch: the disk has no answer about its path, or its encoding refuses the bytes as a whole.
In a tree of files that can all be read, the disk has no answer about a name that is too long, and
otherwise always has one.

Main results:

- Theorem {lit}`Member.exists_task_eq`: a task builds the comment of a provider that can be read.
- Theorem {lit}`SourceFolder.aborts_disk_iff`: which sources fail in a tree of files.
- Theorem {lit}`SourceFolder.build_with_sources`: which sources a batch survives.
-/

namespace DocMarkup

open DocMarkup.Path (IsDirect)

/-! ## Tasks -/

namespace Member

variable {targets : List (Text × LinkTarget)} {keyword : Option (Text → Option Text)} {raw : Text}

/-- The task of a member is to build its comment. -/
theorem exists_task_eq (hraw : (Fragment.parse? raw).isSome) :
    ∃ p : Provider, p.IsReadable ∧
      ∀ source, task targets source keyword raw = p.build source keyword := by
  rcases Option.isSome_iff_exists.1 hraw with ⟨_, hparse⟩
  obtain ⟨content, hcontent, rfl⟩ := Option.map_eq_some_iff.1 hparse
  have hmember : parse? raw = some (ofContent content) := by
    rw [parse?, hcontent]
    rfl
  refine ⟨_, provider_isReadable hcontent ⟨targets, none, none⟩, fun source => ?_⟩
  rw [task, hmember]
  rfl

end Member

namespace SourceFolder

open Encoding (Codecs Decoder)

variable {f : SourceFolder} {t : FileTree} {c : Codecs} {decode : Decoder}

/-! ## Loads -/

/-- In a tree of files, a source fails with a name that is too long or with the bytes of its file. -/
theorem aborts_disk_iff (ht : t.IsProper) (hroot : IsDirect f.root) {source : Text} :
    (∃ failure, f.Aborts t.disk decode source failure) ↔
      ∃ path, f.locate? source = some path ∧ (t.MeetsLongName path ∨
        ∃ content fault, t.find? path = .ok (some (.file content)) ∧
          decode content = .error fault ∧ fault ≠ .damaged) := by
  have hdirect : ∀ path, f.locate? source = some path → IsDirect path := by
    intro path hlocate
    rcases locate?_eq_some_iff.1 hlocate with ⟨rfl, _⟩
    exact Path.resolve_isDirect hroot _
  constructor
  · rintro ⟨failure, ⟨⟨⟩⟩ | ⟨hleads, hfile⟩ | ⟨hleads, hfile, hcontent, hdecode, hrefusal⟩⟩
    · have hlocate := leads_disk_iff.1 hleads
      refine ⟨_, hlocate, Or.inl ((ht.find?_fails_iff (hdirect _ hlocate)).1 ⟨failure, ?_⟩)⟩
      exact FileTree.isFile_eq_error_iff.1 hfile
    · refine ⟨_, leads_disk_iff.1 hleads, Or.inr ⟨_, _, ?_, hdecode, ?_⟩⟩
      · exact FileTree.content_eq_bytes_iff.1 hcontent
      · rintro rfl
        cases hrefusal
  · rintro ⟨path, hlocate, hlong | ⟨content, fault, hfind, hdecode, hother⟩⟩
    · rcases (ht.find?_fails_iff (hdirect path hlocate)).2 hlong with ⟨failure, hfind⟩
      exact ⟨failure, .unanswered (leads_disk_iff.2 hlocate) (FileTree.isFile_eq_error_iff.2 hfind)⟩
    · cases hrefusal : refusal? fault with
      | none => exact absurd (refusal?_eq_none_iff.1 hrefusal) hother
      | some failure =>
        exact ⟨failure, .refused (leads_disk_iff.2 hlocate) (FileTree.isFile_of_file hfind)
          (FileTree.content_eq_bytes_iff.2 hfind) hdecode hrefusal⟩

/-- Text that a document may hold has no NUL. -/
theorem contains_nul_of_isRun {s : Text} (hs : Xml.IsRun s) : s.contains '\x00' = false := by
  rw [Bool.eq_false_iff]
  intro hnul
  exact absurd (hs _ (List.contains_iff_mem.1 hnul)) (by decide)

/-! ## Batches -/

/-- Which sources a build survives, whatever stands on the disk and whatever the name of their encoding
stands for. A source without NUL is answered with its decoded text, or reported with exactly one notice;
or else it fails, with the disk, when this cannot tell where the path leads or whether a file stands
there, or with the encoding, when this refuses the bytes of the file without a place where they are
damaged. A batch of members whose markup is accepted asks for sources without NUL alone; it has a
comment for every member unless a source that it asks for fails, and then the batch fails. In a tree of
files that can all be read, the disk fails for a name that is too long alone. Only some of the named
encodings refuse bytes so. -/
theorem build_with_sources (f : SourceFolder) (d : Disk) (hdecoder : f.decoder c = .ok decode) :
    (∀ source, source.contains '\x00' = false →
      (f.Answers d c decode source ∨ f.Reports d c decode source) ∧
          (∀ failure, ¬ f.Aborts d decode source failure) ∨
        ∃ failure, f.Aborts d decode source failure ∧ f.loadFrom d c source = .fail failure) ∧
    (∀ (targets : List (Text × LinkTarget)) (keyword : Option (Text → Option Text))
      (members : List (Text × Text)) (workers : Option Int), (members.map Prod.fst).Nodup →
      (∀ n ∈ workers, 0 < n) → (∀ member ∈ members, (Fragment.parse? member.2).isSome) →
      let tasks := Member.tasks targets (some (f.loadFrom d c)) keyword members
      let batch := Batch.build tasks workers
      let asked := fun id => ∃ entry ∈ tasks, .source id ∈ entry.2.trace.questions
      (∀ id, asked id → id.contains '\x00' = false) ∧
      ((∀ id failure, asked id → ¬ f.Aborts d decode id failure) →
        ∃ comments, batch.outcome = .ok comments ∧
          comments.map Prod.fst = members.map Prod.fst) ∧
      ((∃ id failure, asked id ∧ f.Aborts d decode id failure) →
        ∃ failure, batch.outcome = .error failure)) ∧
    (∀ t : FileTree, t.IsProper → IsDirect f.root → ∀ source,
      (∃ failure, f.Aborts t.disk decode source failure) ↔
        ∃ path, f.locate? source = some path ∧ (t.MeetsLongName path ∨
          ∃ content fault, t.find? path = .ok (some (.file content)) ∧
            decode content = .error fault ∧ fault ≠ .damaged)) ∧
    ∀ name e, Encoding.named? name = some e →
      ((∃ bytes fault, e.decode bytes = .error fault ∧ fault ≠ .damaged) ↔
        e.onlyDamages = false) := by
  have hquiet : ∀ id, (f.loadFrom d c id).trace.questions = [] := questions_loadFrom hdecoder
  refine ⟨fun source hnul => load_cases hdecoder hnul, ?_,
    fun t ht hroot source => aborts_disk_iff ht hroot, fun name e => Encoding.refuses_iff⟩
  intro targets keyword members workers hkeys hworkers hmembers tasks batch asked
  have htask : ∀ entry ∈ tasks, ∃ p : Provider, p.IsReadable ∧
      entry.2 = p.build (some (f.loadFrom d c)) keyword := by
    intro entry hentry
    rcases List.mem_map.1 hentry with ⟨member, hmember, rfl⟩
    rcases Member.exists_task_eq (hmembers member hmember) with ⟨p, hp, heq⟩
    exact ⟨p, hp, heq _⟩
  have htaskKeys : tasks.map Prod.fst = members.map Prod.fst := Member.keys_tasks
  have hnul : ∀ id, asked id → id.contains '\x00' = false := by
    rintro id ⟨entry, hentry, hid⟩
    rcases htask entry hentry with ⟨p, _, heq⟩
    have hsources : (p.resolvers (some (f.loadFrom d c)) keyword).Quiet := by
      intro load hload
      obtain rfl := Option.some.inj hload
      exact hquiet
    rw [heq] at hid
    exact contains_nul_of_isRun (p.build_asksFor hsources id hid)
  refine ⟨hnul, fun hnone => ?_, ?_⟩
  · rw [← htaskKeys]
    refine Batch.build_succeeds (htaskKeys ▸ hkeys) hworkers fun entry hentry => ?_
    rcases htask entry hentry with ⟨p, hp, heq⟩
    rw [heq]
    refine hp.build_succeeds_of_asked keyword fun id hid => ?_
    have hasked : asked id := ⟨entry, hentry, by rwa [heq]⟩
    rcases load_cases (d := d) hdecoder (hnul id hasked) with ⟨hgoes, _⟩ | ⟨failure, haborts, _⟩
    · exact outcome_loadFrom hgoes
    · exact absurd haborts (hnone id failure hasked)
  · rintro ⟨id, failure, hasked, haborts⟩
    have hload := haborts.loadFrom_eq hdecoder (hnul id hasked)
    rcases hasked with ⟨entry, hentry, hid⟩
    rcases htask entry hentry with ⟨p, _, heq⟩
    have hfails : entry.2.outcome = .error failure := by
      rw [heq] at hid ⊢
      exact p.build_failsOn hquiet keyword id failure hid (congrArg Recorded.outcome hload)
    exact Batch.build_fails (htaskKeys ▸ hkeys) hworkers hentry hfails haborts.not_malformed

/-- A file that is damaged costs no comment. -/
theorem build_with_sources_damaged :
    let t : FileTree := ⟨[(["Legacy.cs".toList], [0x63, 0xE9, 0x0A])], []⟩
    let f : SourceFolder := ⟨[], "utf8".toList⟩
    let members := [("T:Good".toList, "<summary>ok</summary>".toList),
      ("T:Bad".toList, "<example><code source='Legacy.cs'/></example>".toList)]
    make [] [] "utf8".toList = .ok f ∧ f.decoder codecs = .ok Encoding.utf8.decode ∧ t.IsProper ∧
      ∃ comments, (Batch.build (Member.tasks [] (some (f.load t)) none members) (some 2)).outcome =
          .ok comments ∧
        comments.map Prod.fst = ["T:Good".toList, "T:Bad".toList] := by
  intro t f members
  have hmake : make [] [] "utf8".toList = .ok f := rfl
  have hdecoder : f.decoder codecs = .ok Encoding.utf8.decode := rfl
  have ht : t.IsProper := by decide
  rcases build_with_sources f t.disk hdecoder with ⟨hload, hbatch, _⟩
  have hquestions : ((Member.tasks [] (some (f.load t)) none members).flatMap
      fun entry => entry.2.trace.questions) = [.source "Legacy.cs".toList] := by decide +kernel
  have hreported : (f.load t "Legacy.cs".toList).outcome = .ok none :=
    eq_ok_of_toOption (by decide +kernel)
  rcases hbatch [] none members (some 2) (by decide) (by decide) (by decide +kernel) with
    ⟨_, hsurvives, _⟩
  refine ⟨hmake, hdecoder, ht, hsurvives ?_⟩
  rintro id failure ⟨entry, hentry, hid⟩ haborts
  have hmem : .source id ∈ (Member.tasks [] (some (f.load t)) none members).flatMap
      fun entry => entry.2.trace.questions := List.mem_flatMap.2 ⟨entry, hentry, hid⟩
  rw [hquestions] at hmem
  obtain rfl : id = "Legacy.cs".toList := Question.source.inj (List.mem_singleton.1 hmem)
  rcases hload "Legacy.cs".toList (by decide) with ⟨_, hnone⟩ | ⟨_, _, hfails⟩
  · exact hnone failure haborts
  · rw [load, hfails] at hreported
    cases hreported

/-- A file of one character in UTF-16 without a mark costs every comment. -/
theorem build_with_sources_unmarked :
    let t : FileTree := ⟨[(["a.cs".toList], [0x61, 0])], []⟩
    let f : SourceFolder := ⟨[], "utf16".toList⟩
    let members := [("T:Good".toList, "<summary>ok</summary>".toList),
      ("T:Bad".toList, "<example><code source='a.cs'/></example>".toList)]
    make [] [] "utf16".toList = .ok f ∧ t.IsProper ∧
      (∀ member ∈ members, (Fragment.parse? member.2).isSome) ∧
      (f.load t "a.cs".toList).outcome = .error .missingByteOrderMark ∧
      (Batch.build (Member.tasks [] (some (f.load t)) none members) (some 2)).outcome =
        .error .missingByteOrderMark := by
  intro t f members
  refine ⟨rfl, by decide, by decide +kernel, ?_, ?_⟩
  · exact eq_error_of_failure? (by decide +kernel)
  · exact eq_error_of_failure? (by decide +kernel)

end SourceFolder
end DocMarkup
