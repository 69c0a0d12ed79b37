import DocMarkup.Comment.File
import DocMarkup.Proofs.Batch
import DocMarkup.Proofs.Comment.Build
import DocMarkup.Proofs.Comment.Notices
import DocMarkup.Proofs.Xml.Document
import DocMarkup.Proofs.Xml.Readable
import DocMarkup.Proofs.Xml.Root
import DocMarkup.Site

/-!
# Comments of a documentation file

Markup that could be read once is never rejected further down: a member can be read when a fragment
can, its comment is built from what it serves, and a batch has a comment for every member whose
markup can be read. The markup of a member in a file can be read when its names are names in every
coding; a file in a coding with more letters may hold others, and only those members are left out.

Main definitions:

- {lit}`Member.task`: the task of building a comment, with any resolvers.

Main results:

- Theorem {lit}`Member.tasks_of_site`: a site has the tasks for its own resolvers.
- Theorem {lit}`Member.outcome_task`: a task fails exactly for markup that cannot be read.
- Theorem {lit}`MemberFile.parse?_isSome_iff`: when the markup of a member can be read.
- Theorem {lit}`MemberFile.build_keeps`: the comments of a documentation file.
-/

namespace DocMarkup

open Xml (QName IsContent IsUnmarked readContent? readDocument rootOfText? wrapped writeContent)

/-! ## Tasks -/

namespace Member

variable {targets : List (Text × LinkTarget)}
  {source : Option (Text → Recorded Failure (Option Text))} {keyword : Option (Text → Option Text)}
  {members : List (Text × Text)}

/-- Markup is a member exactly when it is a fragment. -/
theorem parse?_eq_none_iff {raw : Text} : parse? raw = none ↔ Fragment.parse? raw = none := by
  rw [parse?, Fragment.parse?, Option.map_eq_none_iff, Option.map_eq_none_iff]

/-- The comment of markup that is a member is built. -/
theorem build_succeeds {raw : Text} {member : Member} (hmember : parse? raw = some member)
    (s : Surroundings) (hsource : ∀ load ∈ source, ∀ id, ∃ code, (load id).outcome = .ok code)
    (keyword : Option (Text → Option Text)) :
    ∃ c, ((member.provider raw s).build source keyword).outcome = .ok c := by
  rcases Option.map_eq_some_iff.1 hmember with ⟨content, hcontent, rfl⟩
  exact (provider_isReadable hcontent s).build_succeeds hsource keyword

/-- The task of building the comment of a member's markup, with any resolvers. -/
def task (targets : List (Text × LinkTarget))
    (source : Option (Text → Recorded Failure (Option Text)))
    (keyword : Option (Text → Option Text)) (raw : Text) : Recorded Failure Comment := do
  let member ← .ofOption (.malformed raw none) (parse? raw)
  (member.provider raw ⟨targets, none, none⟩).build source keyword

/-- One task for each member. -/
def tasks (targets : List (Text × LinkTarget))
    (source : Option (Text → Recorded Failure (Option Text)))
    (keyword : Option (Text → Option Text)) (members : List (Text × Text)) :
    List (Text × Recorded Failure Comment) :=
  members.map fun member => (member.1, task targets source keyword member.2)

/-- A site has the tasks for its own resolvers. -/
theorem tasks_of_site (s : Site) (t : FileTree) (members : List (Text × Text)) :
    s.tasks t members =
      tasks s.targets (some (s.sources.load t)) (some (Keyword.link? s.keywords)) members :=
  rfl

/-- A task gives a comment when its markup is a fragment, and fails for its markup otherwise. -/
theorem outcome_task (targets : List (Text × LinkTarget)) (keyword : Option (Text → Option Text))
    (hsource : ∀ load ∈ source, ∀ id, ∃ code, (load id).outcome = .ok code)
    (raw : Text) :
    (∃ c, (task targets source keyword raw).outcome = .ok c) ∧ (Fragment.parse? raw).isSome ∨
      Batch.IsMalformed (task targets source keyword raw) ∧ Fragment.parse? raw = none := by
  cases hmember : parse? raw with
  | none =>
    refine Or.inr ⟨⟨raw, none, ?_⟩, parse?_eq_none_iff.1 hmember⟩
    rw [task, hmember]
    rfl
  | some member =>
    rcases build_succeeds hmember ⟨targets, none, none⟩ hsource keyword with ⟨c, hc⟩
    refine Or.inl ⟨⟨c, ?_⟩, ?_⟩
    · rw [task, hmember]
      exact hc
    · rw [Option.isSome_iff_ne_none, Ne, ← parse?_eq_none_iff, hmember]
      exact Option.some_ne_none member

/-- The notices of a task are about regions or come from the source. -/
theorem task_leaves (raw : Text) : (task targets source keyword raw).Leaves (IsExpected source) :=
  (Recorded.leaves_ofOption _ _).bind fun member => (member.provider raw _).build_leaves _ _

/-! ## Batches -/

/-- Every task settles. -/
theorem settles_of_mem_tasks
    (hsource : ∀ load ∈ source, ∀ id, ∃ code, (load id).outcome = .ok code)
    {entry : Text × Recorded Failure Comment}
    (hentry : entry ∈ tasks targets source keyword members) : Batch.Settles entry.2 := by
  rcases List.mem_map.1 hentry with ⟨member, _, rfl⟩
  rcases outcome_task targets keyword hsource member.2 with ⟨hok, _⟩ | ⟨hmalformed, _⟩
  · exact Or.inl hok
  · exact Or.inr hmalformed

/-- The tasks have the keys of the members. -/
theorem keys_tasks : (tasks targets source keyword members).map Prod.fst = members.map Prod.fst :=
  List.map_map ..

/-- The tasks that give a comment are those of the markup that can be read. -/
theorem keys_kept (targets : List (Text × LinkTarget)) (keyword : Option (Text → Option Text))
    (members : List (Text × Text))
    (hsource : ∀ load ∈ source, ∀ id, ∃ code, (load id).outcome = .ok code) :
    (Batch.kept (tasks targets source keyword members)).map Prod.fst =
      (members.filter fun member => (Fragment.parse? member.2).isSome).map Prod.fst := by
  induction members with
  | nil => rfl
  | cons member members ih =>
    unfold tasks at ih ⊢
    rw [List.map_cons, List.filter_cons]
    rcases outcome_task targets keyword hsource member.2 with
      ⟨⟨c, hc⟩, hread⟩ | ⟨⟨raw, file, hmalformed⟩, hnone⟩
    · rw [Batch.kept_cons_ok hc, if_pos hread, List.map_cons, List.map_cons, ih]
    · rw [Batch.kept_cons_error hmalformed, hnone, ih]
      rfl

/-- A batch of members has a comment for each one whose markup can be read, in order. -/
theorem outcome_build_tasks
    (hsource : ∀ load ∈ source, ∀ id, ∃ code, (load id).outcome = .ok code)
    (hkeys : (members.map Prod.fst).Nodup) {workers : Option Int}
    (hworkers : ∀ n ∈ workers, 0 < n) :
    (Batch.build (tasks targets source keyword members) workers).outcome =
      .ok (Batch.kept (tasks targets source keyword members)) := by
  rw [Batch.build_eq_runSchedule hworkers]
  refine Batch.outcome_runSchedule (keys_tasks ▸ hkeys) ?_ (List.Subset.refl _)
  intro entry hentry
  exact settles_of_mem_tasks hsource hentry

/-- The notices of a batch of members: those of the tasks, and one for each member whose markup
cannot be read. -/
theorem mem_notices_build_tasks
    (hsource : ∀ load ∈ source, ∀ id, ∃ code, (load id).outcome = .ok code)
    {workers : Option Int} (hworkers : ∀ n ∈ workers, 0 < n) {n : Notice} :
    n ∈ (Batch.build (tasks targets source keyword members) workers).trace.notices ↔
      ∃ member ∈ members, n ∈ (task targets source keyword member.2).trace.notices ∨
        n = .commentSkipped member.1 ∧ Fragment.parse? member.2 = none := by
  have hmalformed : ∀ raw, Batch.IsMalformed (task targets source keyword raw) ↔
      Fragment.parse? raw = none := by
    intro raw
    rcases outcome_task targets keyword hsource raw with ⟨⟨c, hc⟩, hread⟩ | ⟨hmalformed, hnone⟩
    · simp [Batch.IsMalformed, hc, Option.isSome_iff_ne_none.1 hread]
    · simp [hmalformed, hnone]
  rw [Batch.build_eq_runSchedule hworkers, Batch.mem_notices_runSchedule]
  constructor
  · rintro ⟨entry, hentry, hn⟩
    rcases List.mem_map.1 hentry with ⟨member, hmember, rfl⟩
    rw [hmalformed] at hn
    exact ⟨member, hmember, hn⟩
  · rintro ⟨member, hmember, hn⟩
    rw [← hmalformed] at hn
    exact ⟨_, List.mem_map_of_mem hmember, hn⟩

/-- A notice that a comment is skipped comes from the source, or is about a member whose markup
cannot be read. -/
theorem skipped_of_mem_notices
    (hsource : ∀ load ∈ source, ∀ id, ∃ code, (load id).outcome = .ok code)
    {workers : Option Int} (hworkers : ∀ n ∈ workers, 0 < n) {key : Text}
    (hskipped : .commentSkipped key ∈
      (Batch.build (tasks targets source keyword members) workers).trace.notices) :
    (∃ load ∈ source, ∃ id, .commentSkipped key ∈ (load id).trace.notices) ∨
      ∃ raw, (key, raw) ∈ members ∧ Fragment.parse? raw = none := by
  rcases (mem_notices_build_tasks hsource hworkers).1 hskipped with
    ⟨member, hmember, htask | ⟨hkey, hnone⟩⟩
  · rcases task_leaves member.2 _ htask with ⟨name, id, hregion⟩ | hload
    · cases hregion
    · exact Or.inl hload
  · obtain rfl : key = member.1 := by simpa using hkey
    exact Or.inr ⟨member.2, hmember, hnone⟩

end Member

/-! ## Files -/

/-- Neither root ends like a comment, an instruction or a section. -/
theorem isRootName_of_mem {root : Text} (hroot : root ∈ ["member".toList, "tag".toList]) :
    Xml.IsRootName .standard root := by
  simp only [List.mem_cons, List.not_mem_nil, or_false] at hroot
  rcases hroot with rfl | rfl
  · exact ⟨by decide +kernel, by simp⟩
  · exact ⟨by decide +kernel, by simp⟩

namespace MemberFile

variable {t : FileTree} {file : List Text} {found : List (Text × Text)} {document : Forest QName}

/-- The members of a file are those of its document. -/
theorem load_eq_ok (h : load t file = .ok found) :
    ∃ content, t.find file = .ok content ∧ ∃ document, readDocument content = .ok document ∧
      found = members document := by
  rcases outcome_bind_eq_ok h with ⟨content, hcontent, h⟩
  refine ⟨content, hcontent, ?_⟩
  split at h
  · next document hdocument => exact ⟨document, hdocument, (Except.ok.inj h).symm⟩
  · cases h

/-- The members of a document are collected by their names. -/
theorem members_eq_collect (document : Forest QName) :
    members document = Assoc.collect memberName? Member.markupOf [] document.descendants := by
  unfold members membersOf Assoc.collect
  congr 1
  funext found e
  unfold Assoc.addNew
  cases memberName? e <;> rfl

/-- No two members have one name. -/
theorem nodup_members (document : Forest QName) : ((members document).map Prod.fst).Nodup := by
  rw [members_eq_collect]
  exact Assoc.nodup_collect _ _ (by simp) _

/-- A member is the first element of its name. -/
theorem find?_of_mem_members {key raw : Text} (hmember : (key, raw) ∈ members document) :
    ∃ e, document.descendants.find? (fun e => memberName? e = some key) = some e ∧
      raw = Member.markupOf e := by
  have hget := Assoc.get?_of_mem (nodup_members document) hmember
  rw [members_eq_collect, Assoc.get?_collect] at hget
  rcases Option.map_eq_some_iff.1 hget with ⟨e, he, rfl⟩
  exact ⟨e, he, rfl⟩

/-- The markup of an element can be read exactly when its names are standard ones. -/
theorem parse?_isSome_iff (hdocument : IsContent IsUnmarked document)
    {e : Forest.Element QName} (he : e ∈ document.descendants) :
    (Fragment.parse? (Member.markupOf e)).isSome ↔ Xml.HasStandardNames e.children := by
  have hcontent : IsContent IsUnmarked e.children :=
    ⟨(hdocument.1.of_mem_descendants he).2, hdocument.2.of_mem_descendants he⟩
  rw [Fragment.parse?, Option.isSome_map]
  exact Xml.readContent?_writeContent_iff hcontent

/-- A member of a document comes from an element of its name, and can be read exactly when the names
in that element are standard ones. -/
theorem exists_of_mem_members (hdocument : IsContent IsUnmarked document) {key raw : Text}
    (hmember : (key, raw) ∈ members document) :
    ∃ e ∈ document.descendants, memberName? e = some key ∧ raw = writeContent e.children ∧
      ((Fragment.parse? raw).isSome ↔ Xml.HasStandardNames e.children) := by
  rcases find?_of_mem_members hmember with ⟨e, he, rfl⟩
  have hdescendant := List.mem_of_find?_eq_some he
  have hname : memberName? e = some key := by simpa using List.find?_some he
  exact ⟨e, hdescendant, hname, rfl, parse?_isSome_iff hdocument hdescendant⟩

/-- Every member of a document can be read when the names in members are standard ones. -/
theorem parse?_isSome_of_mem_members (hdocument : IsContent IsUnmarked document)
    (hstandard : ∀ e ∈ document.descendants, (memberName? e).isSome →
      Xml.HasStandardNames e.children)
    {member : Text × Text} (hmember : member ∈ members document) :
    (Fragment.parse? member.2).isSome = true := by
  rcases exists_of_mem_members hdocument hmember with ⟨e, he, hname, _, hiff⟩
  have hsome : (memberName? e).isSome := by
    rw [hname]
    rfl
  exact hiff.2 (hstandard e he hsome)

/-- What could be read once is not rejected further down, when the source always answers. The two
roots that markup is put into accept the same texts, and the comment of a member is built, whatever
names are declared. A batch over a file has a comment for each member whose markup can be read, in
order, and a notice for each of the others; the markup of a member can be read exactly when its names
are standard ones, so with such names there is a comment for every member and no notice. -/
theorem build_keeps (targets : List (Text × LinkTarget))
    {source : Option (Text → Recorded Failure (Option Text))}
    (hsource : ∀ load ∈ source, ∀ id, ∃ code, (load id).outcome = .ok code)
    (keyword : Option (Text → Option Text)) :
    (∀ raw : Text,
      (∀ root ∈ ["member".toList, "tag".toList], ∀ pieceSize standsAlone,
        rootOfText? .standard pieceSize standsAlone (wrapped root raw) =
          (readContent? raw).map fun content => .element ⟨none, root⟩ [] content .nil) ∧
      (Member.parse? raw = none ↔ Fragment.parse? raw = none) ∧
      ∀ member, Member.parse? raw = some member → ∀ parameterNames typeParameterNames,
        ∃ c, ((member.provider raw ⟨targets, parameterNames, typeParameterNames⟩).build source
          keyword).outcome = .ok c) ∧
    ∀ t file found workers, load t file = .ok found → (∀ n ∈ workers, 0 < n) →
      let batch := Batch.build (Member.tasks targets source keyword found) workers
      let fromSource := fun n => ∃ load ∈ source, ∃ id, n ∈ (load id).trace.notices
      ∃ content document comments, t.find file = .ok content ∧
        readDocument content = .ok document ∧ batch.outcome = .ok comments ∧
        comments.map Prod.fst =
          (found.filter fun member => (Fragment.parse? member.2).isSome).map Prod.fst ∧
        (∀ key, .commentSkipped key ∈ batch.trace.notices → fromSource (.commentSkipped key) ∨
          ∃ raw, (key, raw) ∈ found ∧ Fragment.parse? raw = none) ∧
        (∀ key raw, (key, raw) ∈ found →
          (Fragment.parse? raw = none → .commentSkipped key ∈ batch.trace.notices) ∧
          ∃ e ∈ document.descendants, memberName? e = some key ∧ raw = writeContent e.children ∧
            ((Fragment.parse? raw).isSome ↔ Xml.HasStandardNames e.children)) ∧
        ((∀ e ∈ document.descendants, (memberName? e).isSome → Xml.HasStandardNames e.children) →
          comments.map Prod.fst = found.map Prod.fst ∧
          ∀ key, .commentSkipped key ∈ batch.trace.notices →
            fromSource (.commentSkipped key)) := by
  refine ⟨fun raw => ⟨?_, Member.parse?_eq_none_iff, ?_⟩, ?_⟩
  · intro root hroot pieceSize standsAlone
    exact Xml.rootOfText?_wrapped (isRootName_of_mem hroot) pieceSize standsAlone raw
  · intro member hmember parameterNames typeParameterNames
    exact Member.build_succeeds hmember _ hsource keyword
  · intro t file found workers hload hworkers batch fromSource
    rcases load_eq_ok hload with ⟨content, hcontent, document, hdocument, rfl⟩
    have hunmarked : IsContent IsUnmarked document := Xml.readDocument_isContent hdocument
    have hskipped : ∀ key, .commentSkipped key ∈ batch.trace.notices →
        fromSource (.commentSkipped key) ∨
          ∃ raw, (key, raw) ∈ members document ∧ Fragment.parse? raw = none :=
      fun _ => Member.skipped_of_mem_notices hsource hworkers
    have hkeys := Member.keys_kept targets keyword (members document) hsource
    refine ⟨content, document, _, hcontent, hdocument,
      Member.outcome_build_tasks hsource (nodup_members document) hworkers, hkeys, hskipped, ?_, ?_⟩
    · intro key raw hmember
      refine ⟨?_, exists_of_mem_members hunmarked hmember⟩
      intro hnone
      exact (Member.mem_notices_build_tasks hsource hworkers).2
        ⟨(key, raw), hmember, Or.inr ⟨rfl, hnone⟩⟩
    · intro hstandard
      have hread : ∀ member ∈ members document, (Fragment.parse? member.2).isSome = true :=
        fun _ hmember => parse?_isSome_of_mem_members hunmarked hstandard hmember
      constructor
      · rw [hkeys, List.filter_eq_self.2 hread]
      · intro key hnotice
        rcases hskipped key hnotice with hsourced | ⟨raw, hmember, hnone⟩
        · exact hsourced
        · have hsome := hread (key, raw) hmember
          rw [hnone] at hsome
          cases hsome

/-- A tree of one documentation file, each of whose characters is a byte. -/
def singleFile (content : String) : FileTree :=
  ⟨[(["docs.xml".toList], content.toList.map fun c => UInt8.ofNat c.toNat)], []⟩

/-- A file with one summary gives one comment. -/
theorem build_keeps_summary :
    let t := singleFile "<member name='A'><summary>x</summary></member>"
    let found := [("A".toList, "<summary>x</summary>".toList)]
    load t ["docs.xml".toList] = .ok found ∧
      ∃ comments, (Batch.build (Member.tasks [] none none found) (some 2)).outcome = .ok comments ∧
        comments.map Prod.fst = ["A".toList] := by
  intro t found
  have hload : load t ["docs.xml".toList] = .ok found := eq_ok_of_toOption (by decide +kernel)
  rcases (@build_keeps [] none (by simp) none).2 t _ found (some 2) hload (by simp) with
    ⟨_, _, comments, _, _, hcomments, hkeys, _⟩
  exact ⟨hload, comments, hcomments, hkeys.trans (by decide +kernel)⟩

/-- A member whose tag is no name in other codings is left out, with a notice. -/
theorem build_skips_ordinal :
    let t := singleFile "<?xml version='1.0' encoding='iso-8859-1'?><member name='A'><ª/></member>"
    let found := [("A".toList, "<ª />".toList)]
    let batch := Batch.build (Member.tasks [] none none found) (some 2)
    load t ["docs.xml".toList] = .ok found ∧ batch.outcome = .ok [] ∧
      batch.trace.notices = [.commentSkipped "A".toList] := by
  intro t found batch
  exact ⟨eq_ok_of_toOption (by decide +kernel), eq_ok_of_toOption (by decide +kernel),
    by decide +kernel⟩

end MemberFile
end DocMarkup
