import DocMarkup.Proofs.Comment.File

/-!
# Members of a document

A documentation file is read as a document, and each member is written out of it on its own, with
prefixes that are made up for it. Its markup is a fragment all the same: that of the member's
content, with the line breaks of its text unified and nothing else changed.

Main results:

- Theorem {lit}`MemberFile.keys_members`: the names of the members, in the order of the document.
- Theorem {lit}`MemberFile.parse?_markupOf`: the fragment that the markup of a member is.
- Theorem {lit}`MemberFile.load_serves`: the members of a file.
-/

namespace DocMarkup

open Xml (QName IsContent IsUnmarked HasStandardNames readContent? readDocument writeContent)
open Text (unifyBreaks)

/-- Text can be replaced before or after namespaces are dropped. -/
theorem Fragment.ofContent_mapText (replace : Text → Text) (f : Forest QName) :
    Fragment.ofContent (f.mapText replace) = (Fragment.ofContent f).mapText replace := by
  induction f with
  | nil => rfl
  | text run rest ih => simp only [Forest.mapText, Fragment.ofContent, ih]
  | element name attributes children rest ihChildren ihRest =>
    simp only [Forest.mapText, Fragment.ofContent, ihChildren, ihRest]

namespace MemberFile

variable {document : Forest QName}

/-- An element is a member by its tag and a name that is not empty. -/
theorem memberName?_eq_some_iff {e : Forest.Element QName} {key : Text} :
    memberName? e = some key ↔
      e.name = ⟨none, "member".toList⟩ ∧
        Assoc.get? (⟨none, "name".toList⟩ : QName) e.attributes = some key ∧ key ≠ [] := by
  unfold memberName? Member.attribute?
  split
  · next htag => simp [htag, Option.filter_eq_some_iff]
  · next htag =>
    constructor
    · intro hnone
      cases hnone
    · intro h
      exact absurd h.1 htag

/-- The names of the members are those of the elements that are members, each at its first place. -/
theorem keys_members (document : Forest QName) :
    (members document).map Prod.fst = (document.descendants.filterMap memberName?).eraseDups := by
  rw [members_eq_collect, Assoc.keys_collect, Assoc.distinct_eq_eraseDups]

/-- The markup of an element is the fragment of its content, with unified line breaks, when its
names are standard ones, and no fragment otherwise. -/
theorem parse?_markupOf (hdocument : IsContent IsUnmarked document) {e : Forest.Element QName}
    (he : e ∈ document.descendants) :
    Fragment.parse? (Member.markupOf e) =
      if HasStandardNames e.children then some ((Fragment.ofContent e.children).mapText unifyBreaks)
      else none := by
  have hiff := parse?_isSome_iff hdocument he
  split
  · next hnames =>
    have hcontent : IsContent IsUnmarked e.children :=
      ⟨(hdocument.1.of_mem_descendants he).2, hdocument.2.of_mem_descendants he⟩
    have hread : readContent? (Member.markupOf e) = some (e.children.mapText unifyBreaks) :=
      Xml.readContent?_writeContent (hcontent.isPlain hnames)
    rw [Fragment.parse?, hread, Option.map_some, Fragment.ofContent_mapText]
  · next hnames => exact Option.not_isSome_iff_eq_none.1 (mt hiff.1 hnames)

/-- A file that is accepted has a member for each distinct name that its elements of that tag give,
in the order of the document. A member is the inner markup of the first element of its name. It is a
fragment exactly when the names in it are standard ones, and then it is the fragment of that
element's content: tags, attributes and their values are kept, and of the text only line breaks
change. -/
theorem load_serves {t : FileTree} {file : List Text} {found : List (Text × Text)}
    (h : load t file = .ok found) :
    ∃ content document, t.find file = .ok content ∧ readDocument content = .ok document ∧
      found.map Prod.fst = (document.descendants.filterMap memberName?).eraseDups ∧
      ∀ key raw, (key, raw) ∈ found → ∃ e,
        document.descendants.find? (fun e => memberName? e = some key) = some e ∧
        e.name = ⟨none, "member".toList⟩ ∧
        Assoc.get? (⟨none, "name".toList⟩ : QName) e.attributes = some key ∧ key ≠ [] ∧
        raw = writeContent e.children ∧
        Fragment.parse? raw =
          if HasStandardNames e.children then
            some ((Fragment.ofContent e.children).mapText unifyBreaks)
          else none := by
  rcases load_eq_ok h with ⟨content, hcontent, document, hdocument, rfl⟩
  have hunmarked : IsContent IsUnmarked document := Xml.readDocument_isContent hdocument
  refine ⟨content, document, hcontent, hdocument, keys_members document, ?_⟩
  intro key raw hmember
  rcases find?_of_mem_members hmember with ⟨e, hfind, rfl⟩
  have hname : memberName? e = some key := by simpa using List.find?_some hfind
  rcases memberName?_eq_some_iff.1 hname with ⟨htag, hattribute, hkey⟩
  exact ⟨e, hfind, htag, hattribute, hkey, rfl,
    parse?_markupOf hunmarked (List.mem_of_find?_eq_some hfind)⟩

/-- A member inside another one is a member too. A namespace is declared anew, and a carriage return
stays in a value while it becomes a line feed in the text. -/
theorem load_serves_nested :
    let t := singleFile ("<member name='A'>a&#13;<p:x xmlns:p='u' k='&#13;'/>" ++
      "<member name='B'>c</member></member>")
    let raw := "a\r<ns0:x xmlns:ns0=\"u\" k=\"&#13;\" /><member name=\"B\">c</member>".toList
    load t ["docs.xml".toList] = .ok [("A".toList, raw), ("B".toList, "c".toList)] ∧
      Fragment.parse? raw = some (.text "a\n".toList (.element "x".toList
        [("k".toList, "\r".toList)] .nil (.element "member".toList
          [("name".toList, "B".toList)] (.text "c".toList .nil) .nil))) ∧
      ∃ content document, t.find ["docs.xml".toList] = .ok content ∧
        readDocument content = .ok document ∧
        ∃ e, document.descendants.find? (fun e => memberName? e = some "A".toList) = some e ∧
          Fragment.parse? raw =
            if HasStandardNames e.children then
              some ((Fragment.ofContent e.children).mapText unifyBreaks)
            else none := by
  intro t raw
  have hload : load t ["docs.xml".toList] = .ok [("A".toList, raw), ("B".toList, "c".toList)] :=
    eq_ok_of_toOption (by decide +kernel)
  refine ⟨hload, by decide +kernel, ?_⟩
  rcases load_serves hload with ⟨content, document, hcontent, hdocument, _, hmembers⟩
  rcases hmembers "A".toList raw (by simp) with ⟨e, hfind, _, _, _, _, hparse⟩
  exact ⟨content, document, hcontent, hdocument, e, hfind, hparse⟩

/-- The markup of a member whose tag is no name in other codings is no fragment. -/
theorem parse?_ordinal_eq_none :
    let t := singleFile "<?xml version='1.0' encoding='iso-8859-1'?><member name='A'><ª/></member>"
    load t ["docs.xml".toList] = .ok [("A".toList, "<ª />".toList)] ∧
      Fragment.parse? "<ª />".toList = none := by
  intro t
  exact ⟨eq_ok_of_toOption (by decide +kernel), by decide +kernel⟩

end MemberFile
end DocMarkup
