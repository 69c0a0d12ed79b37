import DocMarkup.Comment.Member
import DocMarkup.File.Tree
import DocMarkup.Trace
import DocMarkup.Xml.Document

/-!
# Documentation files

A documentation file holds the markup of many members. A member is any element of that name,
wherever it stands, that has a name of its own; of several of one name the first counts.

Main definitions:

- {lit}`MemberFile.members`: the members of a document, each as its inner markup.
- {lit}`MemberFile.load`: the members of a file.
-/

namespace DocMarkup
namespace MemberFile

/-- The name of an element that is a member. -/
def memberName? (e : Forest.Element Xml.QName) : Option Text :=
  if e.name = ⟨none, "member".toList⟩ then Member.attribute? e "name" else none

/-- The members among some elements, each as its inner markup. -/
def membersOf (elements : List (Forest.Element Xml.QName)) : List (Text × Text) :=
  elements.foldl
    (fun members e =>
      match memberName? e with
      | some name => Assoc.insertNew name (Xml.writeContent e.children) members
      | none => members)
    []

/-- The members of a document, each as its inner markup. -/
def members (document : Forest Xml.QName) : List (Text × Text) := membersOf document.descendants

/-- The failure of a document in a file. -/
def failureOf (file : List Text) (content : Bytes) : Xml.DocumentFault → Failure
  | .malformed => .malformed (Utf8.decodeLossy content) (some (Path.print file))
  | .unknownEncoding => .unknownEncoding
  | .multibyteEncoding => .multibyteEncoding
  | .noPage .damaged => .damagedPage
  | .noPage _ => .refusedByEncoding

/-- The members of a file. -/
def load (t : FileTree) (file : List Text) : Except Failure (List (Text × Text)) := do
  let content ← t.find file
  match Xml.readDocument content with
  | .ok document => .ok (members document)
  | .error fault => .error (failureOf file content fault)

end MemberFile
end DocMarkup
