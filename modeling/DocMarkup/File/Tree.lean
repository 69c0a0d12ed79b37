import DocMarkup.Assoc
import DocMarkup.Encoding.Name
import DocMarkup.Failure
import DocMarkup.File.Path
import DocMarkup.Text.Lines

/-!
# Trees of files

The files that the library reads form a tree: contents by absolute path, and directories. Everything
above a file or a directory is a directory. In a tree there are no links, every directory may be
searched and every file read; what else may stand on a disk is told by {lit}`Disk`.

Main definitions:

- {lit}`FileTree`: files and directories.
- {lit}`FileTree.entry?`: what stands at a path.
- {lit}`FileTree.find`, {lit}`FileTree.find?`: what a path leads to.
- {lit}`FileTree.text`: the text of a file in UTF-8.
-/

namespace DocMarkup

/-- What stands at a path. -/
inductive Entry where
  | directory
  | file (content : Bytes)

/-- Files and directories by absolute path. -/
structure FileTree where
  files : List (List Text × Bytes)
  directories : List (List Text)

namespace FileTree

/-- Whether a path is a directory: the root, or one at or above which something else stands. -/
def isDirectory (t : FileTree) (path : List Text) : Bool :=
  path.isEmpty || t.directories.any path.isPrefixOf ||
    t.files.any fun file => path.isPrefixOf file.1 && file.1 != path

/-- What stands at a path without double dots. -/
def entry? (t : FileTree) (path : List Text) : Option Entry :=
  match Assoc.get? path t.files with
  | some content => some (.file content)
  | none => if t.isDirectory path then some .directory else none

/-- What a path leads to, followed component by component. Double dots lead from a directory to the
one above it; a name that is too long is refused where it is looked up. -/
def follow (t : FileTree) (here : List Text) : List Text → Except Failure Entry
  | [] => (t.entry? here).elim (.error (.fileMissing here)) .ok
  | component :: rest =>
    match t.entry? here with
    | none => .error (.fileMissing here)
    | some (.file _) => .error (.notDirectory here)
    | some .directory =>
      if Path.maxNameSize < Path.size component then .error (.nameTooLong (here ++ [component]))
      else follow t (Path.follow here component) rest

/-- What an absolute path leads to. -/
def lookup (t : FileTree) (path : List Text) : Except Failure Entry :=
  if Path.maxSize < Path.size (Path.print path) then .error (.nameTooLong path)
  else t.follow [] path

/-- The content of the file that a path leads to. -/
def find (t : FileTree) (path : List Text) : Except Failure Bytes :=
  if path.any (·.contains '\x00') then .error .nulInPath
  else
    match t.lookup path with
    | .ok (.file content) => .ok content
    | .ok .directory => .error (.isDirectory path)
    | .error e => .error e

/-- What a path leads to, or nothing. Only a path that is too long cannot be answered. -/
def find? (t : FileTree) (path : List Text) : Except Failure (Option Entry) :=
  if path.any (·.contains '\x00') then .ok none
  else
    match t.lookup path with
    | .ok e => .ok (some e)
    | .error (.nameTooLong path) => .error (.nameTooLong path)
    | .error _ => .ok none

/-- A lookup fails for a size alone. -/
theorem find?_fails {t : FileTree} {path : List Text} {failure : Failure}
    (h : t.find? path = .error failure) :
    path.any (·.contains '\x00') = false ∧ ∃ place, failure = .nameTooLong place ∧
      t.lookup path = .error (.nameTooLong place) := by
  unfold find? at h
  split at h
  · cases h
  · next hnul =>
    refine ⟨Bool.eq_false_iff.2 hnul, ?_⟩
    split at h
    · cases h
    · next place hlookup =>
      obtain rfl := Except.error.inj h
      exact ⟨place, rfl, hlookup⟩
    · cases h

/-- The text of a file in UTF-8, with line feeds for all breaks. -/
def text (t : FileTree) (path : List Text) : Except Failure Text := do
  let content ← t.find path
  match Utf8.decode? content with
  | some s => .ok (Text.unifyBreaks s)
  | none => .error (.notUtf8 path)

end FileTree
end DocMarkup
