import DocMarkup.File.Tree

/-!
# Disks

What is found at a path is up to the system that keeps the files. Links lead elsewhere or in circles,
a directory may not be searched, a file may not be opened, a device may break down: whatever stands
on a disk, it shows in what the system answers about paths.

Main definitions:

- {lit}`Content`: what is found when a file is read.
- {lit}`Disk`: what a system answers about paths.
- {lit}`FileTree.disk`: the answers about files that can be read, in directories without links.
-/

namespace DocMarkup

/-- What is found when a file is read. -/
inductive Content where
  /-- The file cannot be opened. -/
  | closed
  /-- The file is opened, but its bytes cannot be read. -/
  | broken
  | bytes (content : Bytes)

/-- What a system answers about paths. The failures stand for its own errors, whatever these are; none
is the one of a malformed comment. -/
structure Disk where
  /-- Where a path taken from a directory leads, without links and double dots. In a circle of links
  there is no answer. -/
  resolve : List Text → Text → Except Failure (List Text)
  /-- Whether a path leads to a file. In a directory that may not be searched there is no answer. -/
  isFile : List Text → Except Failure Bool
  /-- What is found when the file at a path is read. -/
  content : List Text → Content
  resolve_fails : ∀ {directory path failure}, resolve directory path = .error failure →
    ∀ raw file, failure ≠ .malformed raw file
  isFile_fails : ∀ {path failure}, isFile path = .error failure →
    ∀ raw file, failure ≠ .malformed raw file

namespace FileTree

/-- Whether a path leads to a file. -/
def isFile (t : FileTree) (path : List Text) : Except Failure Bool :=
  (t.find? path).map fun
    | some (.file _) => true
    | _ => false

/-- What is found when the file at a path is read. -/
def content (t : FileTree) (path : List Text) : Content :=
  match t.find? path with
  | .ok (some (.file content)) => .bytes content
  | _ => .closed

variable {t : FileTree} {path : List Text} {content : Bytes} {failure : Failure}

/-- A path leads to a file when one is found there. -/
theorem isFile_of_file (h : t.find? path = .ok (some (.file content))) :
    t.isFile path = .ok true := by
  rw [isFile, h]
  rfl

/-- A path leads to no file when none is found there. -/
theorem isFile_of_not_file {e? : Option Entry} (h : t.find? path = .ok e?)
    (hfile : ∀ content, e? ≠ some (.file content)) : t.isFile path = .ok false := by
  rw [isFile, h]
  rcases e? with _ | _ | content
  · rfl
  · rfl
  · exact absurd rfl (hfile content)

/-- Whether a path leads to a file has no answer when nothing can be looked up there. -/
theorem isFile_eq_error_iff : t.isFile path = .error failure ↔ t.find? path = .error failure := by
  unfold isFile
  cases t.find? path with
  | error other => simp [Except.map]
  | ok e? => simp [Except.map]

/-- Bytes are found where a file stands, and nowhere else. -/
theorem content_eq_bytes_iff :
    t.content path = .bytes content ↔ t.find? path = .ok (some (.file content)) := by
  unfold FileTree.content
  rcases t.find? path with failure | _ | _ | other <;> simp

/-- The answers about a tree of files. -/
def disk (t : FileTree) : Disk where
  resolve directory path := .ok (Path.resolve directory path)
  isFile := t.isFile
  content := t.content
  resolve_fails h := by cases h
  isFile_fails h := by
    rcases find?_fails (isFile_eq_error_iff.1 h) with ⟨_, place, rfl, _⟩
    simp

end FileTree
end DocMarkup
