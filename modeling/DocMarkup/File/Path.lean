import DocMarkup.Text.Basic

/-!
# Paths

A path is written with slashes. Empty components and single dots mean nothing; double dots lead one
directory up once the path is made absolute.

Main definitions:

- {lit}`Path.components`: the components that count.
- {lit}`Path.extension`: what follows the last dot of the last component.
- {lit}`Path.slashed`: a path with slashes for its backslashes.
- {lit}`Path.resolve`: the absolute path of a path taken from a directory, without double dots.
- {lit}`Path.join`: the absolute path of a path taken from a directory, as it is written.
- {lit}`Path.print`: an absolute path as written.
- {lit}`Path.maxNameSize`, {lit}`Path.maxSize`: the limits beyond which nothing is looked up.
-/

namespace DocMarkup
namespace Path

/-- A text cut at a character. -/
def cutAt (separator : Char) : Text → List Text
  | [] => [[]]
  | c :: rest =>
    match cutAt separator rest with
    | [] => [[c]]
    | part :: parts => if c = separator then [] :: part :: parts else (c :: part) :: parts

/-- The components of a path that are neither empty nor a single dot. -/
def components (path : Text) : List Text :=
  (cutAt '/' path).filter fun part => part ≠ [] ∧ part ≠ ['.']

/-- What follows the last dot of a file name; nothing when that dot begins or ends the name. -/
def extensionOfName (name : Text) : Text :=
  let extension := (name.reverse.takeWhile (· != '.')).reverse
  if extension.length + 1 < name.length then extension else []

/-- The extension of the file that a path names. -/
def extension (path : Text) : Text := ((components path).getLast?.map extensionOfName).getD []

/-- A path with slashes for its backslashes. -/
def slashed (path : Text) : Text := path.map fun c => if c = '\\' then '/' else c

/-- Whether a path begins at the root. -/
def isAbsolute (path : Text) : Bool := path.head? == some '/'

/-- One component followed from an absolute path; at the root, double dots stay there. -/
def follow (path : List Text) (component : Text) : List Text :=
  if component = "..".toList then path.dropLast else path ++ [component]

/-- The absolute path of a path taken from a directory; an absolute path ignores the directory. -/
def resolve (directory : List Text) (path : Text) : List Text :=
  (components path).foldl follow (if isAbsolute path then [] else directory)

/-- The absolute path of a path taken from a directory, with its double dots. -/
def join (directory : List Text) (path : Text) : List Text :=
  (if isAbsolute path then [] else directory) ++ components path

/-- An absolute path as written. -/
def print (path : List Text) : Text := '/' :: ['/'].intercalate path

/-! ## Sizes -/

/-- How many bytes a text takes in UTF-8. -/
def size (s : Text) : Nat := s.foldr (fun c n => c.utf8Size + n) 0

/-- The greatest size of one component. -/
def maxNameSize : Nat := 255

/-- The greatest size of a path as written. -/
def maxSize : Nat := 4095

end Path
end DocMarkup
