import DocMarkup.Assoc
import DocMarkup.Text.Basic

/-!
# Forests of markup

A forest is what stands between two tags: runs of text and elements, in document order. The type
is one inductive family with the siblings as its last argument, so that functions on markup are
structural recursions. Names are a parameter: raw names with a colon, expanded names, or local
names.

Main definitions:

- {lit}`Forest.append`: two forests side by side.
- {lit}`Forest.consChar`: a character in front, merged into a run of text that begins there.
- {lit}`Forest.elements`: the elements of the outermost level.
-/

namespace DocMarkup

/-- Runs of text and elements, in document order. -/
inductive Forest (ν : Type) where
  | nil
  | text (run : Text) (rest : Forest ν)
  | element (name : ν) (attributes : List (ν × Text)) (children rest : Forest ν)
  deriving DecidableEq, Inhabited

namespace Forest

variable {ν : Type}

/-- Two forests side by side; runs of text that meet stay apart. -/
def append : Forest ν → Forest ν → Forest ν
  | .nil, g => g
  | .text run rest, g => .text run (append rest g)
  | .element name attributes children rest, g =>
    .element name attributes children (append rest g)

instance : Append (Forest ν) := ⟨append⟩

/-- Whether a forest has no node. -/
def isEmpty : Forest ν → Bool
  | .nil => true
  | _ => false

/-- A character in front of a forest, merged into the run of text that it begins with. -/
def consChar (c : Char) : Forest ν → Forest ν
  | .text run rest => .text (c :: run) rest
  | f => .text [c] f

/-- A run of characters in front of a forest; no character adds no node. -/
def consChars (run : Text) (f : Forest ν) : Forest ν := run.foldr consChar f

/-- An element apart from its siblings. -/
structure Element (ν : Type) where
  name : ν
  attributes : List (ν × Text)
  children : Forest ν

/-- The elements of the outermost level, in order. -/
def elements : Forest ν → List (Element ν)
  | .nil => []
  | .text _ rest => elements rest
  | .element name attributes children rest => ⟨name, attributes, children⟩ :: elements rest

/-- Every element of the forest, an element before its descendants. -/
def descendants : Forest ν → List (Element ν)
  | .nil => []
  | .text _ rest => descendants rest
  | .element name attributes children rest =>
    ⟨name, attributes, children⟩ :: (descendants children ++ descendants rest)

/-- The run of text that stands in front of the first element. -/
def leadingText : Forest ν → Text
  | .text run rest => run ++ leadingText rest
  | _ => []

end Forest
end DocMarkup
