import DocMarkup.Text.Basic

/-!
# HTML

The rendered form of a fragment is a forest of HTML elements and runs of text, kept apart from its
spelling: every text and every attribute value is the unescaped one.

Main definitions:

- {lit}`Html`: the forest.
- {lit}`Html.escapeText`, {lit}`Html.escapeAttribute`: the two escapings.
- {lit}`Html.print`: the spelling of a forest.
-/

namespace DocMarkup

/-- How the text of a run is spelled: with its quotes as they are, or escaped as in an attribute. -/
inductive Quoting where
  | plain
  | escaped
  deriving DecidableEq

/-- Runs of text and elements, in document order. -/
inductive Html where
  | nil
  | text (quoting : Quoting) (run : Text) (rest : Html)
  | element (tag : Text) (attributes : List (Text × Text)) (children rest : Html)
  deriving DecidableEq

namespace Html

/-! ## Escapes -/

/-- A character of a run of text as spelled. -/
def escapeTextChar (c : Char) : Text :=
  if c = '&' then "&amp;".toList
  else if c = '<' then "&lt;".toList
  else if c = '>' then "&gt;".toList
  else [c]

/-- A character of an attribute value as spelled. -/
def escapeAttributeChar (c : Char) : Text :=
  if c = '"' then "&quot;".toList
  else if c = '\'' then "&#x27;".toList
  else escapeTextChar c

/-- Text as spelled between tags. -/
def escapeText (s : Text) : Text := s.flatMap escapeTextChar

/-- Text as spelled between double quotes. -/
def escapeAttribute (s : Text) : Text := s.flatMap escapeAttributeChar

/-! ## Forests -/

/-- Two forests side by side. -/
def append : Html → Html → Html
  | .nil, g => g
  | .text quoting run rest, g => .text quoting run (append rest g)
  | .element tag attributes children rest, g => .element tag attributes children (append rest g)

instance : Append Html := ⟨append⟩

/-- Forests side by side. -/
def concat (forests : List Html) : Html := forests.foldr (· ++ ·) .nil

/-- A run of text alone. -/
def run (s : Text) : Html := .text .plain s .nil

/-- An element alone. -/
def single (tag : String) (attributes : List (String × Text)) (children : Html) : Html :=
  .element tag.toList (attributes.map fun (name, value) => (name.toList, value)) children .nil

/-! ## Spelling -/

/-- Attributes as spelled in a start tag. -/
def printAttributes (attributes : List (Text × Text)) : Text :=
  attributes.flatMap fun (name, value) =>
    ' ' :: name ++ "=\"".toList ++ escapeAttribute value ++ ['"']

/-- A run of text as spelled. -/
def printRun : Quoting → Text → Text
  | .plain, run => escapeText run
  | .escaped, run => escapeAttribute run

/-- The spelling of a forest. Every element has both tags. -/
def print : Html → Text
  | .nil => []
  | .text quoting run rest => printRun quoting run ++ print rest
  | .element tag attributes children rest =>
    '<' :: tag ++ printAttributes attributes ++ '>' :: print children ++ "</".toList ++ tag ++
      '>' :: print rest

theorem print_append (f g : Html) : print (f ++ g) = print f ++ print g := by
  induction f with
  | nil => rfl
  | text quoting run rest ih =>
    show printRun quoting run ++ print (rest ++ g) = printRun quoting run ++ print rest ++ print g
    rw [ih, List.append_assoc]
  | element tag attributes children rest _ ih =>
    show '<' :: tag ++ printAttributes attributes ++ '>' :: print children ++ "</".toList ++ tag ++
      '>' :: print (rest ++ g) =
      ('<' :: tag ++ printAttributes attributes ++ '>' :: print children ++ "</".toList ++ tag ++
      '>' :: print rest) ++ print g
    rw [ih]
    simp [List.append_assoc]

end Html
end DocMarkup
