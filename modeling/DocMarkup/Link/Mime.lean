import DocMarkup.Text.Lines

/-!
# MIME headers

The first line of a YAML file may declare what the file is. The declaration is cut off together with
the blank lines after it; a text without one is left as it is.

Main definitions:

- {lit}`Mime.split`: the declared type, if any, and the rest of the text.
-/

namespace DocMarkup
namespace Mime

/-- How a declaration begins. -/
def mark : Text := "### YamlMime:".toList

/-- The declared type, if any, and the rest of the text. Behind a declaration every line boundary
becomes a line feed and empty lines at the beginning are dropped. -/
def split (s : Text) : Option Text × Text :=
  match Text.allLines s with
  | [] => (none, s)
  | first :: rest =>
    match Text.after? mark first with
    | none => (none, s)
    | some mime => (some (Text.trim mime), (Text.joinLines rest).dropWhile (· == '\n'))

end Mime
end DocMarkup
