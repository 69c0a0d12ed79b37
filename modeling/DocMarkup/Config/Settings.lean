import DocMarkup.Config.Merge
import DocMarkup.File.Tree
import DocMarkup.Trace
import DocMarkup.Yaml.Document

/-!
# Settings

The settings of a site are a YAML mapping laid over the default ones.

Main definitions:

- {lit}`Config.defaults`: the default settings.
- {lit}`Config.setting?`: the value of a setting.
- {lit}`Config.load`: the settings of a file.
-/

namespace DocMarkup
namespace Config

open Yaml (Value)

/-- A text as a key or a value. -/
def textValue (s : String) : Value := .str s.toList

/-- The default settings: sources beside the settings, no keyword links beside the built-in ones, no
cross-reference map. -/
def defaults : List (Value × Value) :=
  [(textValue "code_source",
     .map [(textValue "root", textValue "."), (textValue "encoding", textValue "utf-8-sig")]),
   (textValue "langword_urls", .map []),
   (textValue "xref_map", .null)]

/-- The value of a setting, unless it counts as not given. -/
def setting? (name : String) (settings : List (Value × Value)) : Option Value :=
  (Assoc.get? (textValue name) settings).bind Value.given?

/-- A value as text. -/
def textOf (v : Value) : Except Failure Text := v.written.mapError .yaml

/-- The mapping that a text is; a text that counts as nothing is the empty one. -/
def readMapping (e : Failure) (s : Text) : Except Failure (List (Value × Value)) :=
  match Yaml.read s with
  | .error fault => .error (.yaml fault)
  | .ok value =>
    match value.entries? with
    | some entries => .ok entries
    | none => if value.isTruthy then .error e else .ok []

/-- The settings of a file. Without a path, or when nothing stands there, they are the default
ones. -/
def load (t : FileTree) (path : Option Text) : Recorded Failure (List (Value × Value)) :=
  match path with
  | none | some [] => .pure defaults
  | some path => do
    let file := Path.join [] path
    match ← .ofExcept (t.find? file) with
    | none => .pure defaults
    | some _ =>
      let text ← .ofExcept (t.text file)
      let settings ← .ofExcept (readMapping (.configurationNotMapping path) text)
      .report (.configurationLoaded (Path.print file))
      .pure (merge defaults settings)

end Config
end DocMarkup
