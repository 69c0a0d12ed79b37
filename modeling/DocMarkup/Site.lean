import DocMarkup.Batch
import DocMarkup.Comment.File
import DocMarkup.File.Source
import DocMarkup.Link.Keyword
import DocMarkup.Link.Map

/-!
# Sites

The comments of a site are built from its settings and a documentation file. The settings say where
the sources of examples are, where keywords lead, and which symbols of other sites are known.

Main definitions:

- {lit}`Site`: what the settings of a site provide.
- {lit}`Site.ofSettings`: the site of some settings.
- {lit}`Site.tasks`: one task for each member.
- {lit}`Site.build`: the comments of a documentation file.
-/

namespace DocMarkup

open Yaml (Value)

/-- What the settings of a site provide. -/
structure Site where
  sources : SourceFolder
  targets : List (Text × LinkTarget)
  keywords : List (Text × Text)

namespace Site

/-- The mapping of a setting; one that is not given is empty, and nothing else will do. -/
def mapping (name : String) (settings : List (Value × Value)) :
    Except Failure (List (Value × Value)) :=
  match Config.setting? name settings with
  | none => .ok []
  | some value => value.entries?.elim (.error .settingNotMapping) .ok

/-- A setting as text, with one for the case that it is not given. -/
def textSetting (name fallback : String) (settings : List (Value × Value)) : Except Failure Text :=
  (Config.setting? name settings).elim (.ok fallback.toList) Config.textOf

/-- The sources that some settings name, whose folder is taken from a directory. -/
def sourcesOf (directory : List Text) (settings : List (Value × Value)) :
    Except Failure SourceFolder := do
  let source ← mapping "code_source" settings
  let root ← textSetting "root" "." source
  let encoding ← textSetting "encoding" "utf-8-sig" source
  SourceFolder.make directory root encoding

/-- The targets of the cross-reference map of some settings, whose path is taken from a
directory. -/
def loadTargets (t : FileTree) (directory : List Text) (settings : List (Value × Value)) :
    Recorded Failure (List (Text × LinkTarget)) :=
  match Config.setting? "xref_map" settings with
  | none => .pure []
  | some path => do
    let path ← .ofExcept (Config.textOf path)
    LinkMap.load t (Path.join directory path)

/-- The keyword links of some settings. -/
def keywordsOf (settings : List (Value × Value)) : Except Failure (List (Text × Text)) := do
  let keywords ← mapping "langword_urls" settings
  .ok (Keyword.table (← (Keyword.entriesOf keywords).mapError .yaml))

/-- The site of some settings, whose paths are taken from a directory. -/
def ofSettings (t : FileTree) (directory : List Text) (settings : List (Value × Value)) :
    Recorded Failure Site := do
  let sources ← .ofExcept (sourcesOf directory settings)
  let targets ← loadTargets t directory settings
  let keywords ← .ofExcept (keywordsOf settings)
  .pure ⟨sources, targets, keywords⟩

/-- The task of building the comment of a member's markup. -/
def task (s : Site) (t : FileTree) (raw : Text) : Recorded Failure Comment := do
  let member ← .ofOption (.malformed raw none) (Member.parse? raw)
  (member.provider raw ⟨s.targets, none, none⟩).build (some (s.sources.load t))
    (some (Keyword.link? s.keywords))

/-- One task for each member. -/
def tasks (s : Site) (t : FileTree) (members : List (Text × Text)) :
    List (Text × Recorded Failure Comment) :=
  members.map fun (name, raw) => (name, s.task t raw)

/-- The comments of the members of a documentation file, and the site. -/
def build (t : FileTree) (directory : List Text) (config : Option Text) (documentation : List Text)
    (workers : Option Int) : Recorded Failure (Site × List (Text × Comment)) := do
  let settings ← Config.load t config
  let site ← ofSettings t directory settings
  let members ← .ofExcept (MemberFile.load t documentation)
  let comments ← Batch.build (site.tasks t members) workers
  .pure (site, comments)

end Site
end DocMarkup
