import DocMarkup.Config.Settings
import DocMarkup.Link.Mime
import DocMarkup.Link.Target
import DocMarkup.Url.Join

/-!
# Cross-reference maps

A cross-reference map is a YAML file that lists symbols of other sites: a uid, a name and the
address of a page, which may be relative to a base that the map gives. How an address is taken from a
base is left open until a file is loaded.

Main definitions:

- {lit}`LinkMap.targetOf`: the uid and the target of an entry.
- {lit}`LinkMap.ofMapping`: the targets that a map lists.
- {lit}`LinkMap.load`: the targets of a file.
-/

namespace DocMarkup
namespace LinkMap

open Yaml (Value)

/-- The type that a map may declare. -/
def mime : Text := "XRefMap".toList

/-- The field of an entry, unless it counts as not given. -/
def field? (name : String) (entry : List (Value × Value)) : Option Value :=
  Config.setting? name entry

variable (join? : Text → Text → Option Text)

/-- An address taken from a base, if there is one. -/
def addressOf (base : Option Value) (href : Value) : Except Failure Text := do
  let href ← Config.textOf href
  match base with
  | none => .ok href
  | some base => (join? (← Config.textOf base) href).elim (.error .brokenAddress) .ok

/-- The uid and the target of an entry; one that is no mapping or has no uid is passed over. A
symbol without a name is shown by its uid. -/
def targetOf (base : Option Value) (entry : Value) :
    Except Failure (Option (Text × LinkTarget)) := do
  let fields := entry.entries?.getD []
  match field? "uid" fields with
  | none => .ok none
  | some uid =>
    let title := ((field? "name" fields).or (field? "fullName" fields)).getD uid
    let uid ← Config.textOf uid
    let href ← match field? "href" fields with
      | none => .ok []
      | some href => addressOf join? base href
    let title ← Config.textOf title
    .ok (some (uid, ⟨title, if href = [] then none else some href⟩))

/-- The entries of a list of references. Only a list can have any; a single number, truth value, day
or moment is refused. -/
def entriesOf : Option Value → Except Failure (List Value)
  | none => .ok []
  | some (.bool _) | some (.int _) | some (.float _) | some (.date _) | some (.datetime _) =>
    .error .referencesNotList
  | some references => .ok (references.items?.getD [])

/-- The targets that a map lists; of several of one uid the last counts, at the place of the
first. -/
def ofMapping (map : List (Value × Value)) : Except Failure (List (Text × LinkTarget)) := do
  let entries ← entriesOf (field? "references" map)
  let targets ← entries.mapM (targetOf join? (field? "baseUrl" map))
  .ok (Assoc.ofList (targets.filterMap id))

/-- The targets of a file. -/
def load (t : FileTree) (file : List Text) : Recorded Failure (List (Text × LinkTarget)) := do
  let text ← .ofExcept (t.text file)
  let (declared, rest) := Mime.split text
  let path := Path.print file
  match declared with
  | some other => if other = mime then .pure () else .report (.unexpectedMime path other mime)
  | none => .pure ()
  let map ← .ofExcept (Config.readMapping (.referencesNotMapping path) rest)
  .ofExcept (ofMapping Url.join? map)

end LinkMap
end DocMarkup
