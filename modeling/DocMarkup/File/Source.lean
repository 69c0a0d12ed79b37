import DocMarkup.File.Disk
import DocMarkup.Trace

/-!
# Sources of examples

Sources lie in one directory and are named by their paths from it, in which a backslash counts as a
slash. A path that leads out of the directory is not followed.

Main definitions:

- {lit}`SourceFolder`: the directory and the name of the encoding of its files.
- {lit}`SourceFolder.loadFrom`: the text of a source on a disk.
- {lit}`SourceFolder.load`: the text of a source in a tree of files.
- {lit}`SourceFolder.locate?`: the path of a source inside the directory, without links.
-/

namespace DocMarkup

open Encoding (Codecs Decoder Fault)

/-- The directory of the sources and the name of their encoding. -/
structure SourceFolder where
  root : List Text
  encoding : Text

namespace SourceFolder

/-- The folder at a path taken from a directory. -/
def make (directory : List Text) (path encoding : Text) : Except Failure SourceFolder :=
  if path.contains '\x00' then .error .nulInPath
  else .ok ⟨Path.resolve directory path, encoding⟩

/-! ## Encodings -/

/-- The name for the encoding of the system, which is UTF-8. -/
def systemName : Text := "locale".toList

/-- What the names of encodings stand for, that of the system among them. -/
def codecs : Codecs := fun name =>
  if name = systemName then some Encoding.utf8.decode else (Encoding.named? name).map Encoding.decode

/-- What reads the bytes of the sources. -/
def decoder (f : SourceFolder) (c : Codecs) : Except Failure Decoder :=
  if f.encoding.contains '\x00' then .error .nulInEncoding
  else (c f.encoding).elim (.error .unknownEncoding) .ok

/-- The failure that a fault of the bytes leads to. Damage leads to none. -/
def refusal? : Fault → Option Failure
  | .damaged => none
  | .orderUnknown => some .missingByteOrderMark
  | .refused => some .refusedByEncoding
  | .misplacedSet => some .misplacedSet

/-! ## Contents -/

/-- A source that cannot be read is reported. -/
def unreadable (source : Text) : Recorded Failure (Option Text) := do
  .report (.sourceUnreadable source)
  .pure none

/-- The text of some bytes of a source, with line feeds for all breaks. -/
def readBytes (decode : Decoder) (source : Text) (content : Bytes) :
    Recorded Failure (Option Text) :=
  match decode content with
  | .ok text => .pure (some (Text.unifyBreaks text))
  | .error fault => (refusal? fault).elim (unreadable source) .fail

/-- The text of the content of a source. The encoding is not looked up before the file is open. -/
def readFrom (f : SourceFolder) (c : Codecs) (source : Text) (content : Content) :
    Recorded Failure (Option Text) :=
  match f.decoder c, content with
  | .error .unknownEncoding, .closed => unreadable source
  | .error failure, _ => .fail failure
  | .ok decode, .bytes content => readBytes decode source content
  | .ok _, _ => unreadable source

/-- The text of some bytes of a source in the encoding of the folder. -/
def read (f : SourceFolder) (source : Text) (content : Bytes) : Recorded Failure (Option Text) :=
  f.readFrom codecs source (.bytes content)

/-! ## Loads -/

/-- The path of a source, if it is inside the directory and there are no links. -/
def locate? (f : SourceFolder) (source : Text) : Option (List Text) :=
  let path := Path.resolve f.root (Path.slashed source)
  if f.root.isPrefixOf path then some path else none

/-- The text of a source on a disk. One that is outside the directory, missing or unreadable is
reported; what the disk or the encoding fails with is passed on. -/
def loadFrom (f : SourceFolder) (d : Disk) (c : Codecs) (source : Text) :
    Recorded Failure (Option Text) :=
  if source.contains '\x00' then .fail .nulInPath
  else do
    let path ← .ofExcept (d.resolve f.root (Path.slashed source))
    if f.root.isPrefixOf path then
      let isFile ← .ofExcept (d.isFile path)
      if isFile then f.readFrom c source (d.content path)
      else
        .report (.sourceMissing source)
        .pure none
    else
      .report (.sourceOutside (Path.print f.root) source)
      .pure none

/-- The text of a source in a tree of files. -/
def load (f : SourceFolder) (t : FileTree) (source : Text) : Recorded Failure (Option Text) :=
  f.loadFrom t.disk codecs source

end SourceFolder
end DocMarkup
