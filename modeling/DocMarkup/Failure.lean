import DocMarkup.Text.Basic
import DocMarkup.Yaml.Fault

/-!
# Failures

Everything that can stop the library, by its cause.

Main definitions:

- {lit}`Failure`: the causes.
- {lit}`Failure.message?`: the wording of those that have one of their own.
-/

namespace DocMarkup

/-- Why the work could not be done. -/
inductive Failure where
  /-- Markup that is not well formed, with the documentation file it came from, if any. -/
  | malformed (raw : Text) (file : Option Text)
  /-- A configuration file whose content is no mapping. -/
  | configurationNotMapping (path : Text)
  /-- A cross-reference map whose content is no mapping. -/
  | referencesNotMapping (path : Text)
  /-- A text that stands for no YAML value. -/
  | yaml (fault : Yaml.Fault)
  /-- A list of references that is a single number or truth value. -/
  | referencesNotList
  /-- A setting that must be a mapping. -/
  | settingNotMapping
  /-- A relative address joined to a base with a broken host. -/
  | brokenAddress
  /-- A path that holds the character NUL. -/
  | nulInPath
  | fileMissing (path : List Text)
  | isDirectory (path : List Text)
  /-- A path that leads through a file. -/
  | notDirectory (path : List Text)
  /-- A path, or a name in it, that is too long to be looked up. -/
  | nameTooLong (path : List Text)
  | notUtf8 (path : List Text)
  /-- A source whose encoding needs a byte order mark that the file does not begin with. -/
  | missingByteOrderMark
  /-- Bytes that an encoding refuses as a whole. -/
  | refusedByEncoding
  /-- An encoding of a documentation file in which not every byte is a character or none. -/
  | damagedPage
  /-- A source that calls for a set of characters where its encoding cannot read it. -/
  | misplacedSet
  /-- The name of an encoding that holds the character NUL. -/
  | nulInEncoding
  | unknownEncoding
  /-- An encoding of a documentation file in which a character may take several bytes. -/
  | multibyteEncoding
  /-- A batch without a worker. -/
  | noWorkers
  deriving DecidableEq

namespace Failure

/-- The wording of a failure that names its markup or its file. The reader's own reason for refusing
the markup is left open. -/
def message? : Failure → Option Text
  | malformed _ none => some "Malformed documentation comment: ".toList
  | malformed _ (some file) =>
    some ("Malformed documentation comment: ".toList ++ file ++ ": ".toList)
  | configurationNotMapping path => some ("Configuration is not a mapping: ".toList ++ path)
  | referencesNotMapping path => some ("xrefmap is not a mapping: ".toList ++ path)
  | _ => none

end Failure
end DocMarkup
