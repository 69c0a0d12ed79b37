/-!
# Faults of YAML documents

Main definitions:

- {lit}`Yaml.Fault`: why a text stands for no value.
-/

namespace DocMarkup
namespace Yaml

/-- Why a text stands for no value. -/
inductive Fault where
  /-- The text is no YAML document, or uses a tag or a key that stands for nothing. -/
  | malformed
  /-- An escaped code point beyond the last one. -/
  | codePoint
  /-- An escaped code point that takes more than 31 bits. -/
  | wideCodePoint
  /-- A scalar tagged as a number that is none. -/
  | number
  /-- A scalar tagged as a number that is empty. -/
  | emptyNumber
  /-- A number to the base sixty whose first place is worth more than double precision holds. -/
  | placeValue
  /-- A scalar tagged as a truth value that is none. -/
  | truthValue
  /-- A scalar tagged as a moment that is not written as one. -/
  | moment
  /-- A collection tagged as a moment. -/
  | momentCollection
  /-- A day or a moment that does not exist. -/
  | calendar
  /-- A mapping that stands for the value of its key {lit}`=`, which is the mapping again. -/
  | endless
  /-- An integer with too many digits to be written. -/
  | longInteger
  deriving DecidableEq

end Yaml
end DocMarkup
