/-!
# Faults of bytes

Main definitions:

- {lit}`Encoding.Fault`: why some bytes are no text.
- {lit}`Encoding.orDamaged`: what is read, or damage.
-/

namespace DocMarkup
namespace Encoding

/-- Why some bytes are no text. -/
inductive Fault where
  /-- The bytes are not those of the encoding. -/
  | damaged
  /-- The byte order is known neither from the encoding nor from a mark. -/
  | orderUnknown
  /-- The bytes are refused as a whole, without a place where they are damaged. -/
  | refused
  /-- A set of characters is called for in a place where it cannot be read. -/
  | misplacedSet
  deriving DecidableEq

/-- What is read, or damage. -/
def orDamaged {α : Type} (read : Option α) : Except Fault α := read.elim (.error .damaged) .ok

end Encoding
end DocMarkup
