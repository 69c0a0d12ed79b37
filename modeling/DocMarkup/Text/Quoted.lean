import DocMarkup.Text.Printable

/-!
# Quoted text

A text inside a written collection stands in quotes: single ones, or double ones when it holds a
single quote and no double one. The quote, the backslash and what cannot be printed are escaped.

Main definitions:

- {lit}`Text.quoted`: a text in quotes.
- {lit}`Text.quotedBytes`: a run of bytes in quotes.
-/

namespace DocMarkup
namespace Text

/-- A number in hexadecimal digits with zeros in front up to a width. -/
def hexadecimal (width n : Nat) : Text :=
  let digits := Nat.toDigits 16 n
  List.replicate (width - digits.length) '0' ++ digits

/-- The quote for a text. -/
def quoteFor (s : Text) : Char := if s.contains '\'' && !s.contains '"' then '"' else '\''

/-- The escape of a character that has one of its own. -/
def namedEscape? (quote c : Char) : Option Text :=
  if c = quote ∨ c = '\\' then some ['\\', c]
  else if c = '\n' then some ['\\', 'n']
  else if c = '\r' then some ['\\', 'r']
  else if c = '\t' then some ['\\', 't']
  else none

/-- A character inside quotes. -/
def quotedChar (quote c : Char) : Text :=
  match namedEscape? quote c with
  | some escape => escape
  | none =>
    let n := c.toNat
    if isPrintable c then [c]
    else if n < 0x100 then '\\' :: 'x' :: hexadecimal 2 n
    else if n < 0x10000 then '\\' :: 'u' :: hexadecimal 4 n
    else '\\' :: 'U' :: hexadecimal 8 n

/-- A text in quotes. -/
def quoted (s : Text) : Text :=
  let quote := quoteFor s
  quote :: s.flatMap (quotedChar quote) ++ [quote]

/-- A byte inside quotes. -/
def quotedByte (quote : Char) (b : UInt8) : Text :=
  let c := Char.ofNat b.toNat
  match namedEscape? quote c with
  | some escape => escape
  | none => if 0x20 ≤ b && b < 0x7F then [c] else '\\' :: 'x' :: hexadecimal 2 b.toNat

/-- A run of bytes in quotes, marked as such. -/
def quotedBytes (bytes : List UInt8) : Text :=
  let quote := quoteFor (bytes.map fun b => Char.ofNat b.toNat)
  'b' :: quote :: bytes.flatMap (quotedByte quote) ++ [quote]

end Text
end DocMarkup
