import DocMarkup.Encoding.Runs

/-!
# Code pages

A code page gives a character to each byte, or to some of them. Where it says nothing of a byte
below 0x80 the character is that of ASCII.

Main definitions:

- {lit}`Page`: the characters of the bytes.
- {lit}`Page.char?`: the character of a byte.
- {lit}`Page.decode?`: the text of some bytes.
-/

namespace DocMarkup

/-- The characters of the bytes that are not those of ASCII. -/
abbrev Page := CodeRuns

namespace Page

/-- The character of a byte. -/
def char? (p : Page) (b : UInt8) : Option Char :=
  match CodeRuns.codePoint? b.toNat p with
  | some point => CodeRuns.charOf? point
  | none => if b < 0x80 then some (Char.ofNat b.toNat) else none

/-- The text of some bytes, each of which must have a character. -/
def decode? (p : Page) (bytes : Bytes) : Option Text := bytes.mapM p.char?

/-- The page of which only ASCII remains. -/
def ascii : Page := []

/-- The page on which every byte is its own code point. -/
def latin1 : Page := [(0x80, 0x80, 0x80)]

end Page
end DocMarkup
