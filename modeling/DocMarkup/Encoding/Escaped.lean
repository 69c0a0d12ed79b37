import DocMarkup.Encoding.Runs

/-!
# Escaped characters

Bytes stand for the characters with their code points, and a backslash begins an escape for another
one. Two kinds of escapes are left out and count as damaged: those that name a character, because that
takes a register of names, and those for a lone surrogate, because no text holds one.

Main definitions:

- {lit}`Escaped.decode?`: the text of some bytes with the escapes of string literals.
- {lit}`Escaped.decodeRaw?`: the text of some bytes with escapes for code points only.
-/

namespace DocMarkup
namespace Escaped

/-- The backslash. -/
def backslash : UInt8 := 0x5C

/-- The character with the code point of a byte. -/
def charOf (b : UInt8) : Char := Char.ofNat b.toNat

/-- The character whose code point a number of hexadecimal digits give, and what follows them. -/
def codePoint? (width : Nat) (bytes : Bytes) : Option (Char × Bytes) :=
  let digits := (bytes.take width).map charOf
  if digits.length = width ∧ digits.all Text.isHexDigit then
    (CodeRuns.charOf? (Text.toNat 16 Text.digitValue digits)).map fun c => (c, bytes.drop width)
  else none

/-- Whether a byte is an octal digit. -/
def isOctal (b : UInt8) : Bool := 0x30 ≤ b && b ≤ 0x37

/-- The characters of an escape, given the byte behind the backslash, and what follows it. An
unknown escape stands for itself. -/
def escape? (b : UInt8) (bytes : Bytes) : Option (Text × Bytes) :=
  match charOf b with
  | '\n' => some ([], bytes)
  | '\\' | '\'' | '"' => some ([charOf b], bytes)
  | 'a' => some (['\x07'], bytes)
  | 'b' => some (['\x08'], bytes)
  | 't' => some (['\t'], bytes)
  | 'n' => some (['\n'], bytes)
  | 'v' => some (['\x0b'], bytes)
  | 'f' => some (['\x0c'], bytes)
  | 'r' => some (['\r'], bytes)
  | 'x' => one (codePoint? 2 bytes)
  | 'u' => one (codePoint? 4 bytes)
  | 'U' => one (codePoint? 8 bytes)
  | 'N' => none
  | c =>
    if isOctal b then
      let digits := b :: (bytes.take 2).takeWhile isOctal
      some ([Char.ofNat (Text.toNat 8 Text.digitValue (digits.map charOf))],
        bytes.drop (digits.length - 1))
    else some (['\\', c], bytes)
where
  /-- A single character as a text. -/
  one (read : Option (Char × Bytes)) : Option (Text × Bytes) :=
    read.map fun (c, rest) => ([c], rest)

/-- The characters of an escape for a code point, given the byte behind the backslash, and what
follows it. Every other byte stands for itself, and so does the backslash. -/
def rawEscape? (b : UInt8) (bytes : Bytes) : Option (Text × Bytes) :=
  match charOf b with
  | 'u' => (codePoint? 4 bytes).map fun (c, rest) => ([c], rest)
  | 'U' => (codePoint? 8 bytes).map fun (c, rest) => ([c], rest)
  | c => some (['\\', c], bytes)

/-- The text of some bytes, for at most `fuel` characters and escapes, given how a backslash at the
end and an escape are read. -/
def decodeUpTo (atEnd : Option Text) (read : UInt8 → Bytes → Option (Text × Bytes)) :
    Nat → Bytes → Option Text
  | 0, _ => some []
  | _ + 1, [] => some []
  | fuel + 1, b :: bytes =>
    if b ≠ backslash then (charOf b :: ·) <$> decodeUpTo atEnd read fuel bytes
    else
      match bytes with
      | [] => atEnd
      | c :: bytes => do
        let (text, rest) ← read c bytes
        (text ++ ·) <$> decodeUpTo atEnd read fuel rest

/-- The text of some bytes with the escapes of string literals. -/
def decode? (bytes : Bytes) : Option Text := decodeUpTo none escape? bytes.length bytes

/-- The text of some bytes with escapes for code points only. -/
def decodeRaw? (bytes : Bytes) : Option Text :=
  decodeUpTo (some ['\\']) rawEscape? bytes.length bytes

end Escaped
end DocMarkup
