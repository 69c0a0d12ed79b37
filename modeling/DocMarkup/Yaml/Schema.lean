import DocMarkup.Yaml.Fault
import DocMarkup.Yaml.Spelling
import DocMarkup.Yaml.Value

/-!
# Schema

The value of a scalar of each kind.

Main definitions:

- {lit}`Yaml.intOf`, {lit}`Yaml.floatOf`, {lit}`Yaml.boolOf`, {lit}`Yaml.momentOf`,
  {lit}`Yaml.bytesOf`: the values of scalars.
-/

namespace DocMarkup
namespace Yaml

/-! ## Numbers -/

/-- The integer of a scalar. -/
def intOf (content : Text) : Except Fault Int :=
  let (negative, unsigned) := Number.cutSign (content.filter (· != '_'))
  let apply (n : Option Int) : Except Fault Int :=
    match n with
    | some n => .ok (if negative then -n else n)
    | none => .error .number
  match unsigned with
  | [] => .error .emptyNumber
  | ['0'] => .ok 0
  | '0' :: 'b' :: rest => apply (Number.integer? 2 rest)
  | '0' :: 'x' :: rest => apply (Number.integer? 16 rest)
  | '0' :: _ => apply (Number.integer? 8 unsigned)
  | _ =>
    if unsigned.contains ':' then
      apply (((cutAtColons unsigned).mapM (Number.integer? 10)).map fun parts =>
        parts.foldl (fun total part => total * 60 + part) 0)
    else apply (Number.integer? 10 unsigned)

/-- The sum of the parts of a number to the base sixty, the lowest part first. -/
def sixtieths : Int → Binary64 → List Binary64 → Except Fault Binary64
  | _, total, [] => .ok total
  | place, total, part :: parts =>
    match Binary64.ofInt place with
    | .infinite _ => .error .placeValue
    | factor => sixtieths (place * 60) (total.add (part.mul factor)) parts

/-- The floating-point number of a scalar. -/
def floatOf (content : Text) : Except Fault Binary64 :=
  let (negative, unsigned) := Number.cutSign (Text.lower (content.filter (· != '_')))
  let withSign (x : Binary64) : Binary64 := if negative then x.neg else x
  if unsigned = [] then .error (if content.all (· == '_') then .emptyNumber else .number)
  else if unsigned = ".inf".toList then .ok (.infinite negative)
  else if unsigned = ".nan".toList then .ok .nan
  else if unsigned.contains ':' then
    match (cutAtColons unsigned).mapM Number.decimal? with
    | some parts => withSign <$> sixtieths 1 (.zero false) parts.reverse
    | none => .error .number
  else (Number.decimal? unsigned).elim (.error .number) fun x => .ok (withSign x)

/-- Whether a scalar is spelled as {lit}`.nan`, which also a sign leaves as it is. -/
def isNanSpelling (content : Text) : Bool :=
  (Number.cutSign (Text.lower (content.filter (· != '_')))).2 == ".nan".toList

/-! ## Truth values and moments -/

/-- The truth value of a scalar. -/
def boolOf (content : Text) : Except Fault Bool :=
  match Assoc.get? (Text.lower content) truthWords with
  | some b => .ok b
  | none => .error .truthValue

/-- The day or moment of a scalar. -/
def momentOf (content : Text) : Except Fault Value :=
  match moment? content with
  | none => .error .moment
  | some (.day d) => if d.isValid then .ok (.date d) else .error .calendar
  | some (.time t) => if t.isValid then .ok (.datetime t) else .error .calendar

/-! ## Bytes -/

/-- The value of a character of the base-64 alphabet. -/
def base64Value? (c : Char) : Option Nat :=
  if 'A' ≤ c ∧ c ≤ 'Z' then some (c.toNat - 'A'.toNat)
  else if 'a' ≤ c ∧ c ≤ 'z' then some (c.toNat - 'a'.toNat + 26)
  else if '0' ≤ c ∧ c ≤ '9' then some (c.toNat - '0'.toNat + 52)
  else if c = '+' then some 62
  else if c = '/' then some 63
  else none

/-- The bytes of a text in base 64, from inside a group of which `place` characters have been read
and whose last bits are `left`. Characters outside the alphabet are passed over. -/
def base64 (place left pads : Nat) : Text → Except Fault (List UInt8)
  | [] => if place = 0 then .ok [] else .error .malformed
  | c :: rest =>
    if c = '=' then
      if 2 ≤ place ∧ 4 ≤ place + pads + 1 then .ok []
      else base64 place left (if 2 ≤ place then pads + 1 else pads) rest
    else
      match base64Value? c with
      | none => base64 place left pads rest
      | some v =>
        match place with
        | 0 => base64 1 v 0 rest
        | 1 => (UInt8.ofNat (left * 4 + v / 16) :: ·) <$> base64 2 (v % 16) 0 rest
        | 2 => (UInt8.ofNat (left * 16 + v / 4) :: ·) <$> base64 3 (v % 4) 0 rest
        | _ => (UInt8.ofNat (left * 64 + v) :: ·) <$> base64 0 0 0 rest

/-- The bytes of a scalar in base 64. -/
def bytesOf (content : Text) : Except Fault (List UInt8) :=
  if content.all (·.toNat < 0x80) then base64 0 0 0 content else .error .malformed

end Yaml
end DocMarkup
