import DocMarkup.File.Path

/-!
# Hosts in brackets

The host of an address may be a numeric one of the sixth or a later version of the protocol, in
brackets. A host must not hold characters that look like the marks around it.

Main definitions:

- {lit}`Host.isVersion6`: the numeric hosts of version 6.
- {lit}`Host.bracketed?`: the host of an authority without its brackets.
- {lit}`Host.isSound`: whether an authority that has brackets has a numeric host.
- {lit}`Host.hasLookalike`: whether an authority holds a character that stands for a mark.
-/

namespace DocMarkup
namespace Host

/-! ## Version 4 -/

/-- A number from 0 to 255 without zeros in front. -/
def isOctet (s : Text) : Bool :=
  !s.isEmpty && s.length ≤ 3 && s.all Text.isDigit && (s == ['0'] || s.head? != some '0') &&
    Text.toNat 10 Text.digitValue s ≤ 255

/-- Four numbers with dots between them. -/
def isVersion4 (s : Text) : Bool :=
  let octets := Path.cutAt '.' s
  octets.length == 4 && octets.all isOctet

/-! ## Version 6 -/

/-- One to four hexadecimal digits. -/
def isGroup (s : Text) : Bool := !s.isEmpty && s.length ≤ 4 && s.all Text.isHexDigit

/-- Whether parts cut at colons are `count` groups. -/
def areGroups (count : Nat) (parts : List Text) : Bool := parts.length == count && parts.all isGroup

/-- Whether parts cut at colons are eight groups, a run of which may be left out between two colons.
At either end such a run leaves one more part empty. -/
def areEightGroups (parts : List Text) : Bool :=
  match parts with
  | [] => false
  | first :: rest =>
    let inner := rest.dropLast
    let last := rest.getLast?.getD []
    if inner.contains [] then
      let head := first :: inner.takeWhile (· != [])
      let tail := (inner.dropWhile (· != [])).tail ++ [last]
      let head := if head == [[]] then [] else head
      let tail := if tail == [[]] then [] else tail
      head.all isGroup && tail.all isGroup && head.length + tail.length ≤ 7
    else areGroups 8 parts

/-- The parts of a host of version 6, with two groups in the place of a version 4 host at the
end. -/
def groupsOf? (s : Text) : Option (List Text) :=
  let parts := Path.cutAt ':' s
  let last := parts.getLast?.getD []
  if parts.length < 3 then none
  else if last.contains '.' then
    if isVersion4 last then some (parts.dropLast ++ [['0'], ['0']]) else none
  else some parts

/-- A host without the name of a zone behind a percent sign, which must not be empty. -/
def withoutZone? (s : Text) : Option Text :=
  match s.dropWhile (· != '%') with
  | [] => some s
  | _ :: zone => if zone.isEmpty || zone.contains '%' then none else some (s.takeWhile (· != '%'))

/-- A numeric host of version 6. -/
def isVersion6 (s : Text) : Bool :=
  !s.contains '/' && (withoutZone? s >>= groupsOf?).any areEightGroups

/-- A host of a later version: its number behind a letter, a dot, and more on one line. -/
def isLaterVersion (s : Text) : Bool :=
  match s with
  | 'v' :: rest =>
    let version := rest.takeWhile Text.isHexDigit
    match rest.dropWhile Text.isHexDigit with
    | '.' :: more => !version.isEmpty && !more.isEmpty && !more.contains '\n'
    | _ => false
  | _ => false

/-! ## Authorities -/

/-- The part of an authority behind the name of a user. -/
def withoutUser (authority : Text) : Text := (authority.reverse.takeWhile (· != '@')).reverse

/-- The host of an authority without its brackets. Nothing may stand in front of them, and behind
them only a port behind its colon. -/
def bracketed? (authority : Text) : Option Text :=
  let s := withoutUser authority
  if s.contains '[' then
    match s with
    | '[' :: rest =>
      let port := (rest.dropWhile (· != ']')).drop 1
      if port = [] ∨ port.head? = some ':' then some (rest.takeWhile (· != ']')) else none
    | _ => none
  else some (s.takeWhile (· != ':'))

/-- A numeric host of version 6 or a later one. -/
def isNumeric (host : Text) : Bool :=
  if host.head? == some 'v' then isLaterVersion host else isVersion6 host

/-- Whether an authority has no brackets at all, or a numeric host. -/
def isSound (authority : Text) : Bool :=
  match authority.contains '[', authority.contains ']' with
  | false, false => true
  | true, true => (bracketed? authority).any isNumeric
  | _, _ => false

/-- The characters whose compatibility form holds one of the marks of an address. -/
def lookalikes : List Nat :=
  [0x2047, 0x2048, 0x2049, 0x2100, 0x2101, 0x2105, 0x2106, 0x2A74, 0xFE13, 0xFE16, 0xFE55, 0xFE56,
   0xFE5F, 0xFE6B, 0xFF03, 0xFF0F, 0xFF1A, 0xFF1F, 0xFF20]

/-- Whether an authority holds a character that stands for a mark. -/
def hasLookalike (authority : Text) : Bool := authority.any fun c => lookalikes.contains c.toNat

end Host
end DocMarkup
