import DocMarkup.Url.Host

/-!
# References to addresses

The written form of an address is cut into its parts. A part that is empty counts as left out.

Main definitions:

- {lit}`Url`: the parts of an address.
- {lit}`Url.parse?`: the parts of a text.
- {lit}`Url.print`: the text of the parts.
-/

namespace DocMarkup

/-- The parts of an address. -/
structure Url where
  scheme : Text
  authority : Text
  path : Text
  parameters : Text
  query : Text
  fragment : Text
  deriving DecidableEq

namespace Url

/-! ## Schemes -/

/-- A scheme by what its addresses may have: a hierarchy to be relative in, an authority,
parameters. -/
structure SchemeTraits where
  name : String
  isHierarchical : Bool
  hasAuthority : Bool
  hasParameters : Bool

/-- The schemes that are known; no scheme is one of them. -/
def knownSchemes : List SchemeTraits :=
  [⟨"", true, true, true⟩, ⟨"ftp", true, true, true⟩, ⟨"http", true, true, true⟩,
   ⟨"gopher", true, true, false⟩, ⟨"nntp", true, true, false⟩, ⟨"imap", true, true, true⟩,
   ⟨"wais", true, true, false⟩, ⟨"file", true, true, false⟩, ⟨"https", true, true, true⟩,
   ⟨"shttp", true, true, true⟩, ⟨"mms", true, true, true⟩, ⟨"prospero", true, true, true⟩,
   ⟨"rtsp", true, true, true⟩, ⟨"rtspu", true, true, true⟩, ⟨"sftp", true, true, true⟩,
   ⟨"svn", true, true, false⟩, ⟨"svn+ssh", true, true, false⟩, ⟨"ws", true, true, false⟩,
   ⟨"wss", true, true, false⟩, ⟨"telnet", false, true, false⟩, ⟨"snews", false, true, false⟩,
   ⟨"rsync", false, true, false⟩, ⟨"nfs", false, true, false⟩, ⟨"git", false, true, false⟩,
   ⟨"git+ssh", false, true, false⟩, ⟨"hdl", false, false, true⟩, ⟨"sip", false, false, true⟩,
   ⟨"sips", false, false, true⟩, ⟨"tel", false, false, true⟩]

/-- Whether a scheme is known and has a trait. -/
def schemeHas (trait : SchemeTraits → Bool) (scheme : Text) : Bool :=
  knownSchemes.any fun s => s.name.toList == scheme && trait s

/-- A character of a scheme. -/
def isSchemeChar (c : Char) : Bool :=
  Text.isLetter c || Text.isDigit c || c == '+' || c == '-' || c == '.'

/-- The scheme in front of the first colon, in lower case, and what follows the colon. -/
def cutScheme? (s : Text) : Option (Text × Text) :=
  match s.takeWhile (· != ':'), s.dropWhile (· != ':') with
  | c :: scheme, _ :: rest =>
    if Text.isLetter c ∧ scheme.all isSchemeChar then some (Text.lower (c :: scheme), rest)
    else none
  | _, _ => none

/-! ## Reading -/

/-- What stands in front of the first occurrence of a mark and behind it; without one, all and
nothing. -/
def cutAtFirst (mark : Char) (s : Text) : Text × Text :=
  (s.takeWhile (· != mark), (s.dropWhile (· != mark)).drop 1)

/-- The authority behind two slashes, and what follows it. -/
def cutAuthority (s : Text) : Text × Text :=
  match s with
  | '/' :: '/' :: rest =>
    (rest.takeWhile fun c => !(c == '/' || c == '?' || c == '#'),
     rest.dropWhile fun c => !(c == '/' || c == '?' || c == '#'))
  | _ => ([], s)

/-- A path and the parameters behind the first semicolon of its last segment. -/
def cutParameters (path : Text) : Text × Text :=
  let name := (path.reverse.takeWhile (· != '/')).reverse
  let (name, parameters) := cutAtFirst ';' name
  ((path.reverse.dropWhile (· != '/')).reverse ++ name, parameters)

/-- The characters of an address: without blanks and controls in front, and without breaks and
tabs. -/
def significant (s : Text) : Text :=
  (s.dropWhile (·.toNat ≤ 0x20)).filter fun c => !(c == '\t' || c == '\r' || c == '\n')

/-- The parts of a text, with a scheme for those that have none. An unsound host makes it no
address. -/
def parse? (scheme s : Text) : Option Url :=
  let s := significant s
  let (scheme, rest) := (cutScheme? s).getD (scheme, s)
  let (authority, rest) := cutAuthority rest
  let (rest, fragment) := cutAtFirst '#' rest
  let (path, query) := cutAtFirst '?' rest
  let (path, parameters) :=
    if schemeHas (·.hasParameters) scheme then cutParameters path else (path, [])
  if Host.isSound authority ∧ !Host.hasLookalike authority then
    some ⟨scheme, authority, path, parameters, query, fragment⟩
  else none

/-! ## Printing -/

/-- A part with the mark in front of it, unless it is left out. -/
def printPart (mark : Char) (part : Text) : Text := if part = [] then [] else mark :: part

/-- Whether the two slashes of an authority are printed: in front of an authority, and where the
scheme has authorities, unless the path begins with two slashes itself. -/
def printsAuthority (u : Url) (path : Text) : Bool :=
  u.authority != [] ||
    (u.scheme != [] && schemeHas (·.hasAuthority) u.scheme && !(['/', '/'].isPrefixOf path))

/-- A path behind an authority, which begins with a slash. -/
def rooted (path : Text) : Text := if path = [] ∨ path.head? = some '/' then path else '/' :: path

/-- The text of the parts. -/
def print (u : Url) : Text :=
  let path := u.path ++ printPart ';' u.parameters
  (if u.scheme = [] then [] else u.scheme ++ [':']) ++
    (if u.printsAuthority path then '/' :: '/' :: u.authority ++ rooted path else path) ++
    printPart '?' u.query ++ printPart '#' u.fragment

end Url
end DocMarkup
