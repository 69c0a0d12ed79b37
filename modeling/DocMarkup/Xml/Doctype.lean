import DocMarkup.Xml.Doctype.Token
import DocMarkup.Xml.Event

/-!
# Document types

A document type declares entities and attributes of elements. Other declarations are only checked.
Declarations outside the document are never read; where the document refers to some, the ones behind
the reference count only if the document says that it stands alone.

Main definitions:

- {lit}`Xml.replacement?`: the replacement text of an entity, from its literal.
- {lit}`Xml.Doctype`: what has been declared so far.
- {lit}`Xml.Doctype.read?`: the declarations of a document type, and what follows it.
-/

namespace DocMarkup
namespace Xml

/-! ## Literals -/

mutual

/-- The replacement text of an entity, from its literal. References to characters are replaced,
those to entities stay; parameter entities must not be referred to. -/
def replacement? (rule : CharRule) : Text → Option Text
  | [] => some []
  | '%' :: _ => none
  | '&' :: rest => replacementReference? rule [] rest
  | '\r' :: '\n' :: rest => ('\n' :: ·) <$> replacement? rule rest
  | c :: rest => ((if c = '\r' then '\n' else c) :: ·) <$> replacement? rule rest

/-- The replacement text from inside a reference whose body began with `body`. -/
def replacementReference? (rule : CharRule) (body : Text) : Text → Option Text
  | [] => none
  | ';' :: rest =>
    match body with
    | '#' :: _ =>
      match reference? rule body with
      | some (.char c) => (c :: ·) <$> replacement? rule rest
      | _ => none
    | _ =>
      if isPlainName rule body then ('&' :: body ++ ';' :: ·) <$> replacement? rule rest else none
  | c :: rest => replacementReference? rule (body ++ [c]) rest

end

/-- Whether no piece of a literal behind the first one looks like a reference. Pieces take as many
whole characters as `size` bytes hold; `room` of these are left. -/
def arePiecesPlain (size : Nat) : (room : Nat) → Text → Bool
  | _, [] => true
  | room, c :: rest =>
    if c.utf8Size ≤ room then arePiecesPlain size (room - c.utf8Size) rest
    else c != '&' && arePiecesPlain size (size - c.utf8Size) rest

/-- A character of a public identifier. -/
def isPublicIdChar (c : Char) : Bool :=
  Text.isLetter c || Text.isDigit c || " \r\n-'()+,./:=?;!*#@$_%".toList.contains c

/-- The rest of the tokens behind an external identifier; a public one may come without a system
one. -/
def externalId? (systemIsOptional : Bool) : List DeclarationToken → Option (List DeclarationToken)
  | .name .plain keyword false :: .literal id :: rest =>
    if keyword = "SYSTEM".toList then some rest
    else if keyword = "PUBLIC".toList ∧ id.all isPublicIdChar then
      match rest with
      | .literal _ :: rest => some rest
      | _ => if systemIsOptional then some rest else none
    else none
  | _ => none

/-! ## Content models -/

/-- Whether tokens are names between bars, up to a repeated group's end. -/
def areChoices : List DeclarationToken → Bool
  | [.closeGroup repetition] => repetition == some '*'
  | .choice :: .name form _ false :: rest => form != .token && areChoices rest
  | _ => false

/-- Whether tokens are the rest of a model of elements, inside groups whose connectors, as far as
they are known, are `groups`; an item is expected next, or has just ended. -/
def isModel : List (Option DeclarationToken) → Bool → List DeclarationToken → Bool
  | groups, true, .openGroup :: rest => isModel (none :: groups) true rest
  | groups, true, .name form _ _ :: rest => form != .token && isModel groups false rest
  | _ :: groups, false, .closeGroup _ :: rest =>
    if groups.isEmpty then rest.isEmpty else isModel groups false rest
  | group :: groups, false, connector :: rest =>
    (connector == .choice || connector == .sequence) &&
      (group == none || group == some connector) &&
      isModel (some connector :: groups) true rest
  | _, _, _ => false

/-- Whether tokens declare an element type. -/
def isElementDeclaration : List DeclarationToken → Bool
  | [.name form _ false, .name .plain keyword false] =>
    form != .token && (keyword == "EMPTY".toList || keyword == "ANY".toList)
  | .name form _ false :: .openGroup :: .pound keyword :: rest =>
    form != .token && keyword == "PCDATA".toList &&
      (rest == [.closeGroup none] || areChoices rest)
  | .name form _ false :: .openGroup :: rest => form != .token && isModel [none] true rest
  | _ => false

/-- Whether tokens declare a notation. -/
def isNotationDeclaration : List DeclarationToken → Bool
  | .name .plain _ false :: rest => externalId? true rest == some []
  | _ => false

/-! ## Entities -/

/-- A declared entity: its name, unless it is a parameter entity, and its replacement, unless it is
external or no text. -/
structure EntityDeclaration where
  name : Option Text
  literal : Option Text

/-- The entity that tokens declare. -/
def entityDeclaration? : List DeclarationToken → Option EntityDeclaration
  | [.name .plain name false, .literal value] => some ⟨some name, some value⟩
  | .name .plain name false :: rest =>
    match externalId? false rest with
    | some [] => some ⟨some name, none⟩
    | some [.name .plain keyword false, .name .plain _ false] =>
      if keyword = "NDATA".toList then some ⟨some name, none⟩ else none
    | _ => none
  | [.percent, .name .plain _ false, .literal value] => some ⟨none, some value⟩
  | .percent :: .name .plain _ false :: rest =>
    if externalId? false rest = some [] then some ⟨none, none⟩ else none
  | _ => none

/-! ## Attributes -/

/-- The tokens behind a run of names between bars and the end of its group. -/
def afterChoices? (allowed : NameForm → Bool) :
    List DeclarationToken → Option (List DeclarationToken)
  | .name form _ false :: .closeGroup none :: rest => if allowed form then some rest else none
  | .name form _ false :: .choice :: rest =>
    if allowed form then afterChoices? allowed rest else none
  | _ => none

/-- The types of attributes by keyword; all but the first are lists of tokens. -/
def attributeTypes : List Text :=
  ["CDATA", "ID", "IDREF", "IDREFS", "ENTITY", "ENTITIES", "NMTOKEN", "NMTOKENS"].map String.toList

/-- The keyword of an attribute's type, if it has one, and the tokens behind the type. -/
def attributeType? : List DeclarationToken → Option (Option Text × List DeclarationToken)
  | .openGroup :: rest => (fun rest => (none, rest)) <$> afterChoices? (fun _ => true) rest
  | .name .plain keyword false :: rest =>
    if attributeTypes.contains keyword then some (some keyword, rest)
    else if keyword = "NOTATION".toList then
      match rest with
      | .openGroup :: rest => (fun rest => (none, rest)) <$> afterChoices? (· == .plain) rest
      | _ => none
    else none
  | _ => none

/-- The default value of an attribute, if it has one, and the tokens behind it. -/
def attributeDefault? : List DeclarationToken → Option (Option Text × List DeclarationToken)
  | .literal value :: rest => some (some value, rest)
  | .pound keyword :: rest =>
    if keyword = "IMPLIED".toList ∨ keyword = "REQUIRED".toList then some (none, rest)
    else if keyword = "FIXED".toList then
      match rest with
      | .literal value :: rest => some (some value, rest)
      | _ => none
    else none
  | _ => none

/-- A declared attribute: its name, the keyword of its type, its default value as written. -/
structure AttributeDeclaration where
  name : Text
  type : Option Text
  default? : Option Text

/-- The attributes that at most `fuel` tokens declare. -/
def attributeDeclarations? : Nat → List DeclarationToken → Option (List AttributeDeclaration)
  | _, [] => some []
  | fuel + 1, .name form name false :: rest =>
    if form = .token then none
    else do
      let (type, rest) ← attributeType? rest
      let (value, rest) ← attributeDefault? rest
      (⟨name, type, value⟩ :: ·) <$> attributeDeclarations? fuel rest
  | _, _ => none

/-! ## Declarations -/

/-- What has been declared so far, whether the document stands alone, and whether declarations still
count. Where there is a size of pieces, literals are handed on in pieces of at most so many
bytes. -/
structure Doctype where
  declarations : Declarations
  standsAlone : Bool
  isCounting : Bool
  pieceSize : Option Nat

namespace Doctype

/-- Before the first declaration. -/
def initial (pieceSize : Option Nat) (standsAlone : Bool) : Doctype :=
  ⟨.none, standsAlone, true, pieceSize⟩

/-- The document refers to declarations outside it. -/
def referOutside (d : Doctype) : Doctype :=
  { d with declarations := { d.declarations with incomplete := !d.standsAlone } }

/-- The declarations with one more entity. The first one of a name counts, and the five predefined
ones cannot be declared anew. -/
def addEntity? (rule : CharRule) (d : Doctype) (e : EntityDeclaration) : Option Doctype := do
  let replacement ← match e.literal with
    | none => some none
    | some literal => some <$> replacement? rule literal
  match e.name with
  | none => some d
  | some name =>
    if (Assoc.get? name predefined).isSome then some d
    else
      some { d with declarations := { d.declarations with
        entities := Assoc.insertNew name replacement d.declarations.entities } }

/-- The rules of an element with one more. One with a default, or for an identifier, counts only if
the attribute has no rule yet. -/
def addRule (rules : List AttributeRule) (rule : AttributeRule) (isId : Bool) :
    List AttributeRule :=
  if (rule.default?.isSome || isId) && rules.any (·.name = rule.name) then rules
  else rules ++ [rule]

/-- The declarations with one more attribute of an element. The default value is found from the
entities declared before it. -/
def addAttribute? (rule : CharRule) (element : Text) (d : Doctype) (a : AttributeDeclaration) :
    Option Doctype := do
  let isTokenized := a.type != some "CDATA".toList
  let value ← match a.default? with
    | none => some none
    | some literal => do
      let value ← valuePieces? rule literal >>= d.declarations.value?
      some (some (if isTokenized then Declarations.tokenList value else value))
  let rules := (Assoc.get? element d.declarations.attributeRules).getD []
  let rules := addRule rules ⟨a.name, isTokenized, value⟩
    (a.type == some "ID".toList && a.default?.isNone)
  some { d with declarations := { d.declarations with
    attributeRules := Assoc.insert element rules d.declarations.attributeRules } }

/-- Whether a token can be handed on. -/
def accepts (d : Doctype) (token : DeclarationToken) : Bool :=
  match d.pieceSize, token with
  | some size, .literal s => arePiecesPlain size (size - 1) s
  | _, _ => true

/-- The declarations with those of one declaration, given by its keyword and its tokens. -/
def declare? (rule : CharRule) (d : Doctype) (keyword : Text) (tokens : List DeclarationToken) :
    Option Doctype :=
  if keyword = "ENTITY".toList then do
    let e ← entityDeclaration? tokens
    if d.isCounting then d.addEntity? rule e else some d
  else if keyword = "ATTLIST".toList then
    match tokens with
    | .name form element false :: rest =>
      if form = .token then none
      else do
        let attributes ← attributeDeclarations? rest.length rest
        if d.isCounting then attributes.foldlM (addAttribute? rule element) d else some d
    | _ => none
  else if keyword = "ELEMENT".toList then
    if isElementDeclaration tokens then some d else none
  else if keyword = "NOTATION".toList then
    if isNotationDeclaration tokens then some d else none
  else none

/-- What follows a reference to a parameter entity, given what follows its percent sign. -/
def afterParameterReference? (rule : CharRule) (s : Text) : Option Text := do
  let (_, rest) ← plainName? rule s
  match rest with
  | ';' :: rest => some rest
  | _ => none

/-- The declarations of a subset up to its closing bracket, and what follows it, for a text of at
most `fuel` constructs. -/
def readSubset? (rule : CharRule) : Nat → Doctype → Text → Option (Doctype × Text)
  | 0, _, _ => none
  | fuel + 1, d, s =>
    match s.dropWhile isSpace with
    | ']' :: rest => some (d, rest)
    | '%' :: rest => do
      let rest ← afterParameterReference? rule rest
      readSubset? rule fuel { d.referOutside with isCounting := d.standsAlone } rest
    | '<' :: '?' :: rest => afterInstruction? rule rest >>= readSubset? rule fuel d
    | '<' :: '!' :: '-' :: '-' :: rest => afterComment? rest >>= readSubset? rule fuel d
    | '<' :: '!' :: rest => do
      let (tokens, last, after) ← declarationTokens? rule (rest.dropWhile Text.isLetter)
      if last = .close ∧ tokens.all d.accepts then
        let d ← d.declare? rule (rest.takeWhile Text.isLetter) tokens
        readSubset? rule fuel d after
      else none
    | _ => none

/-- The declarations of a document type, and what follows it, given what follows its keyword. -/
def read? (rule : CharRule) (pieceSize : Option Nat) (standsAlone : Bool) (s : Text) :
    Option (Declarations × Text) := do
  let (tokens, last, rest) ← declarationTokens? rule s
  let start := initial pieceSize standsAlone
  let d ← match tokens with
    | [.name form _ false] => if form = .token then none else some start
    | .name form _ false :: id =>
      if form ≠ .token ∧ externalId? false id = some [] then some start.referOutside else none
    | _ => none
  if last = .close then some (d.declarations, rest)
  else
    let (d, rest) ← readSubset? rule rest.length d rest
    match rest.dropWhile isSpace with
    | '>' :: rest => some (d.declarations, rest)
    | _ => none

end Doctype
end Xml
end DocMarkup
