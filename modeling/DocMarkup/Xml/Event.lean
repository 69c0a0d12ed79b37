import DocMarkup.Xml.Token

/-!
# Events and declared entities

Tokens become events once their entity references are replaced. A document type may declare
entities and attribute rules; content on its own declares nothing, so there every reference to an
entity that is not predefined is an error. A replacement text is read by a rule of its own, which
leaves its carriage returns as they are.

Main definitions:

- {lit}`Xml.Event`: text, the start of an element, its end.
- {lit}`Xml.Declarations`: declared entities and attribute rules.
- {lit}`Xml.Declarations.value?`: an attribute value with its entities replaced.
- {lit}`Xml.Declarations.events?`: the events of a run of tokens.
-/

namespace DocMarkup
namespace Xml

/-- A run of text, or one end of an element. -/
inductive Event where
  | text (run : Text)
  | startTag (name : Text) (attributes : List (Text × Text))
  | endTag (name : Text)
  deriving DecidableEq

/-- What is declared for an attribute of an element type. -/
structure AttributeRule where
  name : Text
  tokenized : Bool
  default? : Option Text

/-- What a document type declares. An entity without a replacement is external or no text. When part
of the declarations is out of reach, a value may refer to an unknown entity, which then adds
nothing. -/
structure Declarations where
  entities : List (Text × Option Text)
  attributeRules : List (Text × List AttributeRule)
  incomplete : Bool

/-- Nothing is declared. -/
def Declarations.none : Declarations := ⟨[], [], false⟩

namespace Declarations

/-! ## Attribute values -/

/-- The text of a piece of an attribute value, inside the replacements of the entities in
`within`. -/
def pieceText? (d : Declarations) : Nat → List Text → Piece → Option Text
  | _, _, .char c => some [c]
  | 0, _, .entity _ => .none
  | fuel + 1, within, .entity name =>
    if within.contains name then .none
    else match Assoc.get? name d.entities with
      | .none => if d.incomplete then some [] else .none
      | some .none => .none
      | some (some replacement) => do
        let pieces ← valuePieces? .replacement replacement
        let texts ← pieces.mapM (pieceText? d fuel (name :: within))
        some texts.flatten

/-- An attribute value with its entities replaced. Replacements nest no deeper than there are
entities, because none may contain itself. -/
def value? (d : Declarations) (pieces : List Piece) : Option Text :=
  (pieces.mapM (pieceText? d (d.entities.length + 1) [])).map List.flatten

/-- A text without spaces at its ends and with single spaces inside. -/
def squeeze : Text → Text
  | [] => []
  | ' ' :: rest =>
    match squeeze rest with
    | [] => []
    | c :: more => if c = ' ' then c :: more else ' ' :: c :: more
  | c :: rest => c :: squeeze rest

/-- A list of tokens with single spaces between them. -/
def tokenList (value : Text) : Text := (squeeze value).dropWhile (· == ' ')

/-- A value that is a list of tokens has its spaces squeezed; the first rule for the name
decides. -/
def normalize (rules : List AttributeRule) (name value : Text) : Text :=
  match rules.find? (·.name = name) with
  | some rule => if rule.tokenized then tokenList value else value
  | .none => value

/-- The attributes of an element: those written, and after them the declared defaults of the
others. -/
def attributes? (d : Declarations) (element : Text) (written : List (Text × List Piece)) :
    Option (List (Text × Text)) := do
  let rules := (Assoc.get? element d.attributeRules).getD []
  let given ← written.mapM fun (name, pieces) =>
    (d.value? pieces).map fun value => (name, normalize rules name value)
  let defaults := rules.filterMap fun rule =>
    match rule.default? with
    | some value => if (Assoc.get? rule.name given).isSome then .none else some (rule.name, value)
    | .none => .none
  some (given ++ defaults)

/-! ## Content -/

/-- Whether every element that begins in a run of events ends there, and the other way round. -/
def isBalanced : Nat → List Event → Bool
  | depth, [] => depth == 0
  | depth, .text _ :: rest => isBalanced depth rest
  | depth, .startTag _ _ :: rest => isBalanced (depth + 1) rest
  | 0, .endTag _ :: _ => false
  | depth + 1, .endTag _ :: rest => isBalanced depth rest

/-- The events of one token, inside the replacements of the entities in `within`. -/
def tokenEvents? (d : Declarations) : Nat → List Text → Token → Option (List Event)
  | _, _, .piece (.char c) => some [.text [c]]
  | _, _, .literal run => some [.text run]
  | _, _, .endTag name => some [.endTag name]
  | _, _, .startTag name attributes =>
    (d.attributes? name attributes).map fun attributes => [.startTag name attributes]
  | 0, _, .piece (.entity _) => .none
  | fuel + 1, within, .piece (.entity name) =>
    if within.contains name then .none
    else match Assoc.get? name d.entities with
      | some (some replacement) => do
        let tokens ← tokens? .replacement replacement
        let events ← tokens.mapM (tokenEvents? d fuel (name :: within))
        if isBalanced 0 events.flatten then some events.flatten else .none
      | _ => .none

/-- The events of a run of tokens. -/
def events? (d : Declarations) (tokens : List Token) : Option (List Event) :=
  (tokens.mapM (tokenEvents? d (d.entities.length + 1) [])).map List.flatten

end Declarations
end Xml
end DocMarkup
