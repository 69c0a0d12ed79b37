import DocMarkup.Yaml.Layout
import DocMarkup.Yaml.Reading
import DocMarkup.Yaml.Spelling

/-!
# Nodes of documents

The tokens of a document form one node, which holds all others. A node may have an anchor and a tag
in front of it; what is left out is a scalar without content.

Main definitions:

- {lit}`Yaml.scalarKind`, {lit}`Yaml.collectionKind`: the kind of a node with a tag or without.
- {lit}`Yaml.node`: a node and those it holds.
- {lit}`Yaml.Document`: the graph of a document and its outermost node.
- {lit}`Yaml.documentOf?`: the document of a text that holds one at most.
-/

namespace DocMarkup
namespace Yaml

/-! ## Properties -/

/-- The anchor and the tag in front of a node, in either order. -/
def properties : Parse (Option Text × Option Text) := do
  match ← Parse.peek with
  | .anchor name =>
    Parse.skip
    match ← Parse.peek with
    | .tag handle suffix =>
      Parse.skip
      let tag ← Parse.wholeTag handle suffix
      return (some name, some tag)
    | _ => return (some name, none)
  | .tag handle suffix =>
    Parse.skip
    match ← Parse.peek with
    | .anchor name =>
      Parse.skip
      let tag ← Parse.wholeTag handle suffix
      return (some name, some tag)
    | _ =>
      let tag ← Parse.wholeTag handle suffix
      return (none, some tag)
  | _ => return (none, none)

/-- The kind of a scalar. Without a tag the content of a plain one can be anything, that of another
one is text; a lone exclamation mark leaves it to the content. -/
def scalarKind (tag : Option Text) (isPlain : Bool) (content : Text) : Kind :=
  match tag with
  | none => if isPlain then implicitKind content else .str
  | some name => if name = ['!'] then implicitKind content else kindOfTag name

/-- The kind of a collection, given the one that it has without a tag. -/
def collectionKind (tag : Option Text) (untagged : Kind) : Kind :=
  match tag with
  | none => untagged
  | some name => if name = ['!'] then untagged else kindOfTag name

/-! ## Ends of nodes -/

/-- Whether a block key or value is left out in front of a token. -/
def endsBlockItem : Token → Bool
  | .key | .value | .blockEnd => true
  | _ => false

/-- Whether an entry of a block sequence is left out in front of a token. -/
def endsBlockEntry : Token → Bool
  | .blockEntry | .blockEnd => true
  | _ => false

/-- Whether an entry of a sequence that is not indented is left out in front of a token. -/
def endsIndentless : Token → Bool
  | .blockEntry | .key | .value | .blockEnd => true
  | _ => false

/-- Whether a value inside brackets is left out in front of a token. -/
def endsFlowItem : Token → Bool
  | .flowEntry | .flowSequenceEnd | .flowMappingEnd => true
  | _ => false

/-- Whether a key inside brackets is left out in front of a token. -/
def endsFlowKey : Token → Bool
  | .value => true
  | next => endsFlowItem next

/-- A node that has been left out. -/
def absent : Parse Nat := Parse.register none ⟨.null, .scalar []⟩

/-- A node that may be left out in front of the next token. -/
def orAbsent (ends : Token → Bool) (p : Parse Nat) : Parse Nat := do
  if ends (← Parse.peek) then absent else p

/-- The comma in front of an entry inside brackets, which the first entry does not have. -/
def comma (first : Bool) : Parse Unit := do
  if first then Parse.pure ()
  else
    match ← Parse.peek with
    | .flowEntry => Parse.skip
    | _ => Parse.fail

/-! ## Nodes -/

/-- Where a node stands: in a block, there with a sequence that need not be indented, or in
brackets. -/
inductive Place where
  | block
  | blockItem
  | flow
  deriving DecidableEq

/-- A scalar behind its properties. -/
def scalarNode (anchor tag : Option Text) (isPlain : Bool) (content : Text) : Parse Nat :=
  Parse.register anchor ⟨scalarKind tag isPlain content, .scalar content⟩

/-- A node of which only the properties are there. -/
def propertiesOnly (anchor tag : Option Text) : Parse Nat :=
  if anchor.isNone && tag.isNone then Parse.fail else scalarNode anchor tag true []

/-- A sequence behind its properties, given the reading of its items. -/
def sequenceNode (anchor tag : Option Text) (items : Parse (List Nat)) : Parse Nat :=
  Parse.collection anchor (collectionKind tag .seq) .sequence items

/-- A mapping behind its properties, given the reading of its entries. -/
def mappingNode (anchor tag : Option Text) (entries : Parse (List (Nat × Nat))) : Parse Nat :=
  Parse.collection anchor (collectionKind tag .map) .mapping entries

mutual

/-- A node. -/
def node : Nat → Place → Parse Nat
  | 0, _ => Parse.fail
  | fuel + 1, place => do
    match ← Parse.peek with
    | .alias name =>
      Parse.skip
      Parse.lookup name
    | _ =>
      let (anchor, tag) ← properties
      content fuel place anchor tag

/-- A node behind its properties. -/
def content : Nat → Place → Option Text → Option Text → Parse Nat
  | 0, _, _, _ => Parse.fail
  | fuel + 1, place, anchor, tag => do
    match ← Parse.peek with
    | .scalar isPlain text =>
      Parse.skip
      scalarNode anchor tag isPlain text
    | .flowSequenceStart =>
      Parse.skip
      sequenceNode anchor tag (flowItems fuel true)
    | .flowMappingStart =>
      Parse.skip
      mappingNode anchor tag (flowEntries fuel true)
    | .blockSequenceStart =>
      if place = .flow then propertiesOnly anchor tag
      else
        Parse.skip
        sequenceNode anchor tag (blockItems fuel)
    | .blockMappingStart =>
      if place = .flow then propertiesOnly anchor tag
      else
        Parse.skip
        mappingNode anchor tag (blockEntries fuel)
    | .blockEntry =>
      if place = .blockItem then sequenceNode anchor tag (indentlessItems fuel)
      else propertiesOnly anchor tag
    | _ => propertiesOnly anchor tag

/-- The items of a block sequence. -/
def blockItems : Nat → Parse (List Nat)
  | 0 => Parse.fail
  | fuel + 1 => do
    match ← Parse.peek with
    | .blockEntry =>
      Parse.skip
      let item ← orAbsent endsBlockEntry (node fuel .block)
      let items ← blockItems fuel
      Parse.pure (item :: items)
    | .blockEnd =>
      Parse.skip
      Parse.pure []
    | _ => Parse.fail

/-- The items of a sequence that is not indented. -/
def indentlessItems : Nat → Parse (List Nat)
  | 0 => Parse.fail
  | fuel + 1 => do
    match ← Parse.peek with
    | .blockEntry =>
      Parse.skip
      let item ← orAbsent endsIndentless (node fuel .block)
      let items ← indentlessItems fuel
      Parse.pure (item :: items)
    | _ => Parse.pure []

/-- The entries of a block mapping. -/
def blockEntries : Nat → Parse (List (Nat × Nat))
  | 0 => Parse.fail
  | fuel + 1 => do
    match ← Parse.peek with
    | .key =>
      Parse.skip
      let key ← orAbsent endsBlockItem (node fuel .blockItem)
      let value ← blockValue fuel
      let entries ← blockEntries fuel
      Parse.pure ((key, value) :: entries)
    | .blockEnd =>
      Parse.skip
      Parse.pure []
    | _ => Parse.fail

/-- The value of an entry of a block mapping. -/
def blockValue : Nat → Parse Nat
  | 0 => Parse.fail
  | fuel + 1 => do
    match ← Parse.peek with
    | .value =>
      Parse.skip
      orAbsent endsBlockItem (node fuel .blockItem)
    | _ => absent

/-- The items of a sequence in brackets. -/
def flowItems : Nat → Bool → Parse (List Nat)
  | 0, _ => Parse.fail
  | fuel + 1, first => do
    match ← Parse.peek with
    | .flowSequenceEnd =>
      Parse.skip
      Parse.pure []
    | _ =>
      comma first
      match ← Parse.peek with
      | .flowSequenceEnd =>
        Parse.skip
        Parse.pure []
      | .key =>
        Parse.skip
        let item ← mappingNode none none (flowPair fuel)
        let items ← flowItems fuel false
        Parse.pure (item :: items)
      | _ =>
        let item ← node fuel .flow
        let items ← flowItems fuel false
        Parse.pure (item :: items)

/-- The one entry of a mapping that stands in a sequence in brackets without brackets of its own. -/
def flowPair : Nat → Parse (List (Nat × Nat))
  | 0 => Parse.fail
  | fuel + 1 => do
    let key ← orAbsent endsFlowKey (node fuel .flow)
    let value ← flowValue fuel
    Parse.pure [(key, value)]

/-- The entries of a mapping in brackets. -/
def flowEntries : Nat → Bool → Parse (List (Nat × Nat))
  | 0, _ => Parse.fail
  | fuel + 1, first => do
    match ← Parse.peek with
    | .flowMappingEnd =>
      Parse.skip
      Parse.pure []
    | _ =>
      comma first
      match ← Parse.peek with
      | .flowMappingEnd =>
        Parse.skip
        Parse.pure []
      | .key =>
        Parse.skip
        let key ← orAbsent endsFlowKey (node fuel .flow)
        let value ← flowValue fuel
        let entries ← flowEntries fuel false
        Parse.pure ((key, value) :: entries)
      | _ =>
        let key ← node fuel .flow
        let value ← absent
        let entries ← flowEntries fuel false
        Parse.pure ((key, value) :: entries)

/-- The value of an entry inside brackets. -/
def flowValue : Nat → Parse Nat
  | 0 => Parse.fail
  | fuel + 1 => do
    match ← Parse.peek with
    | .value =>
      Parse.skip
      orAbsent endsFlowItem (node fuel .flow)
    | _ => absent

end

/-! ## Documents -/

/-- The graph of a document, its outermost node, and whether a collection holds itself. -/
structure Document where
  graph : Graph
  root : Nat
  isCyclic : Bool

/-- The handles that need no directive. -/
def standardHandles : List (Text × Text) :=
  [(['!'], ['!']), (['!', '!'], "tag:yaml.org,2002:".toList)]

/-- The handles that a run of directives declares, and the tokens behind it. A version is given at
most once and must be 1; no handle is declared twice. -/
def directives : List Token → Bool → List (Text × Text) →
    Except Fault (List (Text × Text) × List Token)
  | .directive (.version major) :: rest, versionGiven, handles =>
    if versionGiven || major != 1 then .error .malformed else directives rest true handles
  | .directive (.handle name expansion) :: rest, versionGiven, handles =>
    if (Assoc.get? name handles).isSome then .error .malformed
    else directives rest versionGiven (handles ++ [(name, expansion)])
  | .directive .other :: rest, versionGiven, handles => directives rest versionGiven handles
  | rest, _, handles => .ok (handles ++ standardHandles, rest)

/-- Whether a document is left empty in front of a token. -/
def endsDocument : Token → Bool
  | .directive _ | .documentStart | .documentEnd | .streamEnd => true
  | _ => false

/-- The tokens behind the marks that end a document. -/
def afterDocumentEnds : List Token → List Token
  | .documentEnd :: rest => afterDocumentEnds rest
  | rest => rest

/-- No other document may follow. The directives in front of one are read before it is refused. -/
def endStream (tokens : List Token) (fault : Option Fault) : Except Fault Unit :=
  match afterDocumentEnds tokens with
  | [.streamEnd] => .ok ()
  | tokens => do
    let (_, rest) ← directives tokens false []
    .error (if rest.isEmpty then fault.getD .malformed else .malformed)

/-- The one document that a reading stands in front of. Every level of a node takes a token, and
none takes more than four steps for it. -/
def readDocument (read : Nat → Parse Nat) (r : Reading) : Except Fault Document := do
  let (root, r) ← read (4 * r.tokens.length + 4) r
  endStream r.tokens r.fault
  .ok ⟨r.graph, root, r.isCyclic⟩

/-- The document of a text that holds one at most. -/
def documentOf? (s : Text) : Except Fault (Option Document) :=
  let (tokens, fault) := layout s
  match tokens with
  | [.streamEnd] => .ok none
  | .directive _ :: _ | .documentStart :: _ => do
    let (handles, rest) ← directives tokens false []
    match rest with
    | .documentStart :: rest =>
      some <$> readDocument (fun fuel => orAbsent endsDocument (node fuel .block))
        ⟨rest, fault, handles, [], .empty, [], false⟩
    | _ => .error (if rest.isEmpty then fault.getD .malformed else .malformed)
  | _ =>
    some <$> readDocument (fun fuel => node fuel .block)
      ⟨tokens, fault, standardHandles, [], .empty, [], false⟩

end Yaml
end DocMarkup
