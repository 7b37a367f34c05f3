import Traceability.Yaml.Layout
import Traceability.Yaml.Node

/-!
Contract: reading the single document of a text.

A node is a scalar, a collection in brackets, or a block; nothing may be written
where a node is expected within a collection, and is an empty scalar then. An
alias stands for the node with its anchor. A text without any document is an
empty scalar as well.

Owns: which sequences of tokens are documents, anchors and aliases.
Does not own: the tokens themselves.
-/

namespace Traceability.Yaml

/-- The tokens that are left, the nodes that have been given a name, and the
handles that tags may begin with. -/
structure TokenStream where
  tokens : List Token
  anchors : List (String × Node)
  handles : List (String × Tag)

/-- What may be written in front of a node. -/
structure Properties where
  anchor : Option String
  tag : Option Tag
deriving DecidableEq, Repr

namespace Properties

/-- Whether anything is written in front of the node. -/
def any (properties : Properties) : Bool := properties.anchor.isSome || properties.tag.isSome

/-- The tag of a scalar that is written out. -/
def scalarTag (properties : Properties) : Option Tag := properties.tag.filter (· ≠ Tag.mark)

end Properties

/-- Reads part of a document, or fails. -/
abbrev NodeReader := StateT TokenStream Option

namespace NodeReader

/-- The next token, if there is one. -/
def peek : NodeReader (Option Token) := do return (← get).tokens.head?

/-- Passes the next token. -/
def skip : NodeReader Unit := modify fun stream => { stream with tokens := stream.tokens.drop 1 }

/-- Passes the next token if it is `token`, and tells whether it was. -/
def accept (token : Token) : NodeReader Bool := do
  if (← peek) = some token then
    skip
    return true
  else return false

def expect (token : Token) : NodeReader Unit := do
  if !(← accept token) then failure

/-- Whether the next token is one of `tokens`, or there is none. -/
def stopsAt (tokens : List Token) : NodeReader Bool := do
  match ← peek with
  | none => return true
  | some token => return tokens.contains token

/-- The anchor that comes next, if one does. -/
def anchor? : NodeReader (Option String) := do
  match ← peek with
  | some (.anchor name) =>
      skip
      return some name
  | _ => return none

/-- The tag that comes next, if one does; its handle must have been declared. -/
def tag? : NodeReader (Option Tag) := do
  match ← peek with
  | some (.tag handle suffix) =>
      skip
      if handle.isEmpty then return some suffix
      match (← get).handles.lookup handle with
      | some meaning => return some (meaning.join suffix)
      | none => failure
  | _ => return none

/-- An anchor and a tag in either order, each of which may be left out. -/
def properties : NodeReader Properties := do
  match ← anchor? with
  | some name => return ⟨some name, ← tag?⟩
  | none =>
      let tag ← tag?
      return ⟨← anchor?, tag⟩

/-- Gives a node the name of its anchor. -/
def record (anchor : Option String) (node : Node) : NodeReader Node := do
  match anchor with
  | none => return node
  | some name =>
      modify fun stream => { stream with anchors := (name, node) :: stream.anchors }
      return node

/-- The node that has been given a name last. -/
def resolve (name : String) : NodeReader Node := do
  match (← get).anchors.lookup name with
  | some node => return node
  | none => failure

/-- Where a node may stand: in a block, as part of an entry of a block mapping,
or within brackets. -/
inductive Position where
  | block
  | entry
  | flow
deriving DecidableEq, Repr

mutual

/-- A node, and whatever is nested in it. `fuel` bounds the calls. -/
def node (fuel : Nat) (position : Position) : NodeReader Node :=
  match fuel with
  | 0 => failure
  | fuel + 1 => do
      match ← peek with
      | some (.alias name) =>
          skip
          resolve name
      | _ =>
          let properties ← properties
          record properties.anchor (← content fuel position properties)

/-- A node after its properties. -/
def content (fuel : Nat) (position : Position) (properties : Properties) : NodeReader Node :=
  match fuel with
  | 0 => failure
  | fuel + 1 => do
      match ← peek, position with
      | some (.scalar style text), _ =>
          skip
          return .scalar style properties.scalarTag text
      | some .flowSequenceStart, _ =>
          skip
          return .sequence (← flowItems fuel true)
      | some .flowMappingStart, _ =>
          skip
          return .mapping (← flowEntries fuel true)
      | some .blockSequenceStart, .block | some .blockSequenceStart, .entry =>
          skip
          return .sequence (← blockItems fuel)
      | some .blockMappingStart, .block | some .blockMappingStart, .entry =>
          skip
          return .mapping (← blockEntries fuel)
      | some .blockEntry, .entry => return .sequence (← entryItems fuel)
      | _, _ => if properties.any then return .scalar .plain properties.tag "" else failure

/-- A node, unless one of `tokens` comes next. -/
def nodeUnless (fuel : Nat) (position : Position) (tokens : List Token) : NodeReader Node :=
  match fuel with
  | 0 => failure
  | fuel + 1 => do
      if ← stopsAt tokens then return .empty else node fuel position

/-- The items of a block sequence, and its end. -/
def blockItems (fuel : Nat) : NodeReader (List Node) :=
  match fuel with
  | 0 => failure
  | fuel + 1 => do
      if ← accept .blockEntry then
        let item ← nodeUnless fuel .block [.blockEntry, .blockEnd]
        return item :: (← blockItems fuel)
      else
        expect .blockEnd
        return []

/-- The items of a sequence that is indented no deeper than its key. -/
def entryItems (fuel : Nat) : NodeReader (List Node) :=
  match fuel with
  | 0 => failure
  | fuel + 1 => do
      if ← accept .blockEntry then
        let item ← nodeUnless fuel .block [.blockEntry, .key, .value, .blockEnd]
        return item :: (← entryItems fuel)
      else return []

/-- The entries of a block mapping, and its end. -/
def blockEntries (fuel : Nat) : NodeReader (List (Node × Node)) :=
  match fuel with
  | 0 => failure
  | fuel + 1 => do
      if ← accept .key then
        let key ← nodeUnless fuel .entry [.key, .value, .blockEnd]
        let value ← blockValue fuel
        return (key, value) :: (← blockEntries fuel)
      else
        expect .blockEnd
        return []

/-- The value of an entry of a block mapping. -/
def blockValue (fuel : Nat) : NodeReader Node :=
  match fuel with
  | 0 => failure
  | fuel + 1 => do
      if ← accept .value then nodeUnless fuel .entry [.key, .value, .blockEnd]
      else return .empty

/-- The items of a sequence in brackets, and its end. -/
def flowItems (fuel : Nat) (first : Bool) : NodeReader (List Node) :=
  match fuel with
  | 0 => failure
  | fuel + 1 => do
      if ← accept .flowSequenceEnd then return []
      if !first then expect .flowEntry
      if ← accept .flowSequenceEnd then return []
      let item ← if ← accept .key then flowPair fuel else node fuel .flow
      return item :: (← flowItems fuel false)

/-- A mapping of one entry that is an item itself, after the sign of its key.
Where the key is missing, the token in its place is passed. -/
def flowPair (fuel : Nat) : NodeReader Node :=
  match fuel with
  | 0 => failure
  | fuel + 1 => do
      let key ←
        if ← stopsAt [.value, .flowEntry, .flowSequenceEnd] then do
          skip
          pure .empty
        else node fuel .flow
      let value ← flowValue fuel .flowSequenceEnd
      return .mapping [(key, value)]

/-- The entries of a mapping in brackets, and its end. -/
def flowEntries (fuel : Nat) (first : Bool) : NodeReader (List (Node × Node)) :=
  match fuel with
  | 0 => failure
  | fuel + 1 => do
      if ← accept .flowMappingEnd then return []
      if !first then expect .flowEntry
      if ← accept .flowMappingEnd then return []
      if ← accept .key then
        let key ← nodeUnless fuel .flow [.value, .flowEntry, .flowMappingEnd]
        let value ← flowValue fuel .flowMappingEnd
        return (key, value) :: (← flowEntries fuel false)
      else
        let key ← node fuel .flow
        return (key, .empty) :: (← flowEntries fuel false)

/-- The value of an entry in brackets. -/
def flowValue (fuel : Nat) (closing : Token) : NodeReader Node :=
  match fuel with
  | 0 => failure
  | fuel + 1 => do
      if ← accept .value then nodeUnless fuel .flow [.flowEntry, closing]
      else return .empty

end

/-- Passes directives. A version is given once at most, and is one of the
first two of its line; no handle is declared twice. -/
def directives (fuel : Nat) (versioned : Bool) (declared : List (String × Tag)) :
    NodeReader Unit :=
  match fuel with
  | 0 => failure
  | fuel + 1 => do
      match ← peek with
      | some (.version major minor) =>
          if versioned || major ≠ 1 || (minor ≠ 1 && minor ≠ 2) then failure
          skip
          directives fuel true declared
      | some (.handle name meaning) =>
          if (declared.lookup name).isSome then failure
          skip
          directives fuel versioned ((name, meaning) :: declared)
      | _ => modify fun stream => { stream with handles := declared ++ stream.handles }

/-- Passes any number of marks for the end of a document. -/
def documentEnds (fuel : Nat) : NodeReader Unit :=
  match fuel with
  | 0 => failure
  | fuel + 1 => do
      if ← accept .documentEnd then documentEnds fuel

/-- Whether a document begins that announces itself. -/
def announced : NodeReader Bool := do
  match ← peek with
  | some .documentStart | some (.version _ _) | some (.handle _ _) => return true
  | _ => return false

/-- The content of a document that has announced itself. -/
def announcedContent (fuel : Nat) : NodeReader Node := do
  match ← peek with
  | none | some .documentStart | some .documentEnd | some (.version _ _) | some (.handle _ _) =>
      return .empty
  | _ => node fuel .block

/-- The only document there is. -/
def document (fuel : Nat) : NodeReader Node := do
  if (← peek).isNone then return .empty
  let root ←
    if ← announced then do
      directives fuel false []
      expect .documentStart
      announcedContent fuel
    else node fuel .block
  documentEnds fuel
  if (← peek).isNone then return root else failure

end NodeReader

/-- The document of a text. At most four nested calls come between one token
and the next, which the fuel allows for. -/
def Node.ofText? (text : String) : Option Node := do
  let tokens ← Token.ofText? text
  let (root, _) ← (NodeReader.document (4 * tokens.length + 8)).run
    ⟨tokens, [], [("!", .mark), ("!!", .core)]⟩
  return root

instance : YamlReader := ⟨Node.ofText?⟩

end Traceability.Yaml
