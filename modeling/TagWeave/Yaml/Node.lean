import TagWeave.Yaml.Plain
import TagWeave.Yaml.Token

/-!
# Nodes

A document is a tree of nodes, each of a kind: scalars, sequences and mappings, whose
entries are still in the order of the text. A reference stands for the node of its
anchor, which has to be complete. Mappings are numbered as they are read, so that one that
a reference stands for is known to be the same. A text holds at most one document.
-/

namespace TagWeave.Yaml

/-- A node. -/
inductive Node where
  | scalar (kind : Kind) (text : String)
  | sequence (kind : Kind) (items : List Node)
  | mapping (number : Nat) (kind : Kind) (entries : List (Node × Node))
  deriving Repr

/-- The node of nothing. -/
def Node.empty : Node := .scalar .null ""

/-- What is known while nodes are read: the tokens to come, why the text is refused after them, the
meanings of tag handles, the nodes of anchors, as far as they are complete, and how many mappings
have been begun. -/
structure Reading where
  tokens : List Token
  refusal? : Option Fault
  handles : List (String × String) := []
  anchors : List (String × Option Node) := []
  mappings : Nat := 0

/-- Reading nodes. -/
abbrev Reader := StateT Reading (Except Fault)

namespace Reader

/-- The meanings that tag handles have by default. -/
def defaultHandles : List (String × String) := [("!", "!"), ("!!", standardTag)]

/-- Refuses the order of the tokens. -/
def misplaced {α : Type} (reason : String) : Reader α := throw ⟨.order, reason⟩

/-- The next token. -/
def peek : Reader Token := do
  let r ← get
  match r.tokens, r.refusal? with
  | token :: _, _ => return token
  | [], some f => throw f
  | [], none => return .textEnd

/-- Goes past the next token. -/
def skip : Reader Unit := modify fun r => { r with tokens := r.tokens.tail }

/-- Goes past the next token if it is a given one. -/
def take? (token : Token) : Reader Bool := do
  if (← peek) = token then skip; return true else return false

/-- Whether the next token is one of some. -/
def sees (tokens : List Token) : Reader Bool := return tokens.contains (← peek)

/-- Reads an anchor, if there is one. -/
def anchor? : Reader (Option String) := do
  match ← peek with
  | .anchor name => skip; return some name
  | _ => return none

/-- Reads a tag, if there is one. -/
def tag? : Reader (Option (Option String × String)) := do
  match ← peek with
  | .tag handle? suffix => skip; return some (handle?, suffix)
  | _ => return none

/-- Reads an anchor and a tag, in either order. -/
def properties : Reader (Option String × Option (Option String × String)) := do
  match ← anchor? with
  | some name => return (some name, ← tag?)
  | none =>
    match ← tag? with
    | none => return (none, none)
    | some tag => return (← anchor?, some tag)

/-- A tag in full. -/
def fullTag : Option String × String → Reader String
  | (none, suffix) => return suffix
  | (some handle, suffix) => do
    match (← get).handles.find? (·.1 = handle) with
    | some (_, meaning) => return meaning ++ suffix
    | none => misplaced "unknown tag handle"

/-- The kind that a tag gives, if it gives one. -/
def kindOr (tag? : Option String) (default : Kind) : Kind :=
  match tag? with
  | none => default
  | some tag => if tag = "!" then default else .ofTag tag

/-- Notes an anchor, unless it is there already. -/
def noteAnchor : Option String → Reader Unit
  | none => return
  | some name => do
    if (← get).anchors.any (·.1 = name) then throw ⟨.references, "anchor set twice"⟩
    modify fun r => { r with anchors := r.anchors ++ [(name, none)] }

/-- Completes the node of an anchor. -/
def completeAnchor (name? : Option String) (node : Node) : Reader Unit :=
  match name? with
  | none => return
  | some name => modify fun r =>
    { r with anchors := r.anchors.map fun a => if a.1 = name then (name, some node) else a }

/-- Reads the node of an anchor, if there is an anchor. -/
def anchored (name? : Option String) (read : Reader Node) : Reader Node := do
  noteAnchor name?
  let node ← read
  completeAnchor name? node
  return node

/-- The number of a mapping that begins. -/
def newNumber : Reader Nat := do
  let number := (← get).mappings
  modify fun r => { r with mappings := number + 1 }
  return number

/-- The node of an anchor. -/
def referenced (name : String) : Reader Node := do
  match (← get).anchors.find? (·.1 = name) with
  | some (_, some node) => return node
  | some (_, none) => throw ⟨.references, "anchor inside its own node"⟩
  | none => throw ⟨.references, "unknown anchor"⟩

/-- The tokens that end an item without a node, in the places where a node may be left out. -/
def emptyBefore (sequence : Bool) : List Token :=
  if sequence then [.blockEntry, .key, .value, .blockEnd] else [.key, .value, .blockEnd]

mutual

/-- Reads a node, which is a block collection only where `block` is set. The dashes of a sequence as
the value of a mapping need no indentation. -/
def node (block indentless : Bool) : Nat → Reader Node
  | 0 => misplaced "too deep"
  | fuel + 1 => do
    if let .reference name ← peek then
      skip
      return ← referenced name
    let (anchor?, tag?) ← properties
    let tag? ← tag?.mapM fullTag
    let token ← peek
    if indentless && token = .blockEntry then
      anchored anchor? do return .sequence (kindOr tag? .sequence) (← indentlessItems fuel)
    else match token with
    | .scalar text plain =>
      skip
      anchored anchor? do
        let implicit := if plain || tag? = some "!" then kindOfPlain text else .str
        return .scalar (kindOr tag? implicit) text
    | .flowSequenceStart =>
      anchored anchor? do skip; return .sequence (kindOr tag? .sequence) (← flowItems true fuel)
    | .flowMappingStart =>
      anchored anchor? do
        skip
        return .mapping (← newNumber) (kindOr tag? .mapping) (← flowEntries true fuel)
    | .blockSequenceStart =>
      if block then
        anchored anchor? do skip; return .sequence (kindOr tag? .sequence) (← blockItems fuel)
      else misplaced "block collection in a flow collection"
    | .blockMappingStart =>
      if block then
        anchored anchor? do
          skip
          return .mapping (← newNumber) (kindOr tag? .mapping) (← blockEntries fuel)
      else misplaced "block collection in a flow collection"
    | _ =>
      if anchor?.isSome || tag?.isSome then
        anchored anchor? do return .scalar (kindOr tag? .null) ""
      else misplaced "no node"

/-- Reads a node, unless one of some tokens follows. -/
def nodeUnless (block indentless : Bool) (tokens : List Token) : Nat → Reader Node
  | 0 => misplaced "too deep"
  | fuel + 1 => do if ← sees tokens then return .empty else node block indentless fuel

/-- Reads the items of a block sequence. -/
def blockItems : Nat → Reader (List Node)
  | 0 => misplaced "too deep"
  | fuel + 1 => do
    if ← take? .blockEntry then
      let item ← nodeUnless true false [.blockEntry, .blockEnd] fuel
      return item :: (← blockItems fuel)
    else if ← take? .blockEnd then return []
    else misplaced "no end of a sequence"

/-- Reads the items of a sequence without indentation. -/
def indentlessItems : Nat → Reader (List Node)
  | 0 => misplaced "too deep"
  | fuel + 1 => do
    if ← take? .blockEntry then
      let item ← nodeUnless true false (emptyBefore true) fuel
      return item :: (← indentlessItems fuel)
    else return []

/-- Reads the entries of a block mapping. -/
def blockEntries : Nat → Reader (List (Node × Node))
  | 0 => misplaced "too deep"
  | fuel + 1 => do
    if ← take? .key then
      let key ← nodeUnless true true (emptyBefore false) fuel
      let value ← blockValue fuel
      return (key, value) :: (← blockEntries fuel)
    else if ← take? .blockEnd then return []
    else misplaced "no end of a mapping"

/-- Reads the value of an entry of a block mapping, which may be missing. -/
def blockValue : Nat → Reader Node
  | 0 => misplaced "too deep"
  | fuel + 1 => do
    if ← take? .value then nodeUnless true true (emptyBefore false) fuel else return .empty

/-- Reads the items of a flow sequence. An item with a colon is a mapping of one entry. -/
def flowItems (first : Bool) : Nat → Reader (List Node)
  | 0 => misplaced "too deep"
  | fuel + 1 => do
    if ← take? .flowSequenceEnd then return []
    if !first && !(← take? .flowEntry) then misplaced "no comma in a flow sequence"
    if ← take? .key then
      let key ← nodeUnless false false [.value, .flowEntry, .flowSequenceEnd] fuel
      let value ← flowValue .flowSequenceEnd fuel
      return .mapping (← newNumber) .mapping [(key, value)] :: (← flowItems false fuel)
    else if ← take? .flowSequenceEnd then return []
    else
      let item ← node false false fuel
      return item :: (← flowItems false fuel)

/-- Reads the value of an entry in a flow collection, which may be missing. -/
def flowValue (closing : Token) : Nat → Reader Node
  | 0 => misplaced "too deep"
  | fuel + 1 => do
    if ← take? .value then nodeUnless false false [.flowEntry, closing] fuel else return .empty

/-- Reads the entries of a flow mapping. An entry without a colon has no value. -/
def flowEntries (first : Bool) : Nat → Reader (List (Node × Node))
  | 0 => misplaced "too deep"
  | fuel + 1 => do
    if ← take? .flowMappingEnd then return []
    if !first && !(← take? .flowEntry) then misplaced "no comma in a flow mapping"
    if ← take? .key then
      let key ← nodeUnless false false [.value, .flowEntry, .flowMappingEnd] fuel
      let value ← flowValue .flowMappingEnd fuel
      return (key, value) :: (← flowEntries false fuel)
    else if ← take? .flowMappingEnd then return []
    else
      let key ← node false false fuel
      return (key, .empty) :: (← flowEntries false fuel)

end

/-- Reads the directives before a document. -/
def directives : Nat → Bool → List (String × String) → Reader Unit
  | 0, _, _ => misplaced "too deep"
  | fuel + 1, versioned, handles => do
    match ← peek with
    | .directive (.version major) =>
      skip
      if versioned then misplaced "version given twice"
      if major ≠ 1 then misplaced "unknown version"
      directives fuel true handles
    | .directive (.handle name meaning) =>
      skip
      if handles.any (·.1 = name) then misplaced "handle given twice"
      directives fuel versioned (handles ++ [(name, meaning)])
    | .directive .unknown => skip; directives fuel versioned handles
    | _ => modify fun r => { r with handles := handles ++ defaultHandles }

/-- Goes past the ends of documents. -/
def skipEnds : Nat → Reader Unit
  | 0 => return
  | fuel + 1 => do if ← take? .documentEnd then skipEnds fuel

/-- Whether a directive follows. -/
def seesDirective : Reader Bool := do
  match ← peek with
  | .directive _ => return true
  | _ => return false

/-- Begins a document that has an explicit start. Tells whether there is one, or else the end of the
text. -/
def beginDocument (fuel : Nat) : Reader Bool := do
  skipEnds fuel
  if ← sees [.textEnd] then return false
  directives fuel false []
  if ← take? .documentStart then return true else misplaced "no start of a document"

/-- Reads the document of a text, if there is one. -/
def document (fuel : Nat) : Reader (Option Node) := do
  let explicit := (← seesDirective) || (← sees [.documentStart, .textEnd])
  if explicit then
    if !(← beginDocument fuel) then return none
  else modify fun r => { r with handles := defaultHandles }
  let root ←
    if explicit && ((← seesDirective) || (← sees [.documentStart, .documentEnd, .textEnd])) then
      pure Node.empty
    else node true false fuel
  let _ ← take? .documentEnd
  if ← beginDocument fuel then throw ⟨.references, "several documents"⟩
  return some root

end Reader

/-- The document of a text, if there is one. -/
def nodeOf (text : List Char) : Except Fault (Option Node) :=
  if !text.all isAllowed then .error ⟨.characters, "character that is not allowed"⟩
  else
    let (tokens, refusal?) := tokensOf text
    ((Reader.document (8 * tokens.length + 16)).run { tokens, refusal? }).map (·.1)

end TagWeave.Yaml
