import SchemaBindings.Yaml.Node
import SchemaBindings.Yaml.Token

/-!
The document that a text is: its tokens, read as one node.

The readers of nodes take a bound on how many of them call each other. Of four in a row one takes a
token, so four times the number of tokens is never reached.
-/

namespace SchemaBindings.Yaml

/-- A document that is being read: the tokens ahead, the shorthands for tags, and the anchors. Each
name has a number, and the anchored nodes are counted. A number belongs to the last anchored node
that was given it. -/
structure Draft where
  tokens : List Token
  handles : List (String × Tag) := []
  numbers : List (String × Nat) := []
  holders : List (Nat × Nat) := []
  nodes : List (Nat × Node) := []

/-- A step of reading a document, which may fail. -/
abbrev Drafting := StateT Draft Option

/-- The next token, which stays. -/
def peekToken? : Drafting (Option Token) := do return (← get).tokens.head?

/-- Passes over the next token. -/
def dropToken : Drafting Unit := modify fun draft => { draft with tokens := draft.tokens.tail }

/-- Takes the next token if it is `token`. -/
def acceptToken (token : Token) : Drafting Bool := do
  if (← peekToken?) != some token then return false
  dropToken
  return true

/-- Whether one of some tokens is next. -/
def isAhead (tokens : List Token) : Drafting Bool := do
  return (← peekToken?).any tokens.contains

/-! ## Tags and anchors -/

/-- The shorthands that need not be said. -/
def commonHandles : List (String × Tag) := [("!", .ofText "!"), ("!!", .common "")]

/-- The tag that a handle and a suffix stand for. Without a handle the suffix is the tag. -/
def fullTag (handle : String) (suffix : Tag) : Drafting Tag := do
  if handle.isEmpty then return suffix
  match (← get).handles.find? (·.1 = handle) with
  | some (_, expansion) => return expansion.append suffix
  | none => failure

/-- Takes the tag of a node, if it has one. -/
def readTag? : Drafting (Option Tag) := do
  match ← peekToken? with
  | some (.tag handle suffix) =>
    dropToken
    return some (← fullTag handle suffix)
  | _ => return none

/-- Takes the anchor of a node, if it has one. -/
def readAnchor? : Drafting (Option String) := do
  match ← peekToken? with
  | some (.anchor name) =>
    dropToken
    return some name
  | _ => return none

/-- Takes the anchor and the tag of a node, in either order. -/
def readProperties : Drafting (Option String × Option Tag) := do
  match ← readAnchor? with
  | some name => return (some name, ← readTag?)
  | none =>
    match ← readTag? with
    | some tag => return (← readAnchor?, some tag)
    | none => return (none, none)

/-- Begins a node with an anchor, and counts it. The name is given the number of names that have
been given one. -/
def beginAnchored (name : String) : Drafting Nat := do
  let draft ← get
  let number := draft.numbers.length
  let count := draft.holders.length
  let others := draft.numbers.filter (·.1 ≠ name)
  set { draft with
    numbers := (name, number) :: others
    holders := (number, count) :: draft.holders }
  return count

/-- Ends the anchored node with a count. -/
def endAnchored (count : Nat) (node : Node) : Drafting Unit :=
  modify fun draft => { draft with nodes := (count, node) :: draft.nodes }

/-- The number of the anchor that an alias names. -/
def anchorNumber (name : String) : Drafting Nat := do
  match (← get).numbers.find? (·.1 = name) with
  | some (_, number) => return number
  | none => failure

/-- The anchored nodes by number, the last one that was given a number first. -/
def Draft.anchored (draft : Draft) : List (Nat × Node) :=
  draft.holders.filterMap fun (number, count) =>
    (draft.nodes.find? (·.1 = count)).map fun (_, node) => (number, node)

/-! ## Nodes -/

mutual

/-- A node. Only where `block` holds it may be a block collection, and only where `beside` holds a
block list that stands in the column of the mapping around it. -/
def readNode (block beside : Bool) : Nat → Drafting Node
  | 0 => failure
  | bound + 1 => do
    match ← peekToken? with
    | some (.reference name) =>
      dropToken
      return .reference (← anchorNumber name)
    | _ =>
      let (anchor?, tag?) ← readProperties
      let count? ← anchor?.mapM beginAnchored
      let node ← readContent block beside (anchor?.isSome || tag?.isSome) tag? bound
      if let some count := count? then endAnchored count node
      return node

/-- The content of a node with a tag. A node with properties may have none. -/
def readContent (block beside hasProperties : Bool) (tag? : Option Tag) : Nat → Drafting Node
  | 0 => failure
  | bound + 1 => do
    match ← peekToken? with
    | some (.scalar text plain) =>
      dropToken
      return .scalar tag? text plain
    | some .flowListStart =>
      dropToken
      return .list tag? (← readFlowItems true bound)
    | some .flowMappingStart =>
      dropToken
      return .mapping tag? (← readFlowEntries true bound)
    | some .dash =>
      if beside then return .list tag? (← readItemsBeside bound)
      else if hasProperties then return .scalar tag? "" true
      else failure
    | some .blockListStart =>
      if !block then failure
      dropToken
      return .list tag? (← readBlockItems bound)
    | some .blockMappingStart =>
      if !block then failure
      dropToken
      return .mapping tag? (← readBlockEntries bound)
    | _ => if hasProperties then return .scalar tag? "" true else failure

/-- A node, or an absent one if one of the tokens in `ends` is next. -/
def readOptional (block beside : Bool) (ends : List Token) : Nat → Drafting Node
  | 0 => failure
  | bound + 1 => do
    if ← isAhead ends then return .absent
    readNode block beside bound

/-- The items of a block list, up to its end. -/
def readBlockItems : Nat → Drafting (List Node)
  | 0 => failure
  | bound + 1 => do
    if ← acceptToken .blockEnd then return []
    if !(← acceptToken .dash) then failure
    let item ← readOptional true false [.dash, .blockEnd] bound
    return item :: (← readBlockItems bound)

/-- The items of a block list in the column of the mapping around it. -/
def readItemsBeside : Nat → Drafting (List Node)
  | 0 => failure
  | bound + 1 => do
    if !(← acceptToken .dash) then return []
    let item ← readOptional true false [.dash, .key, .value, .blockEnd] bound
    return item :: (← readItemsBeside bound)

/-- The entries of a block mapping, up to its end. Each has a key, and a value or none. -/
def readBlockEntries : Nat → Drafting (List (Node × Node))
  | 0 => failure
  | bound + 1 => do
    if ← acceptToken .blockEnd then return []
    if !(← acceptToken .key) then failure
    let ends := [Token.key, .value, .blockEnd]
    let key ← readOptional true true ends bound
    let value ←
      if ← acceptToken .value then readOptional true true ends bound else pure Node.absent
    return (key, value) :: (← readBlockEntries bound)

/-- The items of a list in brackets, up to the closing one. A pair is a mapping with one entry. -/
def readFlowItems (first : Bool) : Nat → Drafting (List Node)
  | 0 => failure
  | bound + 1 => do
    if ← acceptToken .flowListEnd then return []
    if !first then
      if !(← acceptToken .comma) then failure
    match ← peekToken? with
    | some .flowListEnd =>
      dropToken
      return []
    | some .key =>
      dropToken
      let entry ← readPair bound
      return .mapping none [entry] :: (← readFlowItems false bound)
    | _ =>
      let item ← readNode false false bound
      return item :: (← readFlowItems false bound)

/-- The key and the value of a pair in a list. Where the key is absent, the token that shows it is
passed over. -/
def readPair : Nat → Drafting (Node × Node)
  | 0 => failure
  | bound + 1 => do
    let key ←
      if ← isAhead [.value, .comma, .flowListEnd] then do
        dropToken
        pure Node.absent
      else readNode false false bound
    let value ←
      if ← acceptToken .value then readOptional false false [.comma, .flowListEnd] bound
      else pure Node.absent
    return (key, value)

/-- The entries of a mapping in braces, up to the closing one. A node without a mark is a key. -/
def readFlowEntries (first : Bool) : Nat → Drafting (List (Node × Node))
  | 0 => failure
  | bound + 1 => do
    if ← acceptToken .flowMappingEnd then return []
    if !first then
      if !(← acceptToken .comma) then failure
    match ← peekToken? with
    | some .flowMappingEnd =>
      dropToken
      return []
    | some .key =>
      dropToken
      let key ← readOptional false false [.value, .comma, .flowMappingEnd] bound
      let value ←
        if ← acceptToken .value then readOptional false false [.comma, .flowMappingEnd] bound
        else pure Node.absent
      return (key, value) :: (← readFlowEntries false bound)
    | _ =>
      let key ← readNode false false bound
      return (key, .absent) :: (← readFlowEntries false bound)

end

/-! ## Documents -/

/-- Takes directives, and tells whether there is one. The version is said at most once, and so is
each handle. -/
def readDirectives (versioned : Bool) : Nat → Drafting Bool
  | 0 => failure
  | bound + 1 => do
    match ← peekToken? with
    | some (.version major minor) =>
      if versioned || major ≠ 1 || (minor ≠ 1 && minor ≠ 2) then failure
      dropToken
      let _ ← readDirectives true bound
      return true
    | some (.shorthand handle expansion) =>
      if (← get).handles.any (·.1 = handle) then failure
      dropToken
      modify fun draft => { draft with handles := draft.handles ++ [(handle, expansion)] }
      let _ ← readDirectives versioned bound
      return true
    | _ => return false

/-- Takes the marks that end a document, which may be repeated, and the end of the text. -/
def readEnd : Nat → Drafting Unit
  | 0 => failure
  | bound + 1 => do
    if ← acceptToken .documentEnd then readEnd bound
    else if !(← acceptToken .textEnd) then failure

/-- The node of a text. Directives need a mark after them, behind which the node may be absent. -/
def readRoot (bound : Nat) : Drafting Node := do
  if ← isAhead [.textEnd] then return .absent
  let directed ← readDirectives false bound
  let marked ← acceptToken .documentStart
  if directed && !marked then failure
  modify fun draft => { draft with handles := draft.handles ++ commonHandles }
  readOptional true false (if marked then [.documentStart, .documentEnd, .textEnd] else []) bound

/-- The document that a text is, if it is one. -/
def Document.parse? (text : String) : Option Document := do
  let tokens ← Token.scan? text
  let bound := 4 * tokens.length + 8
  let reading : Drafting Node := do
    let root ← readRoot bound
    readEnd bound
    return root
  let (root, draft) ← reading.run { tokens }
  return { root, anchored := draft.anchored }

end SchemaBindings.Yaml
