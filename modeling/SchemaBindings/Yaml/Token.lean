import SchemaBindings.Yaml.ScalarText
import SchemaBindings.Yaml.Tag

/-!
The tokens of a text: marks of documents, collections, entries, keys and values, the properties of
nodes, and scalars.

Block collections have no marks at their ends. They are told by columns: a collection starts where
an entry stands to the right of all open ones, and ends where a token stands to the left of it.
Whether something is a key shows only at the colon after it, so every place where a key may have
started is kept as a candidate until then. Inside brackets columns do not count.
-/

namespace SchemaBindings.Yaml

/-- A token. -/
inductive Token
  | version (major minor : Nat)
  | shorthand (handle : String) (expansion : Tag)
  | documentStart
  | documentEnd
  | textEnd
  | blockListStart
  | blockMappingStart
  | blockEnd
  | flowListStart
  | flowListEnd
  | flowMappingStart
  | flowMappingEnd
  | dash
  | comma
  | key
  | value
  | reference (name : String)
  | anchor (name : String)
  | tag (handle : String) (suffix : Tag)
  | scalar (text : String) (plain : Bool)
  deriving Repr, DecidableEq

/-- A place where a key may have started, and the number of tokens before it. A key that starts in
the column of the open mapping must turn out to be one. -/
structure KeyCandidate where
  place : Cursor
  tokens : Nat
  required : Bool
  deriving Repr

/-- The greatest distance between the start of a key and its colon. -/
def keyLimit : Nat := 1024

/-- Whether the colon of a key can no longer follow: it stands in the same line, and not too far
away. -/
def KeyCandidate.isStale (candidate : KeyCandidate) (cursor : Cursor) : Bool :=
  candidate.place.line < cursor.line || candidate.place.index + keyLimit < cursor.index

/-- A text that is being cut into tokens: the tokens so far, the column of the innermost block
collection and those of the ones around it, and the candidate for a key on each level of brackets,
the innermost first. -/
structure Layout where
  cursor : Cursor
  tokens : Array Token := #[]
  column : Int := -1
  outerColumns : List Int := []
  candidate? : Option KeyCandidate := none
  outerCandidates : List (Option KeyCandidate) := []
  /-- Whether a key may start at the cursor. -/
  allowsKey : Bool := true
  deriving Inhabited

/-- A step of cutting a text into tokens, which may fail. -/
abbrev Cutting := StateT Layout Option

namespace Layout

/-- Whether the cursor is inside brackets. -/
def inFlow (layout : Layout) : Bool := !layout.outerCandidates.isEmpty

/-- The layout with one more token. -/
def push (layout : Layout) (token : Token) : Layout :=
  { layout with tokens := layout.tokens.push token }

/-- The layout with the block collections ended that are to the right of `column`. -/
def closeTo (column : Int) (layout : Layout) : List Int → Layout
  | [] => layout
  | outer :: outers =>
    if column < layout.column then
      closeTo column { layout.push .blockEnd with column := outer, outerColumns := outers } outers
    else layout

/-- The layout with a block collection at `column` started in front of the token number `position`,
unless one is open there. -/
def openAt (column : Nat) (position : Nat) (start : Token) (layout : Layout) : Layout :=
  if layout.inFlow || (column : Int) ≤ layout.column then layout
  else
    { layout with
      tokens := layout.tokens.insertIdxIfInBounds position start
      column := column
      outerColumns := layout.column :: layout.outerColumns }

/-- The layout with a block collection started at the cursor, unless one is open there. -/
def openHere (start : Token) (layout : Layout) : Layout :=
  layout.openAt layout.cursor.column layout.tokens.size start

end Layout

/-- A candidate that can still become a key. One that has to be a key fails when it cannot. -/
def freshCandidate (cursor : Cursor) (candidate? : Option KeyCandidate) :
    Cutting (Option KeyCandidate) := do
  match candidate? with
  | some candidate =>
    if !candidate.isStale cursor then return candidate?
    else if candidate.required then failure
    else return none
  | none => return none

/-- Gives up the candidates that can no longer become keys. -/
def dropStale : Cutting Unit := do
  let layout ← get
  let candidate? ← freshCandidate layout.cursor layout.candidate?
  let outerCandidates ← layout.outerCandidates.mapM (freshCandidate layout.cursor)
  set { layout with candidate?, outerCandidates }

/-- Gives up the candidate on this level of brackets. -/
def dropCandidate : Cutting Unit := do
  let layout ← get
  if layout.candidate?.any (·.required) then failure
  set { layout with candidate? := none }

/-- Keeps the cursor as a place where a key may start. -/
def keepCandidate : Cutting Unit := do
  let layout ← get
  if layout.allowsKey then
    dropCandidate
    let required := !layout.inFlow && layout.column == layout.cursor.column
    modify fun layout =>
      { layout with
        candidate? := some { place := layout.cursor, tokens := layout.tokens.size, required } }

/-- Ends the block collections to the right of `column`. Inside brackets none ends. -/
def closeBlocks (column : Int) : Cutting Unit :=
  modify fun layout =>
    if layout.inFlow then layout else layout.closeTo column layout.outerColumns

/-- Takes `n` characters as a token. -/
def takeToken (token : Token) (n : Nat) : Cutting Unit :=
  modify fun layout => { layout.push token with cursor := layout.cursor.skip n }

/-- Says whether a key may start next. -/
def allowKey (allowed : Bool) : Cutting Unit :=
  modify fun layout => { layout with allowsKey := allowed }

/-- Takes blanks, comments and ends of lines. Outside of brackets a tab is a blank only where no key
may start, and a key may start in a new line. A byte-order mark at the start of a line is passed
over, but takes a column. -/
def skipToToken : Nat → Cutting Unit
  | 0 => failure
  | bound + 1 => do
    let layout ← get
    let cursor := layout.cursor
    let cursor :=
      if cursor.column == 0 && cursor.rest.head? == some '\uFEFF' then cursor.skip 1 else cursor
    let tabs := layout.inFlow || !layout.allowsKey
    let cursor := (cursor.skipWhile fun c => c == ' ' || (tabs && c == '\t')).skipComment
    match cursor.lineEnd? with
    | some (_, cursor) => do
      set { layout with cursor, allowsKey := layout.allowsKey || !layout.inFlow }
      skipToToken bound
    | none => set { layout with cursor }

/-! ## Directives and the properties of nodes -/

/-- Whether `c` may stand in a name. -/
def isWordChar (c : Char) : Bool := c.isAlphanum || c == '_' || c == '-'

/-- Takes blanks within a line; there must be one if `required`. -/
def takeSpaces (required : Bool) : Cutting Unit := do
  let layout ← get
  let (spaces, cursor) := layout.cursor.span isSpace
  if required && spaces.isEmpty then failure
  set { layout with cursor }

/-- Takes the characters up to the first for which `p` fails. -/
def takeWhile (p : Char → Bool) : Cutting (List Char) :=
  modifyGet fun layout =>
    let (taken, cursor) := layout.cursor.span p
    (taken, { layout with cursor })

/-- What is ahead. -/
def ahead : Cutting (List Char) := do return (← get).cursor.rest

/-- Takes the character `c` if it is next. -/
def acceptChar (c : Char) : Cutting Bool := do
  if (← ahead).head? != some c then return false
  modify fun layout => { layout with cursor := layout.cursor.skip 1 }
  return true

/-- Takes a number of at most nine digits. -/
def takeNumber : Cutting Nat := do
  let digits ← takeWhile Char.isDigit
  if digits.isEmpty || 9 < digits.length then failure
  return digits.foldl (fun n c => 10 * n + (c.toNat - '0'.toNat)) 0

/-- The part of a tag up to the second exclamation mark, or the word that could be one. -/
def takeHandle : Cutting (List Char) := do
  if !(← acceptChar '!') then failure
  let word ← takeWhile isWordChar
  if ← acceptChar '!' then return '!' :: word ++ ['!']
  return '!' :: word

/-- The marks that may stand in a tag. -/
def tagMarks : List Char :=
  [';', '/', '?', ':', '@', '&', '=', '+', '$', '.', '%', '!', '~', '*', '\'', '(', ')']

/-- Whether `c` may stand in a tag, between angle brackets or not. -/
def isTagChar (verbatim : Bool) (c : Char) : Bool :=
  isWordChar c || tagMarks.contains c || (verbatim && [',', '[', ']'].contains c)

/-- Takes the bytes of a tag. -/
def takeTagBytes (verbatim : Bool) : Cutting (List UInt8) := do
  let written ← takeWhile (isTagChar verbatim)
  let some bytes := Tag.written? 0 written | failure
  return bytes

/-- Takes a tag: in angle brackets, with a handle between exclamation marks, or with one exclamation
mark, which is the handle then. -/
def takeTag : Cutting Token := do
  match ← ahead with
  | '!' :: '<' :: _ =>
    let _ ← acceptChar '!'
    let _ ← acceptChar '<'
    let bytes ← takeTagBytes true
    if bytes.isEmpty || !(← acceptChar '>') then failure
    return .tag "" (.ofBytes bytes)
  | _ =>
    let handle ← takeHandle
    let bytes ← takeTagBytes false
    if handle.length > 1 && handle.getLast? == some '!' then
      if bytes.isEmpty then failure
      return .tag (String.ofList handle) (.ofBytes bytes)
    let suffix := (Tag.ofText (String.ofList (handle.drop 1))).append (.ofBytes bytes)
    return if suffix.isEmpty then .tag "" (.ofText "!") else .tag "!" suffix

/-- Takes the rest of a directive's line, in which only a comment may stand. -/
def finishDirective : Cutting Unit := do
  takeSpaces false
  let cursor := (← get).cursor.skipComment
  if !cursor.rest.isEmpty && cursor.lineEnd?.isNone then failure
  modify fun layout => { layout with cursor := cursor.skipLineEnd }

/-- Takes a directive: the version of the format, or a shorthand for tags. -/
def takeDirective : Cutting Token := do
  let _ ← acceptChar '%'
  let name ← takeWhile isWordChar
  let token ←
    match String.ofList name with
    | "YAML" => do
      takeSpaces true
      let major ← takeNumber
      if !(← acceptChar '.') then failure
      pure (Token.version major (← takeNumber))
    | "TAG" => do
      takeSpaces true
      let handle ← takeHandle
      if handle.length > 1 && handle.getLast? != some '!' then failure
      takeSpaces true
      let bytes ← takeTagBytes true
      if bytes.isEmpty || !startsBlank (← ahead) then failure
      pure (Token.shorthand (String.ofList handle) (.ofBytes bytes))
    | _ => failure
  finishDirective
  return token

/-- Takes the name of an anchor. -/
def takeAnchorName : Cutting String := do
  let name ← takeWhile isWordChar
  let rest ← ahead
  let ended := startsBlank rest ||
    rest.head?.any (['?', ':', ',', ']', '\x7d', '%', '@', '\x60'].contains ·)
  if name.isEmpty || !ended then failure
  return String.ofList name

/-! ## Tokens -/

/-- Whether `c` starts something other than a plain scalar. -/
def isIndicator (c : Char) : Bool :=
  isFlowMark c ||
    ['-', '?', ':', '#', '&', '*', '!', '|', '>', '\'', '"', '%', '@', '\x60'].contains c

/-- Whether a plain scalar starts with `c`, which `rest` follows. -/
def startsPlain (flow : Bool) (c : Char) (rest : List Char) : Bool :=
  (!isBlank c && !isIndicator c) || (c == '-' && !rest.head?.any isSpace) ||
    (!flow && (c == '?' || c == ':') && !startsBlank rest)

/-- Takes a scalar with `read`. A key may start with it, and none starts right after it. -/
def takeScalar (plain : Bool) (read : Layout → Option (List Char × Cursor)) : Cutting Unit := do
  keepCandidate
  allowKey false
  let layout ← get
  let some (text, cursor) := read layout | failure
  set { layout.push (.scalar (String.ofList text) plain) with cursor }

/-- Takes a plain scalar. If a line ends after it, a key may start next. -/
def takePlain : Cutting Unit := do
  keepCandidate
  let layout ← get
  let cursor := layout.cursor
  let some (scalar, after) :=
      readPlain? layout.inFlow (layout.column + 1) [] {} (cursor.rest.length + 1) cursor
    | failure
  set { layout.push (.scalar (String.ofList scalar.text) true) with
    cursor := after
    allowsKey := scalar.isBroken }

/-- Takes a block of lines. -/
def takeBlock (folded : Bool) : Cutting Unit := do
  dropCandidate
  let layout ← get
  let some (text, cursor) := readBlockText? folded layout.column (layout.cursor.skip 1) | failure
  set { layout.push (.scalar (String.ofList text) false) with cursor, allowsKey := true }

/-- Takes a property of a node, with which a key may start. -/
def takeProperty (take : Cutting Token) : Cutting Unit := do
  keepCandidate
  allowKey false
  let token ← take
  modify (·.push token)

/-- Takes an opening bracket. -/
def takeOpening (token : Token) : Cutting Unit := do
  keepCandidate
  modify fun layout =>
    { layout with
      candidate? := none
      outerCandidates := layout.candidate? :: layout.outerCandidates }
  allowKey true
  takeToken token 1

/-- Takes a closing bracket. -/
def takeClosing (token : Token) : Cutting Unit := do
  dropCandidate
  modify fun layout =>
    match layout.outerCandidates with
    | candidate? :: outerCandidates => { layout with candidate?, outerCandidates }
    | [] => layout
  allowKey false
  takeToken token 1

/-- Takes a comma. -/
def takeComma : Cutting Unit := do
  dropCandidate
  allowKey true
  takeToken .comma 1

/-- Takes the dash in front of an item. -/
def takeDash : Cutting Unit := do
  let layout ← get
  if !layout.inFlow && !layout.allowsKey then failure
  modify (·.openHere .blockListStart)
  dropCandidate
  allowKey true
  takeToken .dash 1

/-- Takes the question mark in front of a key. -/
def takeKey : Cutting Unit := do
  let layout ← get
  if !layout.inFlow && !layout.allowsKey then failure
  modify (·.openHere .blockMappingStart)
  dropCandidate
  allowKey (!layout.inFlow)
  takeToken .key 1

/-- Takes the colon in front of a value. If there is a candidate, the key starts there. -/
def takeValue : Cutting Unit := do
  let layout ← get
  match layout.candidate? with
  | some candidate =>
    set (({ layout with
        candidate? := none
        allowsKey := false
        tokens := layout.tokens.insertIdxIfInBounds candidate.tokens .key }).openAt
      candidate.place.column candidate.tokens .blockMappingStart)
  | none =>
    if !layout.inFlow && !layout.allowsKey then failure
    modify (·.openHere .blockMappingStart)
    allowKey (!layout.inFlow)
  takeToken .value 1

/-- Takes a mark that ends all block collections. -/
def takeMark (take : Cutting Unit) : Cutting Unit := do
  closeBlocks (-1)
  dropCandidate
  allowKey false
  take

/-- Takes the next token, and tells whether it is the last one. -/
def takeNext : Cutting Bool := do
  skipToToken ((← ahead).length + 1)
  dropStale
  closeBlocks (← get).cursor.column
  let layout ← get
  let cursor := layout.cursor
  match cursor.rest with
  | [] =>
    takeMark (takeToken .textEnd 0)
    return true
  | c :: rest =>
    let flow := layout.inFlow
    if cursor.column == 0 && c == '%' then
      takeMark do
        let token ← takeDirective
        modify (·.push token)
    else if cursor.atMark '-' then takeMark (takeToken .documentStart 3)
    else if cursor.atMark '.' then takeMark (takeToken .documentEnd 3)
    else if c == '[' then takeOpening .flowListStart
    else if c == '\x7b' then takeOpening .flowMappingStart
    else if c == ']' then takeClosing .flowListEnd
    else if c == '\x7d' then takeClosing .flowMappingEnd
    else if c == ',' then takeComma
    else if c == '-' && startsBlank rest then takeDash
    else if c == '?' && (flow || startsBlank rest) then takeKey
    else if c == ':' && (flow || startsBlank rest) then takeValue
    else if c == '*' then
      takeProperty do
        let _ ← acceptChar '*'
        return .reference (← takeAnchorName)
    else if c == '&' then
      takeProperty do
        let _ ← acceptChar '&'
        return .anchor (← takeAnchorName)
    else if c == '!' then
      takeProperty do
        let token ← takeTag
        let after ← ahead
        if !startsBlank after && !(flow && after.head? == some ',') then failure
        return token
    else if c == '|' && !flow then takeBlock false
    else if c == '>' && !flow then takeBlock true
    else if c == '\'' then
      takeScalar false fun layout =>
        readSingleQuoted? [] (layout.cursor.rest.length + 1) (layout.cursor.skip 1)
    else if c == '"' then
      takeScalar false fun layout =>
        readDoubleQuoted? [] (layout.cursor.rest.length + 1) (layout.cursor.skip 1)
    else if startsPlain flow c rest then takePlain
    else failure
    return false

/-- Takes all tokens. Each but the last takes a character. -/
def takeAll : Nat → Cutting Unit
  | 0 => failure
  | bound + 1 => do
    if !(← takeNext) then takeAll bound

/-- Whether a text may hold the character. -/
def isAdmitted (c : Char) : Bool :=
  let n := c.toNat
  n == 0x09 || n == 0x0A || n == 0x0D || (0x20 ≤ n && n ≤ 0x7E) || n == 0x85 ||
    (0xA0 ≤ n && n ≤ 0xD7FF) || (0xE000 ≤ n && n ≤ 0xFFFD) || 0x10000 ≤ n

/-- The tokens of a text. -/
def Token.scan? (text : String) : Option (List Token) := do
  let cs := text.toList
  if !cs.all isAdmitted then none
  let (_, layout) ← (takeAll (cs.length + 1)).run { cursor := { rest := cs } }
  return layout.tokens.toList

end SchemaBindings.Yaml
