import SchemaBindings.Source.Literal
import SchemaBindings.Source.Token
import SchemaBindings.Document.Value
import SchemaBindings.TypeRef

/-!
Reading a grammar from tokens, one token ahead, and the parts that schema and executable documents
share: types, values, arguments and directives.

The readers of nested parts take a bound on the number of tokens left. Each of them takes a token
before it reads a part, so a bound that holds at the start is never reached.
-/

namespace SchemaBindings.Source

/-- Reads from tokens, or fails. -/
abbrev Parse := StateT (List Token) Option

/-- The next token, which stays. -/
def peek? : Parse (Option Token) := do return (← get).head?

/-- Takes the next token if it is `token`. -/
def accept (token : Token) : Parse Bool := do
  match ← get with
  | next :: rest =>
    if next = token then
      set rest
      return true
    else return false
  | [] => return false

/-- Takes `token`. -/
def expect (token : Token) : Parse Unit := do
  unless ← accept token do failure

/-- Takes a one-character mark. -/
def expectMark (c : Char) : Parse Unit := expect (.mark c)

/-- Takes a name. -/
def readName : Parse String := do
  match ← get with
  | .name text :: rest =>
    set rest
    return text
  | _ => failure

/-- Takes a name unless something else is next. -/
def readName? : Parse (Option String) := do
  match ← get with
  | .name text :: rest =>
    set rest
    return some text
  | _ => return none

/-- Items up to the mark `close`, which is taken. -/
def readUntil {α : Type} (close : Char) (item : Parse α) : Nat → Parse (List α)
  | 0 => failure
  | bound + 1 => do
    if ← accept (.mark close) then return []
    let first ← item
    return first :: (← readUntil close item bound)

/-- At least one item, up to the mark `close`, which is taken. -/
def readSome {α : Type} (close : Char) (item : Parse α) (bound : Nat) : Parse (List α) := do
  let items ← readUntil close item bound
  if items.isEmpty then failure else return items

/-- Items between marks. Where the opening mark does not follow there are none. -/
def readGroup {α : Type} (opening close : Char) (item : Parse α) (bound : Nat) :
    Parse (List α) := do
  if ← accept (.mark opening) then readSome close item bound else return []

/-- At least one item, with the mark `separator` between neighbours. -/
def readSeparated {α : Type} (separator : Char) (item : Parse α) : Nat → Parse (List α)
  | 0 => failure
  | bound + 1 => do
    let first ← item
    if ← accept (.mark separator) then return first :: (← readSeparated separator item bound)
    return [first]

/-- A reference to a type. -/
def readType : Nat → Parse TypeRef
  | 0 => failure
  | bound + 1 => do
    let inner ←
      if ← accept (.mark '[') then
        let item ← readType bound
        expectMark ']'
        pure (.list item)
      else pure (.named (← readName))
    if ← accept (.mark '!') then return .nonNull inner
    return inner

/-- The number that is written: with a point or an exponent it is a float. -/
def numberValue? (text : List Char) : Option Value :=
  if text.any fun c => c == '.' || c == 'e' || c == 'E' then (floatValue? text).map .float
  else (intValue? text).map .int

/-- The value that a single token stands for. -/
def tokenValue? : Token → Option Value
  | .name text =>
    some (match text with
      | "true" => .boolean true
      | "false" => .boolean false
      | "null" => .null
      | _ => .enumName text)
  | .number text => numberValue? text
  | .quotedText body => (unescape body).map fun cs => .string (String.ofList cs)
  | .blockText body => some (.string (blockValue body))
  | .mark _ => none
  | .ellipsis => none

/-- A value; variables stand only where they are allowed. -/
def readValue (allowsVariables : Bool) : Nat → Parse Value
  | 0 => failure
  | bound + 1 => do
    match ← get with
    | .mark '$' :: rest =>
      if !allowsVariables then failure
      set rest
      return .variable (← readName)
    | .mark '[' :: rest =>
      set rest
      return .list (← readUntil ']' (readValue allowsVariables bound) bound)
    | .mark '\x7b' :: rest =>
      set rest
      let field := do
        let name ← readName
        expectMark ':'
        return (name, ← readValue allowsVariables bound)
      return .ofFields (← readUntil '\x7d' field bound)
    | token :: rest =>
      set rest
      match tokenValue? token with
      | some value => return value
      | none => failure
    | [] => failure

/-- The arguments in parentheses, if any. -/
def readArguments (bound : Nat) : Parse (List (String × Value)) :=
  let argument := do
    let name ← readName
    expectMark ':'
    return (name, ← readValue true bound)
  readGroup '(' ')' argument bound

/-- The directives that follow. -/
def readDirectives : Nat → Parse (List Directive)
  | 0 => failure
  | bound + 1 => do
    if ← accept (.mark '@') then
      let name ← readName
      let arguments ← readArguments bound
      return { name, arguments } :: (← readDirectives bound)
    return []

/-- A default value, if an equals sign follows. -/
def readDefault? (bound : Nat) : Parse (Option Value) := do
  if ← accept (.mark '=') then return some (← readValue false bound)
  return none

/-- All items up to the end of the tokens; there must be one. -/
def readAll {α : Type} (item : Parse α) : Nat → Parse (List α)
  | 0 => failure
  | bound + 1 => do
    let first ← item
    if (← get).isEmpty then return [first]
    return first :: (← readAll item bound)

/-- The items that the whole text consists of. The reader of an item is given a bound on the number
of tokens. -/
def parseWhole {α : Type} (item : Nat → Parse α) (text : String) : Option (List α) := do
  let tokens ← scan text
  let bound := tokens.length + 1
  (readAll (item bound) bound).run' tokens

end SchemaBindings.Source
