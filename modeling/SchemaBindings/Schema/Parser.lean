import SchemaBindings.Schema.Definition
import SchemaBindings.Source.Parse

/-!
Reading schema documents.
-/

namespace SchemaBindings

namespace Source

/-- A description in front of a definition, if there is one. -/
def readDescription? : Parse (Option String) := do
  match ← get with
  | .quotedText body :: rest =>
    set rest
    match unescape body with
    | some cs => return some (String.ofList cs)
    | none => failure
  | .blockText body :: rest =>
    set rest
    return some (blockValue body)
  | _ => return none

/-- An argument, or a field of an input object. -/
def readInputValue (bound : Nat) : Parse InputValue := do
  let description? ← readDescription?
  let name ← readName
  expectMark ':'
  let type ← readType bound
  let default? ← readDefault? bound
  let directives ← readDirectives bound
  return { name, type, default?, description?, directives }

/-- A field of an object or an interface. -/
def readField (bound : Nat) : Parse FieldDefinition := do
  let description? ← readDescription?
  let name ← readName
  let arguments ← readGroup '(' ')' (readInputValue bound) bound
  expectMark ':'
  let type ← readType bound
  let directives ← readDirectives bound
  return { name, type, arguments, description?, directives }

/-- A value of an enum. -/
def readEnumValue (bound : Nat) : Parse EnumValue := do
  let description? ← readDescription?
  let name ← readName
  let directives ← readDirectives bound
  return { name, description?, directives }

/-- The interfaces after the word `implements`, if any. -/
def readInterfaces (bound : Nat) : Parse (List String) := do
  if ← accept (.name "implements") then
    let _ ← accept (.mark '&')
    readSeparated '&' readName bound
  else return []

/-- The members after the equals sign, if any. -/
def readMembers (bound : Nat) : Parse (List String) := do
  if ← accept (.mark '=') then
    let _ ← accept (.mark '|')
    readSeparated '|' readName bound
  else return []

/-- Items between braces, if any. -/
def readBraced {α : Type} (item : Parse α) (bound : Nat) : Parse (List α) :=
  readGroup '\x7b' '\x7d' item bound

/-- The directives and the body of a type whose kind and name have been taken. -/
def readBody (kind : TypeKind) (bound : Nat) : Parse (List Directive × TypeBody) := do
  match kind with
  | .enum =>
    let directives ← readDirectives bound
    return (directives, .enum (← readBraced (readEnumValue bound) bound))
  | .inputObject =>
    let directives ← readDirectives bound
    return (directives, .inputObject (← readBraced (readInputValue bound) bound))
  | .interface =>
    let interfaces ← readInterfaces bound
    let directives ← readDirectives bound
    return (directives, .interface interfaces (← readBraced (readField bound) bound))
  | .object =>
    let interfaces ← readInterfaces bound
    let directives ← readDirectives bound
    return (directives, .object interfaces (← readBraced (readField bound) bound))
  | .scalar => return (← readDirectives bound, .scalar)
  | .union =>
    let directives ← readDirectives bound
    return (directives, .union (← readMembers bound))

/-- The kind of type that a word introduces. -/
def typeKind? : String → Option TypeKind
  | "enum" => some .enum
  | "input" => some .inputObject
  | "interface" => some .interface
  | "type" => some .object
  | "scalar" => some .scalar
  | "union" => some .union
  | _ => none

/-- Whether an extension adds something. Interfaces that an interface implements do not count. -/
def addsSomething (directives : List Directive) (body : TypeBody) : Bool :=
  !directives.isEmpty ||
    match body with
    | .enum values => !values.isEmpty
    | .inputObject fields => !fields.isEmpty
    | .interface _ fields => !fields.isEmpty
    | .object interfaces fields => !interfaces.isEmpty || !fields.isEmpty
    | .scalar => false
    | .union members => !members.isEmpty

/-- An extension whose first word has been taken. -/
def readExtension (bound : Nat) : Parse TypeExtension := do
  let some kind := typeKind? (← readName) | failure
  let name ← readName
  let (directives, body) ← readBody kind bound
  if addsSomething directives body then return { name, directives, body } else failure

/-- Adds one entry of a choice of root types, unless it has been chosen already. -/
def addRoot (roots : RootTypes) (key type : String) : Option RootTypes :=
  match key with
  | "query" => if roots.query?.isNone then some { roots with query? := type } else none
  | "mutation" => if roots.mutation?.isNone then some { roots with mutation? := type } else none
  | "subscription" =>
    if roots.subscription?.isNone then some { roots with subscription? := type } else none
  | _ => none

/-- A choice of root types whose first word has been taken. -/
def readRoots (bound : Nat) : Parse RootTypes := do
  let directives ← readDirectives bound
  expectMark '\x7b'
  let entry := do
    let key ← readName
    expectMark ':'
    return (key, ← readName)
  let entries ← readUntil '\x7d' entry bound
  match entries.foldlM (fun roots (key, type) => addRoot roots key type) { directives } with
  | some roots => return roots
  | none => failure

/-- The places where a directive may be allowed. -/
def directiveLocations : List String := [
  "QUERY", "MUTATION", "SUBSCRIPTION", "FIELD", "FRAGMENT_DEFINITION", "FRAGMENT_SPREAD",
  "INLINE_FRAGMENT", "VARIABLE_DEFINITION", "SCHEMA", "SCALAR", "OBJECT", "FIELD_DEFINITION",
  "ARGUMENT_DEFINITION", "INTERFACE", "UNION", "ENUM", "ENUM_VALUE", "INPUT_OBJECT",
  "INPUT_FIELD_DEFINITION"]

/-- The name of a place. -/
def readLocation : Parse String := do
  let name ← readName
  if directiveLocations.contains name then return name else failure

/-- A definition of a directive whose first word has been taken. The list of places may be empty,
unless a separator leads it. -/
def readDirectiveDefinition (description? : Option String) (bound : Nat) :
    Parse DirectiveDefinition := do
  expectMark '@'
  let name ← readName
  let arguments ← readGroup '(' ')' (readInputValue bound) bound
  let repeatable ← accept (.name "repeatable")
  expect (.name "on")
  let led ← accept (.mark '|')
  let locations ←
    match led, ← peek? with
    | true, _ => readSeparated '|' readLocation bound
    | false, some (.name _) => readSeparated '|' readLocation bound
    | false, _ => pure []
  return { name, description?, arguments, repeatable, locations }

/-- A definition that may have a description. -/
def readDescribed (description? : Option String) (word : String) (bound : Nat) :
    Parse SchemaDefinition := do
  if word = "directive" then return .directive (← readDirectiveDefinition description? bound)
  let some kind := typeKind? word | failure
  let name ← readName
  let (directives, body) ← readBody kind bound
  return .type { name, description?, directives, body }

/-- A part of a schema document. -/
def readSchemaItem (bound : Nat) : Parse SchemaItem := do
  match ← readDescription? with
  | some text => return .definition (← readDescribed (some text) (← readName) bound)
  | none =>
    match ← readName with
    | "schema" => return .definition (.roots (← readRoots bound))
    | "extend" => return .extension (← readExtension bound)
    | word => return .definition (← readDescribed none word bound)

end Source

/-- The schema document that is written, if there is one. -/
def SchemaDocument.parse? (text : String) : Option SchemaDocument :=
  Source.parseWhole Source.readSchemaItem text

end SchemaBindings
