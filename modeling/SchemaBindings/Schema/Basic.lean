import SchemaBindings.Report
import SchemaBindings.Schema.Parser

/-!
Schemas: the definitions of one or more documents, with every extension merged into the type it
extends. An extension of a type that is not defined, or is of another kind, is left out with a
warning. Of several definitions of one name the last is the one that counts.
-/

namespace SchemaBindings

/-- Definitions with the extensions merged, and the names of the root types. -/
structure Schema where
  definitions : List SchemaDefinition
  query? : Option String
  mutation? : Option String
  subscription? : Option String
  deriving Repr, Inhabited

namespace Schema

/-- The last type definition of the name. -/
def lastType? (name : String) : List SchemaDefinition → Option TypeDefinition
  | [] => none
  | .type type :: rest =>
    match lastType? name rest with
    | some later => some later
    | none => if type.name = name then some type else none
  | _ :: rest => lastType? name rest

/-- Changes the last type definition of the name. -/
def modifyLast (name : String) (change : TypeDefinition → TypeDefinition) :
    List SchemaDefinition → List SchemaDefinition
  | [] => []
  | .type type :: rest =>
    if type.name = name ∧ (lastType? name rest).isNone then .type (change type) :: rest
    else .type type :: modifyLast name change rest
  | other :: rest => other :: modifyLast name change rest

/-- Adds an extension to the last type of its name, if that has its kind. -/
def extend (definitions : List SchemaDefinition) (extension : TypeExtension) :
    Logged (List SchemaDefinition) := do
  match lastType? extension.name definitions with
  | none =>
    Logged.warn (.extensionOfUndefined extension.name)
    return definitions
  | some type =>
    match type.body.append? extension.body with
    | none =>
      Logged.warn (.extensionOfOtherKind extension.name)
      return definitions
    | some body =>
      let change (type : TypeDefinition) : TypeDefinition :=
        { type with directives := type.directives ++ extension.directives, body }
      return modifyLast extension.name change definitions

/-- The definitions of a document that are no extensions. -/
def ownDefinitions (document : SchemaDocument) : List SchemaDefinition :=
  document.filterMap fun
    | .definition definition => some definition
    | .extension _ => none

/-- The extensions of a document. -/
def extensions (document : SchemaDocument) : List TypeExtension :=
  document.filterMap fun
    | .definition _ => none
    | .extension extension => some extension

/-- The last explicit choice of root types. -/
def lastRoots? (definitions : List SchemaDefinition) : Option RootTypes :=
  (definitions.filterMap fun
    | .roots roots => some roots
    | _ => none).getLast?

/-- The name itself, if the last type of that name is an object. -/
def objectNamed? (definitions : List SchemaDefinition) (name : String) : Option String :=
  match lastType? name definitions with
  | some type => if type.kind = .object then some name else none
  | none => none

/-- The schema with the given definitions. Its root types are those of the last explicit choice;
where there is none, they are the objects called `Query`, `Mutation` and `Subscription`. -/
def ofDefinitions (definitions : List SchemaDefinition) : Schema :=
  match lastRoots? definitions with
  | some roots =>
    { definitions
      query? := roots.query?
      mutation? := roots.mutation?
      subscription? := roots.subscription? }
  | none =>
    { definitions
      query? := objectNamed? definitions "Query"
      mutation? := objectNamed? definitions "Mutation"
      subscription? := objectNamed? definitions "Subscription" }

theorem definitions_ofDefinitions (definitions : List SchemaDefinition) :
    (ofDefinitions definitions).definitions = definitions := by
  unfold ofDefinitions
  split
  · rfl
  · rfl

/-- The schema of a document. -/
def ofDocument (document : SchemaDocument) : Logged Schema := do
  let definitions ← (extensions document).foldlM extend (ownDefinitions document)
  return ofDefinitions definitions

/-- The schema of several documents, as if they were one. -/
def ofDocuments (documents : List SchemaDocument) : Logged Schema := ofDocument documents.flatten

/-- Reads a schema document. -/
def readDocument (file? : Option String) (text : String) :
    Except GenerationError SchemaDocument :=
  match SchemaDocument.parse? text with
  | some document => .ok document
  | none => .error (.schemaUnreadable file?)

/-- The last type definition of the name. -/
def type? (schema : Schema) (name : String) : Option TypeDefinition :=
  lastType? name schema.definitions

/-- The scalars that need no definition. -/
def builtinScalars : List String := ["Boolean", "Float", "ID", "Int", "String"]

/-- The kind of the type; a built-in scalar has one without a definition. -/
def kind? (schema : Schema) (name : String) : Option TypeKind :=
  match schema.type? name with
  | some type => some type.kind
  | none => if builtinScalars.contains name then some .scalar else none

/-- Whether the name stands for several object types. -/
def isAbstract (schema : Schema) (name : String) : Bool :=
  match schema.kind? name with
  | some kind => kind.isAbstract
  | none => false

/-- The type that operations of the kind select from. -/
def rootType? (schema : Schema) : OperationKind → Option String
  | .query => schema.query?
  | .mutation => schema.mutation?
  | .subscription => schema.subscription?

/-- The object types that declare the interface, in schema order. -/
def implementingTypes (schema : Schema) (interface : String) : List String :=
  schema.definitions.filterMap fun
    | .type { name, body := .object interfaces _, .. } =>
      if interfaces.contains interface then some name else none
    | _ => none

/-- The field that tells the name of a type. -/
def typenameField : String := "__typename"

/-- The type of a field of an object or an interface. Every type has the field `__typename`. -/
def fieldType? (schema : Schema) (parent field : String) : Option TypeRef :=
  if field = typenameField then some (.nonNull (.named "String"))
  else
    match schema.type? parent with
    | some { body := .object _ fields, .. } => (fields.find? (·.name == field)).map (·.type)
    | some { body := .interface _ fields, .. } => (fields.find? (·.name == field)).map (·.type)
    | _ => none

/-- The scalars that are defined, in schema order. -/
def customScalars (schema : Schema) : List String :=
  schema.definitions.filterMap fun
    | .type { name, body := .scalar, .. } => some name
    | _ => none

/-- The description of a type. -/
def description? (schema : Schema) (name : String) : Option String :=
  (schema.type? name).bind (·.description?)

end Schema

end SchemaBindings
