import SchemaBindings.Declaration
import SchemaBindings.Generated.SelectionStruct
import SchemaBindings.Generated.StructField
import SchemaBindings.Options

/-!
The declarations for the definitions of an executable document: for a fragment the type of its
selections, for an operation with a name the types of its variables and of its result.
-/

namespace SchemaBindings

/-- The ending of the type names of an operation. If a doubled one is to be avoided, a name that
ends in it already gets none. -/
def operationSuffix (name : String) (kind : OperationKind) (dedupe : Bool) : String :=
  if dedupe && kind.typeSuffix.toList.isSuffixOf name.toList then "" else kind.typeSuffix

/-- What the declarations depend on besides the definition they are for. -/
structure OperationGenerator where
  schema : Schema
  options : Options
  scalars : ScalarTable
  fragments : FragmentRegistry
  style : BlockStyle := {}

namespace OperationGenerator

/-- The generator for the definitions of a document under the options. -/
def ofSchema (schema : Schema) (options : Options) (fragments : FragmentRegistry) :
    OperationGenerator :=
  { schema, options, scalars := options.scalarTable (some schema), fragments }

/-- How schema types are referred to: scalars by the type that stands for them. -/
def resolver (generator : OperationGenerator) : TypeResolver :=
  { names := generator.options.names
    qualifier? := generator.options.qualifier?
    scalarReference := .goType
    scalars := generator.scalars }

/-- What selections are read against. -/
def selectionContext (generator : OperationGenerator) : SelectionContext :=
  { schema := generator.schema
    fragments := generator.fragments
    resolver := generator.resolver
    options :=
      { addTypename := generator.options.addTypename
        avoidOptionals := generator.options.avoidOptionals
        qualifier? := generator.options.qualifier?
        nonOptionalTypename := generator.options.nonOptionalTypename } }

/-- The type declared for a fragment. -/
def fragmentTypeName (generator : OperationGenerator) (name : String) : String :=
  SchemaBindings.fragmentTypeName generator.options.names generator.options.qualifier? name false

/-- The ending of the type names of an operation under the options. -/
def suffix (generator : OperationGenerator) (name : String) (kind : OperationKind) : String :=
  operationSuffix name kind generator.options.dedupeOperationSuffix

/-- The type declared for the result of an operation. -/
def resultTypeName (generator : OperationGenerator) (name : String) (kind : OperationKind) :
    String :=
  generator.options.names.convertWith { suffix := generator.suffix name kind } name

/-- The type declared for the variables of an operation. -/
def variablesTypeName (generator : OperationGenerator) (name : String) (kind : OperationKind) :
    String :=
  generator.options.names.convertWith { suffix := generator.suffix name kind ++ "Variables" } name

/-- The struct fields for the variables of an operation. -/
def variableFields (generator : OperationGenerator) (operation : Operation) : List StructField :=
  operation.variableDefinitions.map fun definition =>
    definition.slot.field generator.resolver generator.options.avoidOptionals

/-- The declaration for a fragment. -/
def fragmentText (generator : OperationGenerator) (fragment : Fragment) : Generation String := do
  if (generator.schema.kind? fragment.onType).isNone then throw (.unknownType fragment.onType)
  let content ← generator.selectionContext.structText fragment.onType fragment.selections
  let declaration : Declaration := { name := generator.fragmentTypeName fragment.name, content }
  return declaration.text generator.style

/-- The declarations for an operation with a name. -/
def namedOperationText (generator : OperationGenerator) (operation : Operation) (name : String) :
    Generation String := do
  let some root := generator.schema.rootType? operation.kind
    | throw (.missingRootType operation.kind)
  let content ← generator.selectionContext.structText root operation.selections
  let input : Declaration :=
    { name := generator.variablesTypeName name operation.kind
      kind? := some .struct
      block := StructField.block (generator.variableFields operation) }
  let result : Declaration := { name := generator.resultTypeName name operation.kind, content }
  return input.text generator.style ++ "\n" ++ result.text generator.style

/-- The declarations for a definition. An operation without a name gets none. -/
def definitionText? (generator : OperationGenerator) : Definition → Generation (Option String)
  | .fragment fragment => return some (← generator.fragmentText fragment)
  | .operation operation => do
    match operation.name? with
    | some name => return some (← generator.namedOperationText operation name)
    | none =>
      Generation.warn (.anonymousOperation operation.kind)
      return none

/-- The declarations for all definitions of a document. -/
def texts (generator : OperationGenerator) (document : Document) : Generation (List String) := do
  return (← document.mapM generator.definitionText?).filterMap id

end OperationGenerator

end SchemaBindings
