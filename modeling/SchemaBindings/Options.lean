import SchemaBindings.Data
import SchemaBindings.GoType
import SchemaBindings.Naming

/-!
The options of the plugins.
-/

namespace SchemaBindings

/-- A type that is declared in another package. -/
structure ExternalType where
  importPath : String
  typeName : String
  deriving Repr, DecidableEq, Inhabited

namespace ExternalType

/-- The text before and after the first `separator`. -/
def splitOnce (separator : Char) : List Char → Option (List Char × List Char)
  | [] => none
  | c :: cs =>
    if c = separator then some ([], cs)
    else (splitOnce separator cs).map fun (before, after) => (c :: before, after)

/-- Reads `import/path#Type`; neither part may be empty. -/
def parse? (mapper : String) : Option ExternalType := do
  let (path, type) ← splitOnce '#' mapper.toList
  if path.isEmpty || type.isEmpty then none
  else some { importPath := String.ofList path, typeName := String.ofList type }

/-- The name of the package in code: the last part of its path. -/
def packageName (external : ExternalType) : String :=
  (Text.splitAt '/' external.importPath).getLastD external.importPath

/-- The type as code outside its package writes it. -/
def qualifiedName (external : ExternalType) : String :=
  external.packageName ++ "." ++ external.typeName

/-- The import that the type needs. -/
def importLine (external : ExternalType) : String := "import \"" ++ external.importPath ++ "\""

end ExternalType

/-- What is said about the values of an enum: that it is a type declared elsewhere, or which texts
stand for some of its values. -/
inductive EnumMapping
  | external (mapper : String)
  | overrides (values : OrderedMap String String)
  deriving DecidableEq

/-- The options of a plugin. -/
structure Options where
  addTypename : Bool := false
  avoidOptionals : Bool := false
  constEnums : Bool := false
  dedupeOperationSuffix : Bool := false
  enumValues : OrderedMap String EnumMapping := ∅
  enumsAsTypes : Bool := false
  /-- Lines that are put in front of the generated code. -/
  imports : List String := []
  /-- The package in which types are looked up that are generated elsewhere. -/
  namespacedImportName? : Option String := none
  namingConvention : NamingConvention := .pascalCase
  nonOptionalTypename : Bool := false
  /-- The package of the generated file. -/
  package? : Option String := none
  scalars : OrderedMap String String := ∅
  typesPrefix : String := ""
  deriving DecidableEq

namespace Options

/-- Reads a naming convention: its name, or nothing under a tag of its name. -/
def namingConvention? : Data → Option NamingConvention
  | .string "keep" => some .keep
  | .string "pascalCase" => some .pascalCase
  | .tagged "keep" .null => some .keep
  | .tagged "pascalCase" .null => some .pascalCase
  | _ => none

/-- Reads what is said about an enum. -/
def enumMapping? : Data → Option EnumMapping
  | .string mapper => some (.external mapper)
  | .mapping entries => (Data.readEntries DataKey.bareText? Data.bareString? entries).map .overrides
  | _ => none

/-- Reads options from a mapping. Unknown keys are passed over; a key that is no text, or a value
that does not fit its key, makes the whole unreadable. -/
def ofEntries? (entries : List (DataKey × Data)) : Option Options := do
  let _ ← entries.mapM fun (key, _) => key.text?
  let flag (name : String) : Option Bool := Data.readField entries name Data.bool? false
  let text? (name : String) : Option (Option String) :=
    Data.readField entries name Data.optionalString? none
  return {
    addTypename := ← flag "addTypename"
    avoidOptionals := ← flag "avoidOptionals"
    constEnums := ← flag "constEnums"
    dedupeOperationSuffix := ← flag "dedupeOperationSuffix"
    enumValues := ← Data.readField entries "enumValues" (Data.mapping? enumMapping?) ∅
    enumsAsTypes := ← flag "enumsAsTypes"
    imports := ← Data.readField entries "imports" Data.strings? []
    namespacedImportName? := ← text? "namespacedImportName"
    namingConvention := ←
      Data.readField entries "namingConvention" namingConvention? .pascalCase
    nonOptionalTypename := ← flag "nonOptionalTypename"
    package? := ← text? "package"
    scalars := ← Data.readField entries "scalars" (Data.mapping? Data.string?) ∅
    typesPrefix := ← Data.readField entries "typesPrefix" Data.string? "" }

/-- The external type that an enum is mapped to. -/
def externalEnum? (options : Options) (enum : String) : Option ExternalType :=
  match options.enumValues.find? enum with
  | some (.external mapper) => ExternalType.parse? mapper
  | _ => none

/-- The text that is set for a value of an enum. -/
def enumValueOverride? (options : Options) (enum value : String) : Option String :=
  match options.enumValues.find? enum with
  | some (.overrides values) => values.find? value
  | _ => none

/-- The imports of the enums that are mapped to external types, in the order of the options. -/
def enumImports (options : Options) : List String :=
  (options.enumValues.keys.filterMap options.externalEnum?).map (·.importLine)

/-- The style of type names. -/
def names (options : Options) : NameStyle :=
  { convention := options.namingConvention, typesPrefix := options.typesPrefix }

/-- The package of types that are generated elsewhere, if one is named. -/
def qualifier? (options : Options) : Option String :=
  options.namespacedImportName?.filter (!·.isEmpty)

/-- The scalars of a run. -/
def scalarTable (options : Options) (schema? : Option Schema) : ScalarTable :=
  ScalarTable.build schema? options.scalars

end Options

end SchemaBindings
