import SchemaBindings.Declaration
import SchemaBindings.Generated.StructField
import SchemaBindings.Options

/-!
The declarations for the types of a schema. Each definition gives a list of items, which say what is
declared; `TypeItem.text` is how an item is written.
-/

namespace SchemaBindings

open SchemaBindings.Text

/-- A constant for a value of an enum. -/
structure EnumConstant where
  name : String
  value : String
  description? : Option String := none
  deriving Repr, DecidableEq, Inhabited

/-- The constant on its line, below its description. -/
def EnumConstant.text (enum : String) (constant : EnumConstant) : String :=
  commentText constant.description? 1 ++ "\t" ++ constant.name ++ " " ++ enum ++ " = \"" ++
    constant.value ++ "\""

/-- What is declared for a type of a schema. -/
inductive TypeItem
  /-- A struct with its fields and the interfaces it is marked with. -/
  | record (name : String) (description? : Option String) (fields : List StructField)
      (interfaces : List String)
  /-- A struct that only names the members of a union. -/
  | union (name : String) (description? : Option String) (members : List String)
  /-- A string type with a constant for each value, and a check of them if asked for. -/
  | constants (name : String) (description? : Option String) (values : List EnumConstant)
      (checked : Bool)
  /-- A string type whose comment lists the values. -/
  | plainString (name : String) (description? : Option String) (values : List String)
  /-- Another name for a type declared elsewhere. -/
  | typeAlias (name : String) (description? : Option String) (target : ExternalType)
  deriving Repr, DecidableEq, Inhabited

namespace TypeItem

/-- The list of all constants of an enum, and the method that tells whether a value is one. -/
def checkText (enum : String) (values : List EnumConstant) : String :=
  let listed := "\n".intercalate (values.map fun value => "\t" ++ value.name ++ ",")
  let cases := ", ".intercalate (values.map (·.name))
  "var All" ++ enum ++ " = []" ++ enum ++ "\x7b\n" ++ listed ++ "\n\x7d\n\n" ++
    "func (e " ++ enum ++ ") IsValid() bool \x7b\n" ++
    "\tswitch e \x7b\n" ++
    "\tcase " ++ cases ++ ":\n" ++
    "\t\treturn true\n" ++
    "\t\x7d\n" ++
    "\treturn false\n" ++
    "\x7d\n"

/-- The description with the allowed values after it. -/
def describeValues (description? : Option String) (values : List String) : String :=
  let listed := values.map fun value => "\"" ++ value ++ "\""
  let allowed := "Allowed values: " ++ ", ".intercalate listed
  let description := trim (description?.getD "")
  if description.isEmpty then allowed else description ++ "\n\n" ++ allowed

/-- The item as it is written, with a line feed at its end. -/
def text (style : BlockStyle) : TypeItem → String
  | record name description? fields interfaces =>
    let declaration : Declaration :=
      { name
        kind? := some .struct
        block := StructField.block fields
        implements := interfaces }
    (declaration.describe description?).text style
  | union name description? members =>
    let declaration : Declaration :=
      { name
        kind? := some .struct
        block := "\t// " ++ " | ".intercalate members }
    (declaration.describe description?).text style
  | constants name description? values checked =>
    let declaration : Declaration := { name, kind? := some .enum }
    (declaration.describe description?).text style ++ "\nconst (\n" ++
      "\n".intercalate (values.map (EnumConstant.text name)) ++ "\n)\n" ++
      (if checked then "\n" ++ checkText name values else "")
  | plainString name description? values =>
    let declaration : Declaration := { name, kind? := some .enum }
    (declaration.describe (some (describeValues description? values))).text style
  | typeAlias name description? target =>
    let declaration : Declaration := { name, content := "= " ++ target.qualifiedName }
    (declaration.describe description?).text style

end TypeItem

/-- What the declarations depend on besides the definition they are for. -/
structure TypeGenerator where
  options : Options
  scalars : ScalarTable
  style : BlockStyle := {}
  /-- The objects and enums that are declared; all of them where no list is given. -/
  included? : Option (List String) := none

namespace TypeGenerator

/-- The generator for a schema under the options. -/
def ofSchema (schema : Schema) (options : Options) : TypeGenerator :=
  { options, scalars := options.scalarTable (some schema) }

/-- How types refer to each other: a scalar by its own name, which the output declares. -/
def resolver (generator : TypeGenerator) : TypeResolver :=
  { names := generator.options.names
    scalarReference := .declaredName
    scalars := generator.scalars }

/-- Whether the object or enum is declared. -/
def includes (generator : TypeGenerator) (name : String) : Bool :=
  match generator.included? with
  | some names => names.contains name
  | none => true

/-- The field for a field of an object or an interface. -/
def outputField (generator : TypeGenerator) (field : FieldDefinition) : StructField :=
  { name := field.name
    type := generator.resolver.outputType field.type generator.options.avoidOptionals
    description? := field.description? }

/-- The field for an argument or for a field of an input object. -/
def inputField (generator : TypeGenerator) (value : InputValue) : StructField :=
  value.slot.field generator.resolver generator.options.avoidOptionals

/-- The struct for the arguments of a field, if it has any. -/
def argumentsItem? (generator : TypeGenerator) (type : String) (field : FieldDefinition) :
    Option TypeItem :=
  if field.arguments.isEmpty then none
  else
    some (.record (type ++ camelCase field.name ++ "Args") none
      (field.arguments.map generator.inputField) [])

/-- The items for an object or an interface: its struct, then those for arguments. -/
def compositeItems (generator : TypeGenerator) (definition : TypeDefinition)
    (interfaces : List String) (fields : List FieldDefinition) : List TypeItem :=
  let names := generator.options.names
  let name := names.convert definition.name
  .record name definition.description? (fields.map generator.outputField)
      (interfaces.map names.convert) ::
    fields.filterMap (generator.argumentsItem? name)

/-- The text that stands for a value of an enum. -/
def enumValueText (generator : TypeGenerator) (enum value : String) : String :=
  (generator.options.enumValueOverride? enum value).getD value

/-- The item for an enum. -/
def enumItem (generator : TypeGenerator) (definition : TypeDefinition)
    (values : List EnumValue) : TypeItem :=
  let name := generator.options.names.convert definition.name
  match generator.options.externalEnum? definition.name with
  | some target => .typeAlias name definition.description? target
  | none =>
    if generator.options.enumsAsTypes then
      .plainString name definition.description?
        (values.map fun value => generator.enumValueText definition.name value.name)
    else
      .constants name definition.description?
        (values.map fun value =>
          { name := enumConstantName name value.name
            value := generator.enumValueText definition.name value.name
            description? := value.description? })
        generator.options.constEnums

/-- The items for a type. Scalars have none: they are declared in the scalars header. -/
def typeItems (generator : TypeGenerator) (definition : TypeDefinition) : List TypeItem :=
  let name := generator.options.names.convert definition.name
  match definition.body with
  | .enum values =>
    if generator.includes definition.name then [generator.enumItem definition values] else []
  | .inputObject fields =>
    [.record name definition.description? (fields.map generator.inputField) []]
  | .interface interfaces fields => generator.compositeItems definition interfaces fields
  | .object interfaces fields =>
    if generator.includes definition.name then
      generator.compositeItems definition interfaces fields
    else []
  | .scalar => []
  | .union members =>
    [.union name definition.description? (members.map generator.resolver.resolve)]

/-- The items for a definition. -/
def items (generator : TypeGenerator) : SchemaDefinition → List TypeItem
  | .type definition => generator.typeItems definition
  | .roots _ => []
  | .directive _ => []

/-- The text for a definition, if anything is declared for it. -/
def text? (generator : TypeGenerator) (definition : SchemaDefinition) : Option String :=
  let items := generator.items definition
  if items.isEmpty then none else some ("\n".intercalate (items.map (·.text generator.style)))

/-- The texts for all definitions of a schema. -/
def texts (generator : TypeGenerator) (schema : Schema) : List String :=
  schema.definitions.filterMap generator.text?

/-- The declaration of a scalar, below its description. -/
def scalarText (schema : Schema) (name type : String) : String :=
  commentText (schema.description? name) 0 ++ "type " ++ name ++ " " ++ type

/-- The declarations of all scalars. -/
def scalarsText (generator : TypeGenerator) (schema : Schema) : String :=
  "\n".intercalate (generator.scalars.entries.map fun (name, type) => scalarText schema name type)

end TypeGenerator

end SchemaBindings
