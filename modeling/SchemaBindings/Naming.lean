import SchemaBindings.Text.CamelCase
import SchemaBindings.Text.Lines

/-!
Names of generated declarations, from the names in schemas and documents.
-/

namespace SchemaBindings

open SchemaBindings.Text

/-- How names are converted: left as they are, or each part between underscores put into upper
camel case. -/
inductive NamingConvention
  | keep
  | pascalCase
  deriving Repr, DecidableEq, Inhabited

/-- The style of the names of generated types. -/
structure NameStyle where
  convention : NamingConvention := .pascalCase
  typesPrefix : String := ""
  deriving Repr, DecidableEq, Inhabited

/-- What is done to one name besides the style. -/
structure NameOptions where
  suffix : String := ""
  mergesUnderscores : Bool := false
  usesTypesPrefix : Bool := true
  deriving Repr, DecidableEq, Inhabited

namespace NameStyle

/-- The name in the convention, without additions at its ends. -/
def core (style : NameStyle) (mergesUnderscores : Bool) (name : String) : String :=
  match style.convention with
  | .keep => name
  | .pascalCase =>
    if mergesUnderscores then camelCase name
    else "_".intercalate ((splitAt '_' name).map camelCase)

/-- The converted name. -/
def convertWith (style : NameStyle) (options : NameOptions) (name : String) : String :=
  (if options.usesTypesPrefix then style.typesPrefix else "") ++
    style.core options.mergesUnderscores name ++ options.suffix

/-- The name of the type generated for a schema type. -/
def convert (style : NameStyle) (name : String) : String := style.convertWith {} name

end NameStyle

/-- The name of the constant for a value of an enum whose type is called `enum`. -/
def enumConstantName (enum value : String) : String := enum ++ camelCase value

end SchemaBindings
