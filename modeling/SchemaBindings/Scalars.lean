import SchemaBindings.OrderedMap
import SchemaBindings.Schema.Basic

/-!
The table of scalars: the type that generated code uses for each of them.
-/

namespace SchemaBindings

/-- Scalars and the types that stand for them. -/
abbrev ScalarTable := OrderedMap String String

namespace ScalarTable

/-- The built-in scalars. -/
def builtin : ScalarTable :=
  OrderedMap.ofList [
    ("ID", "string"), ("String", "string"), ("Boolean", "bool"), ("Int", "int"),
    ("Float", "float64")]

/-- The type of a scalar that nothing else is said about. -/
def unknownType : String := "any"

/-- Adds scalars that a schema defines. -/
def addCustom (table : ScalarTable) (names : List String) : ScalarTable :=
  names.foldl (fun table name => table.insertNew name unknownType) table

/-- Sets the types of the overridden scalars. -/
def override (table : ScalarTable) (overrides : OrderedMap String String) : ScalarTable :=
  overrides.entries.foldl (fun table (name, type) => table.insert name type) table

/-- The built-in scalars, then those that the schema defines, then the overrides. -/
def build (schema? : Option Schema) (overrides : OrderedMap String String) : ScalarTable :=
  let custom :=
    match schema? with
    | some schema => schema.customScalars
    | none => []
  (builtin.addCustom custom).override overrides

end ScalarTable

end SchemaBindings
