import SchemaBindings.Comment
import SchemaBindings.Document.Definition
import SchemaBindings.GoType
import SchemaBindings.Schema.Definition

/-!
Fields of generated structs, and the fields for input: variables of operations, arguments, and
fields of input objects.
-/

namespace SchemaBindings

open SchemaBindings.Text

/-- A field of a struct, for what is called `name` in the exchanged data. -/
structure StructField where
  name : String
  type : GoType
  description? : Option String := none
  deriving Repr, DecidableEq, Inhabited

namespace StructField

/-- The identifier of the field. -/
def identifier (field : StructField) : String := camelCase field.name

/-- The field on its own line, without a line feed. -/
def line (field : StructField) : String :=
  "\t" ++ field.identifier ++ " " ++ field.type.text ++ " `json:\"" ++ field.name ++ "\"`"

/-- The line has the type in front of its tag exactly if that is how the type is written. -/
theorem line_eq_iff {field : StructField} {type : String} :
    field.line = "\t" ++ field.identifier ++ " " ++ type ++ " `json:\"" ++ field.name ++ "\"`" ↔
      field.type.text = type := by
  unfold line
  rw [String.append_left_inj, String.append_left_inj, String.append_left_inj,
    String.append_right_inj]

/-- The field below its description. -/
def text (field : StructField) : String := commentText field.description? 1 ++ field.line

/-- The lines of several fields. -/
def block (fields : List StructField) : String := "\n".intercalate (fields.map text)

end StructField

/-- A named place for input. -/
structure InputSlot where
  name : String
  type : TypeRef
  hasDefault : Bool
  description? : Option String := none
  deriving Repr, DecidableEq, Inhabited

/-- The place that a variable of an operation is. -/
def VariableDefinition.slot (definition : VariableDefinition) : InputSlot :=
  { name := definition.name, type := definition.type, hasDefault := definition.default?.isSome }

/-- The place that an argument or a field of an input object is. -/
def InputValue.slot (value : InputValue) : InputSlot :=
  { name := value.name
    type := value.type
    hasDefault := value.default?.isSome
    description? := value.description? }

/-- The field that holds what is put into a place. -/
def InputSlot.field (resolver : TypeResolver) (avoidOptionals : Bool) (slot : InputSlot) :
    StructField :=
  { name := slot.name
    type := resolver.inputType slot.type slot.hasDefault avoidOptionals
    description? := slot.description? }

/-- The type of a field for input is written for the type of its place. -/
theorem InputSlot.base_field (slot : InputSlot) (resolver : TypeResolver) (avoidOptionals : Bool) :
    (slot.field resolver avoidOptionals).type.base = resolver.resolve slot.type.baseName := by
  unfold field TypeResolver.inputType GoType.ofInput
  dsimp only
  split
  · rfl
  · rfl

end SchemaBindings
