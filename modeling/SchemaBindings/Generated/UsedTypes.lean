import SchemaBindings.Document.Definition
import SchemaBindings.Schema.Basic

/-!
The types of a schema that executable documents use: the types of selected fields, the type
conditions of fragments, the types of variables, and what is reached from these through the fields
of input objects.
-/

namespace SchemaBindings

namespace Schema

/-- The names of the types of the fields of an input object; none for other types. -/
def inputFieldTypes (schema : Schema) (name : String) : List String :=
  match schema.type? name with
  | some { body := .inputObject fields, .. } => fields.map (·.type.baseName)
  | _ => []

/-- Adds a type and the types of input that are reached from it. An input object is entered once,
so a bound above the number of definitions is never reached. -/
def mark (schema : Schema) : Nat → List String → String → List String
  | 0, used, _ => used
  | bound + 1, used, name =>
    if name ∈ used then used
    else (schema.inputFieldTypes name).foldl (schema.mark bound) (used ++ [name])

/-- Adds a type and the types of input that are reached from it. -/
def markUsed (schema : Schema) (used : List String) (name : String) : List String :=
  schema.mark (schema.definitions.length + 2) used name

mutual

/-- Adds what a selection on `parent` uses. A spread uses nothing where it stands: the fragment is
a definition of its own. -/
def markSelection (schema : Schema) (parent : String) (used : List String) :
    Selection → List String
  | .field call selections =>
    match schema.fieldType? parent call.name with
    | some type =>
      schema.markSelections type.baseName (schema.markUsed used type.baseName) selections
    | none => used
  | .spread _ _ => used
  | .inline condition? _ selections =>
    let onType := condition?.getD parent
    schema.markSelections onType (schema.markUsed used onType) selections

/-- Adds what selections on `parent` use. -/
def markSelections (schema : Schema) (parent : String) (used : List String) :
    List Selection → List String
  | [] => used
  | selection :: rest =>
    schema.markSelections parent (schema.markSelection parent used selection) rest

end

/-- Adds what a definition uses. -/
def markDefinition (schema : Schema) (used : List String) : Definition → List String
  | .fragment fragment =>
    schema.markSelections fragment.onType (schema.markUsed used fragment.onType)
      fragment.selections
  | .operation operation =>
    let used := (operation.variableDefinitions.map (·.type.baseName)).foldl schema.markUsed used
    match schema.rootType? operation.kind with
    | some root => schema.markSelections root (schema.markUsed used root) operation.selections
    | none => used

/-- The types that a document uses. -/
def usedTypes (schema : Schema) (document : Document) : List String :=
  document.foldl schema.markDefinition []

end Schema

end SchemaBindings
