import SchemaBindings.Document.Value
import SchemaBindings.TypeRef

/-!
Schema documents: definitions of types and directives, extensions of types, and the choice of root
types.
-/

namespace SchemaBindings

/-- An argument of a field, or a field of an input object. -/
structure InputValue where
  name : String
  type : TypeRef
  default? : Option Value := none
  description? : Option String := none
  directives : List Directive := []
  deriving Repr, Inhabited

/-- A field of an object or an interface. -/
structure FieldDefinition where
  name : String
  type : TypeRef
  arguments : List InputValue := []
  description? : Option String := none
  directives : List Directive := []
  deriving Repr, Inhabited

/-- A value of an enum. -/
structure EnumValue where
  name : String
  description? : Option String := none
  directives : List Directive := []
  deriving Repr, Inhabited

/-- The kinds of types. -/
inductive TypeKind
  | enum
  | inputObject
  | interface
  | object
  | scalar
  | union
  deriving Repr, DecidableEq, Inhabited

/-- Scalars and enums are leaves: they are never selected from. -/
def TypeKind.isLeaf : TypeKind → Bool
  | scalar => true
  | enum => true
  | _ => false

/-- A type of an abstract kind stands for several object types. -/
def TypeKind.isAbstract : TypeKind → Bool
  | interface => true
  | union => true
  | _ => false

/-- What a type consists of. -/
inductive TypeBody
  | enum (values : List EnumValue)
  | inputObject (fields : List InputValue)
  | interface (interfaces : List String) (fields : List FieldDefinition)
  | object (interfaces : List String) (fields : List FieldDefinition)
  | scalar
  | union (members : List String)
  deriving Repr, Inhabited

namespace TypeBody

/-- The kind of a type with this body. -/
def kind : TypeBody → TypeKind
  | enum _ => .enum
  | inputObject _ => .inputObject
  | interface _ _ => .interface
  | object _ _ => .object
  | scalar => .scalar
  | union _ => .union

/-- The fields of an object or an interface. -/
def outputFields : TypeBody → List FieldDefinition
  | object _ fields => fields
  | interface _ fields => fields
  | enum _ | inputObject _ | scalar | union _ => []

/-- The fields of an input object. -/
def inputFields : TypeBody → List InputValue
  | inputObject fields => fields
  | enum _ | interface _ _ | object _ _ | scalar | union _ => []

/-- The body followed by an addition of the same kind. -/
def append? : TypeBody → TypeBody → Option TypeBody
  | enum values, enum more => some (enum (values ++ more))
  | inputObject fields, inputObject more => some (inputObject (fields ++ more))
  | interface interfaces fields, interface moreInterfaces more =>
    some (interface (interfaces ++ moreInterfaces) (fields ++ more))
  | object interfaces fields, object moreInterfaces more =>
    some (object (interfaces ++ moreInterfaces) (fields ++ more))
  | scalar, scalar => some scalar
  | union members, union more => some (union (members ++ more))
  | _, _ => none

/-- Bodies join exactly when they are of one kind. -/
theorem append?_isSome_iff (body addition : TypeBody) :
    (body.append? addition).isSome ↔ body.kind = addition.kind := by
  cases body <;> cases addition <;> simp [append?, kind]

end TypeBody

/-- A type and its name. -/
structure TypeDefinition where
  name : String
  description? : Option String := none
  directives : List Directive := []
  body : TypeBody
  deriving Repr, Inhabited

/-- The kind of the type. -/
def TypeDefinition.kind (definition : TypeDefinition) : TypeKind := definition.body.kind

/-- An addition to the type of the given name. -/
structure TypeExtension where
  name : String
  directives : List Directive := []
  body : TypeBody
  deriving Repr, Inhabited

/-- The explicit choice of root types. -/
structure RootTypes where
  query? : Option String := none
  mutation? : Option String := none
  subscription? : Option String := none
  directives : List Directive := []
  deriving Repr, Inhabited

/-- A definition of a directive. -/
structure DirectiveDefinition where
  name : String
  description? : Option String := none
  arguments : List InputValue := []
  repeatable : Bool := false
  locations : List String := []
  deriving Repr, Inhabited

/-- A definition that stays in a schema. -/
inductive SchemaDefinition
  | roots (roots : RootTypes)
  | type (definition : TypeDefinition)
  | directive (definition : DirectiveDefinition)
  deriving Repr, Inhabited

/-- A part of a schema document. -/
inductive SchemaItem
  | definition (definition : SchemaDefinition)
  | extension (extension : TypeExtension)
  deriving Repr, Inhabited

/-- A schema document. -/
abbrev SchemaDocument := List SchemaItem

end SchemaBindings
