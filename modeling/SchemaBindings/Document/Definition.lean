import SchemaBindings.Document.Selection
import SchemaBindings.TypeRef

/-!
Executable documents: operations and fragments.
-/

namespace SchemaBindings

/-- The kinds of operations. -/
inductive OperationKind
  | query
  | mutation
  | subscription
  deriving Repr, DecidableEq, Inhabited

namespace OperationKind

/-- The word that starts an operation of the kind. -/
def keyword : OperationKind → String
  | query => "query"
  | mutation => "mutation"
  | subscription => "subscription"

/-- The ending of the type names of operations of the kind. -/
def typeSuffix : OperationKind → String
  | query => "Query"
  | mutation => "Mutation"
  | subscription => "Subscription"

end OperationKind

/-- A variable of an operation. -/
structure VariableDefinition where
  name : String
  type : TypeRef
  default? : Option Value := none
  deriving Repr, Inhabited

/-- An operation. A selection set on its own is a query without a name. -/
structure Operation where
  kind : OperationKind
  name? : Option String := none
  variableDefinitions : List VariableDefinition := []
  directives : List Directive := []
  selections : List Selection
  deriving Repr, Inhabited

/-- A named fragment and the type it is on. -/
structure Fragment where
  name : String
  onType : String
  directives : List Directive := []
  selections : List Selection
  deriving Repr, Inhabited

/-- A definition of an executable document. -/
inductive Definition
  | operation (operation : Operation)
  | fragment (fragment : Fragment)
  deriving Repr, Inhabited

/-- The selections of a definition. -/
def Definition.selections : Definition → List Selection
  | .operation body => body.selections
  | .fragment body => body.selections

/-- An executable document. -/
abbrev Document := List Definition

/-- The fragments that a document defines, in order. -/
def Document.fragments (document : Document) : List Fragment :=
  document.filterMap fun
    | .fragment fragment => some fragment
    | .operation _ => none

/-- An executable document and the place it was read from. -/
structure DocumentFile where
  location? : Option String := none
  document : Document
  deriving Inhabited

/-- The definitions of all files, as one document. -/
def DocumentFile.concat (files : List DocumentFile) : Document := files.flatMap (·.document)

end SchemaBindings
