import SchemaBindings.Document.Value

/-!
Selections: what a document asks for on a type.
-/

namespace SchemaBindings

/-- A selected field, without its sub-selections. -/
structure FieldCall where
  alias? : Option String := none
  name : String
  arguments : List (String × Value) := []
  directives : List Directive := []
  deriving Repr, Inhabited

namespace FieldCall

/-- The key of the field in the response: its alias, or else its name. -/
def responseName (call : FieldCall) : String := call.alias?.getD call.name

/-- Whether a directive may leave the field out of the response. -/
def isConditional (call : FieldCall) : Bool :=
  call.directives.any fun directive => directive.name == "skip" || directive.name == "include"

end FieldCall

/-- One selection. A field without sub-selections has an empty list of them. -/
inductive Selection
  | field (call : FieldCall) (selections : List Selection)
  | spread (fragment : String) (directives : List Directive)
  | inline (condition? : Option String) (directives : List Directive) (selections : List Selection)
  deriving Repr, Inhabited

namespace Selection

mutual

/-- The nesting depth of a selection. -/
def height : Selection → Nat
  | field _ selections => heights selections + 1
  | spread _ _ => 1
  | inline _ _ selections => heights selections + 1

/-- The nesting depth of a list of selections. -/
def heights : List Selection → Nat
  | [] => 0
  | selection :: rest => max (height selection) (heights rest)

end

mutual

/-- The names of the fragments spread in a selection, in document order. -/
def spreadNames : Selection → List String
  | field _ selections => spreadNamesOf selections
  | spread fragment _ => [fragment]
  | inline _ _ selections => spreadNamesOf selections

/-- The names of the fragments spread in a list of selections, in document order. -/
def spreadNamesOf : List Selection → List String
  | [] => []
  | selection :: rest => spreadNames selection ++ spreadNamesOf rest

end

end Selection

end SchemaBindings
