import SchemaBindings.Decimal.Binary64

/-!
Input values, as they stand in arguments and defaults.
-/

namespace SchemaBindings

/-- An input value. The fields of an object are kept in the order of their names. -/
inductive Value
  | variable (name : String)
  | int (value : Int)
  | float (value : Decimal.Binary64)
  | string (text : String)
  | boolean (value : Bool)
  | null
  | enumName (name : String)
  | list (items : List Value)
  | object (fields : List (String × Value))
  deriving Repr, Inhabited

/-- Puts a field into an object whose fields are in the order of their names. A field of that name
is replaced. -/
def Value.insertField (name : String) (value : Value) :
    List (String × Value) → List (String × Value)
  | [] => [(name, value)]
  | (key, present) :: rest =>
    if name = key then (name, value) :: rest
    else if name < key then (name, value) :: (key, present) :: rest
    else (key, present) :: insertField name value rest

/-- The object with the given fields; of two fields with one name the later is kept. -/
def Value.ofFields (fields : List (String × Value)) : Value :=
  .object (fields.foldl (fun sorted (name, value) => insertField name value sorted) [])

/-- A directive, with its arguments in the order written. -/
structure Directive where
  name : String
  arguments : List (String × Value) := []
  deriving Repr, Inhabited

end SchemaBindings
