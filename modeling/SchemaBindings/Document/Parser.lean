import SchemaBindings.Document.Definition
import SchemaBindings.Source.Parse

/-!
Reading executable documents.
-/

namespace SchemaBindings

namespace Source

/-- Selections between braces; there must be one. -/
def readSelections : Nat → Parse (List Selection)
  | 0 => failure
  | bound + 1 => do
    expectMark '\x7b'
    let selection : Parse Selection := do
      if ← accept .ellipsis then
        if ← accept (.name "on") then
          let condition ← readName
          let directives ← readDirectives bound
          return .inline (some condition) directives (← readSelections bound)
        match ← readName? with
        | some fragment => return .spread fragment (← readDirectives bound)
        | none =>
          let directives ← readDirectives bound
          return .inline none directives (← readSelections bound)
      let first ← readName
      let (alias?, name) ←
        if ← accept (.mark ':') then pure (some first, ← readName) else pure (none, first)
      let arguments ← readArguments bound
      let directives ← readDirectives bound
      let selections ←
        if (← peek?) = some (.mark '\x7b') then readSelections bound else pure []
      return .field { alias?, name, arguments, directives } selections
    readSome '\x7d' selection bound

/-- A variable of an operation. -/
def readVariable (bound : Nat) : Parse VariableDefinition := do
  expectMark '$'
  let name ← readName
  expectMark ':'
  let type ← readType bound
  let default? ← readDefault? bound
  return { name, type, default? }

/-- An operation whose first word has been taken. -/
def readOperation (kind : OperationKind) (bound : Nat) : Parse Definition := do
  let name? ← readName?
  let variableDefinitions ← readGroup '(' ')' (readVariable bound) bound
  let directives ← readDirectives bound
  let selections ← readSelections bound
  return .operation { kind, name?, variableDefinitions, directives, selections }

/-- A fragment whose first word has been taken. -/
def readFragment (bound : Nat) : Parse Definition := do
  let name ← readName
  expect (.name "on")
  let onType ← readName
  let directives ← readDirectives bound
  let selections ← readSelections bound
  return .fragment { name, onType, directives, selections }

/-- A definition of an executable document. -/
def readDefinition (bound : Nat) : Parse Definition := do
  match ← readName? with
  | some "query" => readOperation .query bound
  | some "mutation" => readOperation .mutation bound
  | some "subscription" => readOperation .subscription bound
  | some "fragment" => readFragment bound
  | some _ => failure
  | none => return .operation { kind := .query, selections := ← readSelections bound }

end Source

/-- The executable document that is written, if there is one. -/
def Document.parse? (text : String) : Option Document :=
  Source.parseWhole Source.readDefinition text

end SchemaBindings
