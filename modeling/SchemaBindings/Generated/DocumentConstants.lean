import SchemaBindings.Document.Printer
import SchemaBindings.FragmentRegistry
import SchemaBindings.Options
import SchemaBindings.Text.RawString

/-!
Constants that hold the printed text of fragments and operations. The constant of an operation is
followed by references to the constants of all fragments it needs.
-/

namespace SchemaBindings

/-- The fragments found so far on a walk through spreads. -/
structure SpreadSearch where
  /-- All names met, known or not. -/
  seen : List String := []
  /-- The known fragments, in the order of discovery. -/
  found : List String := []
  deriving Repr, DecidableEq, Inhabited

namespace FragmentRegistry

/-- Follows one spread: a fragment met for the first time is noted, and the spreads in it are
followed before the next one. Each fragment that is entered is one of the registry and is entered
once, so a bound above the size of the registry is never reached. -/
def follow (registry : FragmentRegistry) : Nat → SpreadSearch → String → Logged SpreadSearch
  | 0, search, _ => return search
  | bound + 1, search, name => do
    if name ∈ search.seen then return search
    let search := { search with seen := search.seen ++ [name] }
    match registry.find? name with
    | some loaded =>
      let search := { search with found := search.found ++ [name] }
      (Selection.spreadNamesOf loaded.fragment.selections).foldlM (registry.follow bound) search
    | none =>
      Logged.warn (.omittedFragment name)
      return search

/-- The fragments that selections need, directly or through other fragments, in the order of
discovery. -/
def neededBy (registry : FragmentRegistry) (selections : List Selection) :
    Logged (List String) := do
  let search ← (Selection.spreadNamesOf selections).foldlM (registry.follow (registry.size + 1)) {}
  return search.found

end FragmentRegistry

/-- An operation for which there is a constant. -/
structure CollectedOperation where
  constant : String
  kind : OperationKind
  name : String
  deriving Repr, DecidableEq, Inhabited

/-- What the constants depend on besides the definition they are for. -/
structure ConstantGenerator where
  names : NameStyle
  qualifier? : Option String
  fragments : FragmentRegistry

namespace ConstantGenerator

/-- The generator under the options. -/
def ofOptions (options : Options) (fragments : FragmentRegistry) : ConstantGenerator :=
  { names := options.names, qualifier? := options.qualifier?, fragments }

/-- The constant of an operation. -/
def operationConstant (generator : ConstantGenerator) (name : String) : String :=
  generator.names.convertWith { suffix := "Document", usesTypesPrefix := false } name

/-- The constant of a fragment. -/
def fragmentConstant (generator : ConstantGenerator) (name : String) : String :=
  generator.names.convertWith { suffix := "FragmentDoc", usesTypesPrefix := false } name

/-- How the constant of a fragment is referred to. -/
def fragmentReference (generator : ConstantGenerator) (name : String) : String :=
  let constant := generator.fragmentConstant name
  let isExternal := ((generator.fragments.find? name).map (·.isExternal)).getD false
  match generator.qualifier? with
  | some package => if isExternal then package ++ "." ++ constant else constant
  | none => constant

/-- The constant for a fragment. -/
def fragmentText (generator : ConstantGenerator) (fragment : Fragment) : String :=
  "const " ++ generator.fragmentConstant fragment.name ++ " = " ++ Text.rawString fragment.print

/-- What is added to the text of an operation for a fragment it needs. -/
def referenceText (generator : ConstantGenerator) (fragment : String) : String :=
  " + \"\\n\" + " ++ generator.fragmentReference fragment

/-- The constant for an operation, unless it has no name. -/
def operationText? (generator : ConstantGenerator) (operation : Operation) :
    Logged (Option (String × CollectedOperation)) := do
  match operation.name? with
  | none => return none
  | some name =>
    let constant := generator.operationConstant name
    let needed ← generator.fragments.neededBy operation.selections
    let text := "const " ++ constant ++ " = " ++ Text.rawString operation.print ++
      String.join (needed.map generator.referenceText)
    return some (text, { constant, kind := operation.kind, name })

/-- The constant for a definition, and the operation it is for. -/
def definitionText? (generator : ConstantGenerator) :
    Definition → Logged (Option (String × Option CollectedOperation))
  | .fragment fragment => return some (generator.fragmentText fragment, none)
  | .operation operation => do
    let text? ← generator.operationText? operation
    return text?.map fun (text, collected) => (text, some collected)

/-- The constants for the definitions of a document. -/
def entries (generator : ConstantGenerator) (document : Document) :
    Logged (List (String × Option CollectedOperation)) := do
  return (← document.mapM generator.definitionText?).filterMap id

/-- The texts of the constants for a document. -/
def texts (generator : ConstantGenerator) (document : Document) : Logged (List String) := do
  return (← generator.entries document).map (·.1)

end ConstantGenerator

end SchemaBindings
