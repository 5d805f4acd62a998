import SchemaBindings.FragmentRegistry
import SchemaBindings.Generated.StructLine

/-!
The struct that holds the result of selections on a type.

Selections are first collected: fields by the key they have in the response, fragments by the type
they are on. Fields of one key make one line; the sub-selections of fields that have them are put
together, and make one nested struct. A fragment on another type than an abstract one it is selected
on is a branch of the struct; all other fragments add their lines to those of the struct.
-/

namespace SchemaBindings

/-- The options that shape the struct of selections. -/
structure SelectionOptions where
  addTypename : Bool := false
  avoidOptionals : Bool := false
  qualifier? : Option String := none
  nonOptionalTypename : Bool := false
  deriving Repr, DecidableEq, Inhabited

/-- What selections are read against. -/
structure SelectionContext where
  schema : Schema
  fragments : FragmentRegistry
  resolver : TypeResolver
  options : SelectionOptions := {}

/-- The type generated for a fragment. One that is generated elsewhere has its package in front, if
one is named. -/
def fragmentTypeName (names : NameStyle) (qualifier? : Option String) (fragment : String)
    (isExternal : Bool) : String :=
  let type := names.convertWith { suffix := "Fragment" } fragment
  match qualifier? with
  | some package => if isExternal then package ++ "." ++ type else type
  | none => type

/-- Fields of one response key that have sub-selections. -/
structure Link where
  type : TypeRef
  conditional : Bool := false
  selections : List Selection := []
  deriving Repr, Inhabited

/-- A fragment: the lines of an inline one, or the type of a named one. -/
inductive FragmentEntry
  | inline (lines : List StructLine)
  | spread (type : String)
  deriving Repr, Inhabited

namespace FragmentEntry

/-- The lines that the fragment adds. -/
def lines : FragmentEntry → List StructLine
  | inline lines => lines
  | spread type => [.embedded type]

/-- Whether two entries are of one kind and are written alike. -/
def agrees : FragmentEntry → FragmentEntry → Bool
  | inline lines, inline others => StructLine.texts lines == StructLine.texts others
  | spread type, spread other => type == other
  | _, _ => false

end FragmentEntry

/-- Selections on one type, collected. The fragments stand under the type they are on, those
without a type condition together. -/
structure Collected where
  typenameQueried : Bool := false
  leaves : OrderedMap String GoType := ∅
  aliased : OrderedMap String (String × GoType) := ∅
  links : OrderedMap String Link := ∅
  fragments : OrderedMap (Option String) (List FragmentEntry) := ∅

namespace Collected

/-- Adds a fragment, unless one that is written alike stands under the same type. -/
def addFragment (collected : Collected) (condition? : Option String) (entry : FragmentEntry) :
    Collected :=
  { collected with
    fragments := collected.fragments.upsert condition? fun entries? =>
      let entries := entries?.getD []
      if entries.any entry.agrees then entries else entries ++ [entry] }

/-- Adds a field without sub-selections, unless its key has a field without them already. -/
def addLeaf (collected : Collected) (call : FieldCall) (type : GoType) : Collected :=
  let key := call.responseName
  if key = call.name then { collected with leaves := collected.leaves.insertNew key type }
  else { collected with aliased := collected.aliased.insertNew key (call.name, type) }

/-- Adds a field with sub-selections to the others of its key. -/
def addLink (collected : Collected) (call : FieldCall) (type : TypeRef)
    (selections : List Selection) : Collected :=
  { collected with
    links := collected.links.upsert call.responseName fun link? =>
      let link := link?.getD { type }
      { link with
        conditional := link.conditional || call.isConditional
        selections := link.selections ++ selections } }

end Collected

namespace SelectionContext

/-- The lines for selections on a type: the first result tells whether `__typename` is queried
among them, and the flag whether a line for it belongs to the lines. -/
abbrev Nested := String → Bool → List Selection → Generation (Bool × List StructLine)

/-- Whether a fragment on `onType` is a branch of a struct for `parent`. -/
def isBranch (context : SelectionContext) (parent onType : String) : Bool :=
  context.schema.isAbstract parent && onType != parent

/-- Collects a field. -/
def collectField (context : SelectionContext) (parent : String) (collected : Collected)
    (call : FieldCall) (selections : List Selection) : Generation Collected := do
  if call.name = Schema.typenameField then return { collected with typenameQueried := true }
  match context.schema.fieldType? parent call.name with
  | none =>
    Generation.warn (.unknownField parent call.name)
    return collected
  | some type =>
    if selections.isEmpty then
      return collected.addLeaf call
        (.ofSelection type call.isConditional context.options.avoidOptionals
          (context.resolver.resolve type.baseName))
    else return collected.addLink call type selections

/-- Collects a spread of a named fragment. -/
def collectSpread (context : SelectionContext) (collected : Collected) (name : String) :
    Generation Collected := do
  match context.fragments.find? name with
  | none =>
    Generation.warn (.unknownSpread name)
    return collected
  | some loaded =>
    let type := fragmentTypeName context.resolver.names context.options.qualifier?
      loaded.fragment.name loaded.isExternal
    return collected.addFragment loaded.fragment.onType (.spread type)

/-- Collects an inline fragment. One that is no branch passes on that `__typename` is queried. -/
def collectInline (context : SelectionContext) (nested : Nested) (parent : String)
    (collected : Collected) (condition? : Option String) (selections : List Selection) :
    Generation Collected := do
  if let some type := condition? then
    if (context.schema.kind? type).isNone then throw (.unknownType type)
  let onType := condition?.getD parent
  let branches := context.isBranch parent onType
  let (queried, lines) ← nested onType branches selections
  let collected :=
    { collected with
      typenameQueried := collected.typenameQueried || (!branches && queried) }
  return collected.addFragment condition? (.inline lines)

/-- Collects a selection. -/
def collectOne (context : SelectionContext) (nested : Nested) (parent : String)
    (collected : Collected) : Selection → Generation Collected
  | .field call selections => context.collectField parent collected call selections
  | .spread fragment _ => context.collectSpread collected fragment
  | .inline condition? _ selections =>
    context.collectInline nested parent collected condition? selections

/-- Collects selections on a type. -/
def collect (context : SelectionContext) (nested : Nested) (parent : String)
    (selections : List Selection) : Generation Collected :=
  selections.foldlM (context.collectOne nested parent) {}

/-- The types that an object selected as `parent` may have. -/
def possibleTypes (context : SelectionContext) (parent : String) : List String :=
  match context.schema.kind? parent with
  | some .union => []
  | some .interface => context.schema.implementingTypes parent
  | _ => [parent]

/-- The line for `__typename`. It is written if it is queried or the options ask for it, but not
where no type is possible. -/
def typenameLine? (context : SelectionContext) (parent : String) (queried : Bool) :
    Option StructLine :=
  let certain := queried || context.options.nonOptionalTypename
  let types := context.possibleTypes parent
  if (certain || context.options.addTypename) && !types.isEmpty then
    some (.typename (!certain) types)
  else none

/-- The line of a link. -/
def linkLine (context : SelectionContext) (nested : Nested) (key : String) (link : Link) :
    Generation StructLine := do
  let (_, lines) ← nested link.type.baseName true link.selections
  let type : GoType := .ofSelection link.type link.conditional context.options.avoidOptionals ""
  return .link key type.depth type.pointer lines

/-- The lines of the fragments under one type: a branch, or the lines themselves. -/
def fragmentLines (context : SelectionContext) (parent : String) (condition? : Option String)
    (entries : List FragmentEntry) : List StructLine :=
  let lines := entries.flatMap (·.lines)
  match condition? with
  | some onType =>
    if context.isBranch parent onType then
      let identifier := context.resolver.names.convertWith { usesTypesPrefix := false } onType
      [.branch identifier onType lines]
    else lines
  | none => lines

/-- The lines for collected selections. -/
def lines (context : SelectionContext) (nested : Nested) (parent : String) (withTypename : Bool)
    (collected : Collected) : Generation (List StructLine) := do
  let typename :=
    if withTypename then (context.typenameLine? parent collected.typenameQueried).toList else []
  let leaves := collected.leaves.entries.map fun (name, type) => StructLine.leaf name type
  let aliased :=
    collected.aliased.entries.map fun (key, name, type) => StructLine.aliased key name type
  let links ← collected.links.entries.mapM fun (key, link) => context.linkLine nested key link
  let fragments := collected.fragments.entries.flatMap fun (condition?, entries) =>
    context.fragmentLines parent condition? entries
  return typename ++ leaves ++ aliased ++ links ++ fragments

/-- The lines for selections that nest less deeply than the bound. -/
def linesWithin (context : SelectionContext) : Nat → Nested
  | 0, _, _, _ => return (false, [])
  | bound + 1, parent, withTypename, selections => do
    let nested := context.linesWithin bound
    let collected ← context.collect nested parent selections
    return (collected.typenameQueried,
      ← context.lines nested parent withTypename collected)

/-- The lines of the struct for selections on a type. -/
def structLines (context : SelectionContext) (parent : String) (selections : List Selection) :
    Generation (List StructLine) := do
  let (_, lines) ← context.linesWithin (Selection.heights selections + 1) parent true selections
  return lines

/-- The struct for selections on a type; nothing where nothing is selected. -/
def structText (context : SelectionContext) (parent : String) (selections : List Selection) :
    Generation String := do
  if selections.isEmpty then return ""
  return StructLine.structText (← context.structLines parent selections)

end SelectionContext

end SchemaBindings
