import SchemaBindings.Options
import SchemaBindings.Plugin
import SchemaBindings.Yaml.Reading

/-!
The configuration of a project: where schema and documents are, and which files are generated from
them by which plugins.
-/

namespace SchemaBindings

/-- One path or several. -/
inductive PathList
  | one (path : String)
  | many (paths : List String)
  deriving Repr, DecidableEq, Inhabited

namespace PathList

/-- The paths. -/
def paths : PathList → List String
  | one path => [path]
  | many paths => paths

/-- The paths read from a directory. -/
def resolve (base : String) : PathList → PathList
  | one path => one (Path.join base path)
  | many paths => many (paths.map (Path.join base))

end PathList

/-- What is said about one generated file. -/
structure OutputConfig where
  plugins : List Plugin
  externalFragments : PathList := .many []
  /-- Options for this file alone. -/
  options : List (DataKey × Data) := []
  deriving Inhabited

/-- The configuration of a project. -/
structure ProjectConfig where
  schema : PathList
  documents : PathList := .many []
  /-- The generated files, no two with the same path. -/
  outputs : List (String × OutputConfig)
  /-- Options for all files. -/
  options : List (DataKey × Data) := []
  deriving Inhabited

/-- A reason why a configuration cannot be used. -/
inductive ConfigError
  | unreadable (file? : Option String)
  | missingSchema
  | noOutputs
  | invalidOptions (output : String)
  deriving Repr, DecidableEq

/-- The text of an error. -/
def ConfigError.message : ConfigError → String
  | unreadable file? => "Error parsing codegen config" ++ namedFile file? ++ ": " ++ failureDetail
  | missingSchema => "The codegen config must list a `schema`."
  | noOutputs => "The codegen config must list at least one file under `generates`."
  | invalidOptions output =>
    "Invalid plugin config for " ++ Text.quoted output ++ ": " ++ failureDetail

open Yaml

/-- Reads one path or several. A path is a text without a local tag. -/
def PathList.ofData? : Data → Option PathList
  | .string path => some (.one path)
  | .list items => (items.mapM Data.bareString?).map .many
  | _ => none

/-- Reads one path or several from a node inside `around` collections. -/
def PathList.readNode (around : Nat) (node : Node) : Reading PathList := do
  ofOption (PathList.ofData? (← readData (depthLimit - around) node))

/-- Reads options, without judging them, from a node inside `around` collections. -/
def readOptions (around : Nat) (node : Node) : Reading (List (DataKey × Data)) := do
  let entries := Node.mapping none (← readEntries node)
  match ← readData (depthLimit - around) entries with
  | .mapping entries => return entries
  | _ => failure

/-- Reads what is said about one generated file. -/
def OutputConfig.readNode (node : Node) : Reading OutputConfig := do
  let fields ← readFields node
  let plugin (item : Node) : Reading Plugin := do ofOption (Plugin.ofName? (← readChoice item))
  let plugins (value : Node) : Reading (List Plugin) := do (← readItems value).mapM plugin
  return {
    plugins := ← readField fields "plugins" plugins failure
    externalFragments :=
      ← readField fields "externalFragments" (PathList.readNode 3) (return .many [])
    options := ← readField fields "config" (readOptions 3) (return []) }

/-- Puts files in order. Of several entries with the same path the last is kept, at the place and
under the name of the first. -/
def distinctOutputs (outputs : List (String × OutputConfig)) : List (String × OutputConfig) :=
  let byParts : OrderedMap (List String) (String × OutputConfig) :=
    outputs.foldl (fun map (path, output) =>
      map.upsert (Path.parts path) fun present? =>
        ((present?.map (·.1)).getD path, output)) ∅
  byParts.values

/-- Reads the generated files. -/
def readOutputs (node : Node) : Reading (List (String × OutputConfig)) := do
  let outputs ← (← readFields node).mapM fun (path, value) => do
    return (path, ← OutputConfig.readNode value)
  return distinctOutputs outputs

namespace ProjectConfig

/-- Reads a configuration, without judging it. -/
def readNode (node : Node) : Reading ProjectConfig := do
  let fields ← readFields node
  return {
    schema := ← readField fields "schema" (PathList.readNode 1) failure
    documents := ← readField fields "documents" (PathList.readNode 1) (return .many [])
    outputs := ← readField fields "generates" readOutputs failure
    options := ← readField fields "config" (readOptions 1) (return []) }

/-- The configuration that a text holds, without judging it. -/
def ofText? (text : String) : Option ProjectConfig := do
  let document ← Yaml.Document.parse? text
  document.read (readNode document.root)

/-- Reads a configuration. It must name a schema and at least one generated file. -/
def parse (file? : Option String) (text : String) : Except ConfigError ProjectConfig :=
  match ofText? text with
  | none => .error (.unreadable file?)
  | some config =>
    if config.schema.paths.isEmpty then .error .missingSchema
    else if config.outputs.isEmpty then .error .noOutputs
    else .ok config

/-- The configuration with all paths read from a directory. -/
def resolve (base : String) (config : ProjectConfig) : ProjectConfig :=
  { config with
    schema := config.schema.resolve base
    documents := config.documents.resolve base
    outputs := distinctOutputs (config.outputs.map fun (path, output) =>
      (Path.join base path,
        { output with externalFragments := output.externalFragments.resolve base })) }

/-- The options for a file: its own entries, written over those for all files. -/
def optionsFor (config : ProjectConfig) (path : String) (output : OutputConfig) :
    Except ConfigError Options :=
  match Options.ofEntries? (Data.mergeEntries config.options output.options) with
  | some options => .ok options
  | none => .error (.invalidOptions path)

end ProjectConfig

end SchemaBindings
