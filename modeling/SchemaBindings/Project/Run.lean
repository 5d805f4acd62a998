import SchemaBindings.Project.Config
import SchemaBindings.Project.Loading

/-!
Generating the files of a project: the configuration, the schema and the documents are loaded once,
then the files are made one after the other. A failure ends the run; files made before it stay.
-/

namespace SchemaBindings

/-- What is asked for. -/
structure GenerateCommand where
  config : String := "codegen.yml"
  /-- Shows the files and writes none. -/
  dryRun : Bool := false
  /-- The extensions of the files that are looked for in directories. -/
  extensions : List String := ["graphql", "graphqls", "gql"]
  deriving Repr, DecidableEq, Inhabited

/-- A reason why a run ends, with the step that it ends in. -/
inductive RunError
  | configFile (error : FileError)
  | config (error : ConfigError)
  | schema (error : LoadError)
  | documents (error : LoadError)
  | external (output : String) (error : LoadError)
  | plugin (plugin : Plugin) (output : String) (error : GenerationError)
  | createDirectory (path : String)
  | writeFile (path : String)
  deriving Repr, DecidableEq

/-- The text of an error: the step, and what went wrong in it. -/
def RunError.message : RunError → String
  | configFile error => error.message
  | config error => error.message
  | schema error => "Unable to load the schema: " ++ error.message
  | documents error => "Unable to load documents: " ++ error.message
  | external output error =>
    "Unable to load external fragments for " ++ Text.quoted output ++ ": " ++ error.message
  | plugin failed output error =>
    "The `" ++ failed.name ++ "` plugin failed for " ++ Text.quoted output ++ ": " ++ error.message
  | createDirectory path => "Unable to create " ++ Text.quoted path ++ ": " ++ failureDetail
  | writeFile path => "Unable to write " ++ Text.quoted path ++ ": " ++ failureDetail

/-- What a run has made. -/
structure RunSummary where
  documentCount : Nat
  outputs : List String := []
  /-- The files that a dry run shows, with their contents. -/
  shown : List (String × String) := []
  deriving Repr, DecidableEq, Inhabited

/-- What a run needs for every file. -/
structure RunInputs where
  config : ProjectConfig
  schema : Schema
  documents : List DocumentFile
  extensions : List String

namespace GenerateCommand

/-- A step of a run: it may change the tree, give warnings, and fail. What it changed before it
failed stays changed. -/
abbrev Run := ExceptT RunError (StateT FileTree Logged)

/-- A result that is ready, or a failure. -/
def ofExcept {ε α : Type} (wrap : ε → RunError) (result : Except ε α) : Run α :=
  match result with
  | .ok value => return value
  | .error error => throw (wrap error)

/-- A result with warnings. -/
def ofLogged {α : Type} (logged : Logged α) : Run α := ExceptT.lift (StateT.lift logged)

/-- Loads what is needed for every file. -/
def load (command : GenerateCommand) : Run RunInputs := do
  let tree ← get
  let text ← ofExcept .configFile (tree.readText command.config)
  let config ← ofExcept .config (ProjectConfig.parse (some command.config) text)
  let config := config.resolve ((Path.parent? command.config).getD "")
  let extensions := normalizeExtensions command.extensions
  let schema ← ofLogged (← ofExcept .schema (tree.loadSchema extensions config.schema.paths))
  let documents ← ofExcept .documents (tree.loadDocuments extensions config.documents.paths)
  return { config, schema, documents, extensions }

/-- The text of a generated file. -/
def renderOutput (inputs : RunInputs) (path : String) (output : OutputConfig) : Run String := do
  let options ← ofExcept .config (inputs.config.optionsFor path output)
  let tree ← get
  let external ← ofExcept (.external path)
    (tree.loadExternal inputs.extensions output.externalFragments.paths)
  let info : PluginInfo := { external, outputFile? := some path }
  let outputs ← output.plugins.mapM fun plugin => do
    let result ← ofLogged (plugin.run inputs.schema inputs.documents options info).run
    ofExcept (.plugin plugin path) result
  return (PluginOutput.merge outputs).render

/-- Writes a file, making its directory if needed. -/
def writeOutput (path text : String) : Run Unit := do
  if let some directory := (Path.parent? path).filter (!·.isEmpty) then
    match (← get).makeDirectory? directory with
    | some tree => set tree
    | none => throw (.createDirectory directory)
  match (← get).write? path text.toUTF8 with
  | some tree => set tree
  | none => throw (.writeFile path)

/-- Makes one file. -/
def makeOutput (command : GenerateCommand) (inputs : RunInputs) (summary : RunSummary)
    (entry : String × OutputConfig) : Run RunSummary := do
  let (path, output) := entry
  let text ← renderOutput inputs path output
  let outputs := summary.outputs ++ [path]
  if command.dryRun then
    return { summary with outputs, shown := summary.shown ++ [(path, text)] }
  else
    writeOutput path text
    return { summary with outputs }

/-- Makes all files of a project. -/
def run (command : GenerateCommand) : Run RunSummary := do
  let inputs ← command.load
  inputs.config.outputs.foldlM (command.makeOutput inputs)
    { documentCount := inputs.documents.length }

end GenerateCommand

/-- How a run ends. -/
structure RunOutcome where
  result : Except RunError RunSummary
  tree : FileTree
  warnings : List Warning

/-- Runs a command on a tree. -/
def GenerateCommand.runOn (command : GenerateCommand) (tree : FileTree) : RunOutcome :=
  let logged := (command.run.run).run tree
  { result := logged.value.1, tree := logged.value.2, warnings := logged.warnings }

/-- The account of a run that has made its files. -/
def RunSummary.report (summary : RunSummary) : String :=
  let shown := summary.shown.map fun (path, text) => "// " ++ path ++ "\n" ++ text ++ "\n"
  String.join shown ++ "✅ Generated " ++ toString summary.outputs.length ++ " files from " ++
    toString summary.documentCount ++ " documents:\n" ++
    "\n".intercalate (summary.outputs.map fun path => "  * " ++ path)

/-- The account of a run that has failed. -/
def RunError.report (error : RunError) : String := "❌ Code generation failed: " ++ error.message

end SchemaBindings
