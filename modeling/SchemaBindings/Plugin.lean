import SchemaBindings.Generated.DocumentConstants
import SchemaBindings.Generated.OperationTypes
import SchemaBindings.Generated.SchemaTypes
import SchemaBindings.Generated.UsedTypes
import SchemaBindings.Path

/-!
The plugins, which make the contents of generated files, and how the outputs of several plugins make
one file.
-/

namespace SchemaBindings

open SchemaBindings.Text

/-- What a plugin makes: code, and lines that stand once at the start of the file. -/
structure PluginOutput where
  content : String := ""
  header : List String := []
  deriving Repr, DecidableEq, Inhabited

namespace PluginOutput

/-- The file that consists of the output. -/
def render (output : PluginOutput) : String :=
  let header := "\n".intercalate output.header
  (if header.isEmpty then "" else header ++ "\n\n") ++ trimEnd output.content ++ "\n"

/-- The outputs of several plugins together: header lines are written once, where they first occur,
and contents with an empty line between them. -/
def merge (outputs : List PluginOutput) : PluginOutput :=
  { header := distinct (outputs.flatMap (·.header))
    content :=
      "\n\n".intercalate ((outputs.map fun output => trimEnd output.content).filter (!·.isEmpty)) }

end PluginOutput

/-- What a plugin is given besides the schema, the documents and the options. -/
structure PluginInfo where
  external : List LoadedFragment := []
  /-- The file the output goes to. -/
  outputFile? : Option String := none

/-- The package of files that no other package is known for. -/
def defaultPackage : String := "main"

/-- The characters of a name that an identifier may hold, in lower case, with an underscore in front
of a digit at the start. -/
def packageOfName (name : String) : String :=
  let kept := (name.toList.filter fun c => c.isAlphanum || c == '_').map Char.toLower
  match kept with
  | c :: _ => if c.isDigit then String.ofList ('_' :: kept) else String.ofList kept
  | [] => ""

/-- The package of a file: the one that is set, or else the one named like its directory. -/
def packageName (options : Options) (file? : Option String) : String :=
  match options.package?.filter (!·.isEmpty) with
  | some package => package
  | none =>
    let derived := (do packageOfName (← Path.fileName? (← Path.parent? (← file?)))).getD ""
    if derived.isEmpty then defaultPackage else derived

/-- The lines at the start of every generated file. -/
def packageHeader (options : Options) (info : PluginInfo) : List String :=
  ("package " ++ packageName options info.outputFile?) :: options.imports

/-- What a plugin generates. -/
inductive Plugin
  /-- The types of the schema. -/
  | types
  /-- The texts of the documents. -/
  | documents
  /-- The types of the schema that the documents use. -/
  | usedTypes
  /-- The types of the documents. -/
  | operations
  deriving Repr, DecidableEq, Inhabited

namespace Plugin

/-- The name of a plugin in configurations. -/
def name : Plugin → String
  | types => "go"
  | documents => "go-documents"
  | usedTypes => "go-introspection"
  | operations => "go-operations"

/-- All plugins. -/
def all : List Plugin := [types, documents, usedTypes, operations]

/-- The plugin of the name. -/
def ofName? (name : String) : Option Plugin := all.find? (·.name == name)

/-- The output for the types that a generator declares. -/
def typesOutput (generator : TypeGenerator) (schema : Schema) (options : Options)
    (info : PluginInfo) : PluginOutput :=
  { content :=
      "\n".intercalate ((generator.scalarsText schema ++ "\n") :: generator.texts schema)
    header := packageHeader options info ++ options.enumImports }

/-- Declares every type of the schema. -/
def runTypes (schema : Schema) (options : Options) (info : PluginInfo) : PluginOutput :=
  typesOutput (.ofSchema schema options) schema options info

/-- Declares the types of the schema, leaving out objects and enums that no document uses. -/
def runUsedTypes (schema : Schema) (files : List DocumentFile) (options : Options)
    (info : PluginInfo) : PluginOutput :=
  let used := schema.usedTypes (DocumentFile.concat files)
  let generator := { TypeGenerator.ofSchema schema options with included? := some used }
  typesOutput generator schema options info

/-- Declares the types of fragments and operations. -/
def runOperations (schema : Schema) (files : List DocumentFile) (options : Options)
    (info : PluginInfo) : Generation PluginOutput := do
  let document := DocumentFile.concat files
  let fragments := FragmentRegistry.ofDocument document info.external
  let texts ← (OperationGenerator.ofSchema schema options fragments).texts document
  return { content := "\n".intercalate texts, header := packageHeader options info }

/-- Declares constants for the texts of fragments and operations. -/
def runDocuments (files : List DocumentFile) (options : Options) (info : PluginInfo) :
    Logged PluginOutput := do
  let document := DocumentFile.concat files
  let fragments := FragmentRegistry.ofDocument document info.external
  let texts ← (ConstantGenerator.ofOptions options fragments).texts document
  return { content := "\n".intercalate texts, header := packageHeader options info }

/-- Runs a plugin. -/
def run (plugin : Plugin) (schema : Schema) (files : List DocumentFile) (options : Options)
    (info : PluginInfo) : Generation PluginOutput :=
  match plugin with
  | types => return runTypes schema options info
  | documents => ExceptT.lift (runDocuments files options info)
  | usedTypes => return runUsedTypes schema files options info
  | operations => runOperations schema files options info

end Plugin

end SchemaBindings
