import SchemaBindings.FragmentRegistry
import SchemaBindings.OrderedMap
import SchemaBindings.Project.FileTree
import SchemaBindings.Schema.Basic
import SchemaBindings.Document.Parser

/-!
Finding schema and document files in a tree, and reading them.
-/

namespace SchemaBindings

/-- A reason why a file cannot be read as text. -/
inductive FileError
  | notAFile (path : String)
  | undecodable (path : String)
  deriving Repr, DecidableEq

/-- The text of an error. -/
def FileError.message : FileError → String
  | notAFile path => Text.quoted path ++ " is not a file"
  | undecodable path => "Unable to decode " ++ Text.quoted path ++ " as UTF-8: " ++ failureDetail

/-- A reason why the inputs of a project cannot be loaded. -/
inductive LoadError
  | generation (error : GenerationError)
  | file (error : FileError)
  | noSchemaFiles
  | pathNotFound (path : String)
  deriving Repr, DecidableEq

/-- The text of an error. -/
def LoadError.message : LoadError → String
  | generation error => error.message
  | file error => error.message
  | noSchemaFiles => "No schema files were found."
  | pathNotFound path => Text.quoted path ++ " does not exist"

/-- The extensions that are meant: without blanks around them and dots in front, and without those
of which nothing is left. -/
def normalizeExtensions (extensions : List String) : List String :=
  distinct ((extensions.map bare).filter (!·.isEmpty))
where
  /-- An extension without blanks around it and dots in front. -/
  bare (extension : String) : String :=
    String.ofList ((Text.trim extension).toList.dropWhile (· == '.'))

namespace FileTree

/-- The text of the file that a path names. -/
def readText (tree : FileTree) (path : String) : Except FileError String :=
  match tree.content? path with
  | none => .error (.notAFile path)
  | some bytes =>
    match String.fromUTF8? bytes with
    | some text => .ok text
    | none => .error (.undecodable path)

/-- Whether the extension of a path is one of those given. -/
def hasExtension (extensions : List String) (path : String) : Bool :=
  match Path.extension? path with
  | some extension => extensions.contains extension
  | none => false

/-- The files that one path stands for: itself, or the files with one of the extensions in the
directory that it names. -/
def filesAt (tree : FileTree) (extensions : List String) (path : String) :
    Except LoadError (List String) :=
  if tree.isFile path then .ok [path]
  else if tree.hasEntry path then .ok ((tree.walk path).filter (hasExtension extensions))
  else .error (.pathNotFound path)

/-- The paths without those that are the same as an earlier one. -/
def distinctPaths (paths : List String) : List String :=
  paths.foldl (fun kept path =>
    if kept.any fun other => Path.parts other == Path.parts path then kept else kept ++ [path]) []

/-- The files that paths stand for, each once. -/
def findFiles (tree : FileTree) (extensions paths : List String) :
    Except LoadError (List String) := do
  return distinctPaths (← paths.mapM (tree.filesAt extensions)).flatten

/-- Reads a file that was found. -/
def loadText (tree : FileTree) (path : String) : Except LoadError String :=
  (tree.readText path).mapError .file

/-- Reads a schema document from a file. -/
def loadSchemaDocument (tree : FileTree) (path : String) : Except LoadError SchemaDocument := do
  let text ← tree.loadText path
  (Schema.readDocument (some path) text).mapError .generation

/-- The schema of all files that paths stand for. There must be one. -/
def loadSchema (tree : FileTree) (extensions paths : List String) :
    Except LoadError (Logged Schema) := do
  let files ← tree.findFiles extensions paths
  if files.isEmpty then throw .noSchemaFiles
  return Schema.ofDocuments (← files.mapM tree.loadSchemaDocument)

end FileTree

/-- Reads an executable document. -/
def DocumentFile.read (location? : Option String) (text : String) :
    Except GenerationError DocumentFile :=
  match Document.parse? text with
  | some document => .ok { location?, document }
  | none => .error (.documentUnreadable location?)

namespace FileTree

/-- Reads an executable document from a file. -/
def loadDocument (tree : FileTree) (path : String) : Except LoadError DocumentFile := do
  let text ← tree.loadText path
  (DocumentFile.read (some path) text).mapError .generation

/-- The documents in all files that paths stand for. -/
def loadDocuments (tree : FileTree) (extensions paths : List String) :
    Except LoadError (List DocumentFile) := do
  (← tree.findFiles extensions paths).mapM tree.loadDocument

/-- The fragments in all files that paths stand for, as fragments generated elsewhere. -/
def loadExternal (tree : FileTree) (extensions paths : List String) :
    Except LoadError (List LoadedFragment) := do
  let files ← tree.loadDocuments extensions paths
  return files.flatMap fun file => LoadedFragment.ofDocument file.document true

end FileTree

end SchemaBindings
