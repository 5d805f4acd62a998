import SchemaBindings.CommandLine

/-!
The program: it sees the working directory as a tree, runs the command on it, and writes what the
command has changed.
-/

namespace SchemaBindings.Program

/-- How deep directories are looked into. Links may lead back to a directory above. -/
def depthLimit : Nat := 64

/-- The entries for the children of the directory at `place`, and for what is below them. -/
def readChildren (children : Array IO.FS.DirEntry) (place : Place) :
    Nat → IO (List (Place × FileEntry))
  | 0 => return []
  | depth + 1 => do
    let mut entries := []
    for child in children do
      let childPlace := place ++ [child.fileName]
      if ← child.path.isDir then
        let below ← readChildren (← child.path.readDir) childPlace depth
        entries := entries ++ (childPlace, .directory) :: below
      else if ← child.path.pathExists then
        entries := entries ++ [(childPlace, .file (← IO.FS.readBinFile child.path))]
    return entries

/-- The working directory as a tree. -/
def readTree : IO FileTree := do
  return { entries := ← readChildren (← (← IO.currentDir).readDir) [] depthLimit }

/-- Writes the entries of a tree that an earlier tree does not have. -/
def writeChanges (earlier tree : FileTree) : IO Unit := do
  for (place, entry) in tree.entries do
    if entry == .directory && !earlier.hasDirectory place then
      IO.FS.createDirAll ("/".intercalate place)
  for (path, bytes) in tree.changesSince earlier do
    IO.FS.writeBinFile path bytes

/-- How the program is used. -/
def usage : String :=
  "Usage: schema-bindings [--verbose] generate [--config <FILE>] [--dry-run] " ++
    "[--graphql-file-exts <EXTENSIONS>]"

/-- Runs the command that generates files. -/
def generate (command : GenerateCommand) : IO UInt32 := do
  let before ← readTree
  let outcome := command.runOn before
  for warning in outcome.warnings do
    IO.eprintln warning.message
  writeChanges before outcome.tree
  match outcome.result with
  | .ok summary =>
    IO.println summary.report
    return 0
  | .error error =>
    IO.eprintln error.report
    return 1

/-- Runs the program with the given arguments. -/
def run (arguments : List String) : IO UInt32 := do
  match CommandLine.read arguments with
  | .ok invocation =>
    match invocation.command? with
    | some command => generate command
    | none =>
      IO.println usage
      return 0
  | .error .displayHelp =>
    IO.println usage
    return 0
  | .error .displayVersion =>
    IO.println "schema-bindings 0.1.0"
    return 0
  | .error _ =>
    IO.eprintln usage
    return 2

end SchemaBindings.Program

/-- The entry point. -/
def main (arguments : List String) : IO UInt32 := SchemaBindings.Program.run arguments
