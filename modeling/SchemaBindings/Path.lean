import SchemaBindings.Text.Lines

/-!
Paths as texts: parts between slashes. Empty parts and parts that are a dot do not count, except a
dot at the start of a relative path. Paths with the same counting parts are the same path.
-/

namespace SchemaBindings.Path

open SchemaBindings.Text

/-- Whether the path starts at the root. -/
def isAbsolute (path : String) : Bool := path.toList.head? == some '/'

/-- Drops empty parts and dots at the end, but never the first part. -/
def dropTrailing : List String → List String
  | [] => []
  | first :: rest =>
    first :: (rest.reverse.dropWhile fun part => part.isEmpty || part == ".").reverse

/-- The parts between slashes, without those at the end that do not count. -/
def segments (path : String) : List String := dropTrailing (splitAt '/' path)

/-- The counting parts of a path. The root is a part of its own, written as a slash. -/
def parts (path : String) : List String :=
  match splitAt '/' path with
  | [] => []
  | first :: rest =>
    let counting := rest.filter fun part => !part.isEmpty && part != "."
    if isAbsolute path then "/" :: counting
    else if first.isEmpty then counting
    else first :: counting

/-- The path of the directory that holds the last part. The root and the empty path have none. -/
def parent? (path : String) : Option String :=
  match segments path with
  | [] => none
  | [only] => if only.isEmpty then none else some ""
  | first :: rest =>
    match dropTrailing (first :: rest.dropLast) with
    | [""] => some "/"
    | kept => some ("/".intercalate kept)

/-- The last part, if it is a name. -/
def fileName? (path : String) : Option String :=
  match (parts path).getLast? with
  | some part => if part == "/" || part == "." || part == ".." then none else some part
  | none => none

/-- The text after the last dot of the last part. A dot at the start of the part does not count. -/
def extension? (path : String) : Option String := do
  let name := (← fileName? path).toList
  let after := (name.reverse.takeWhile (· != '.')).reverse
  if after.length + 1 < name.length then some (String.ofList after) else none

/-- The path read from a directory. An absolute path stays as it is. -/
def join (base path : String) : String :=
  if isAbsolute path || base.isEmpty then path
  else if base.toList.getLast? == some '/' then base ++ path
  else base ++ "/" ++ path

end SchemaBindings.Path
