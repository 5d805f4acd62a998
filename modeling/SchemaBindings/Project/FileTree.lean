import SchemaBindings.Path

/-!
Trees of files and directories, and the places that paths name in them. Paths are read from the root
of the tree; two dots lead to the directory above.
-/

namespace SchemaBindings

/-- What stands at a place of a tree. -/
inductive FileEntry
  | file (bytes : ByteArray)
  | directory
  deriving Inhabited

/-- Entries are compared by what they hold, byte for byte. -/
instance : DecidableEq FileEntry
  | .directory, .directory => isTrue rfl
  | .directory, .file _ => isFalse nofun
  | .file _, .directory => isFalse nofun
  | .file ⟨bytes⟩, .file ⟨others⟩ =>
    decidable_of_iff (bytes = others)
      ⟨fun same => same ▸ rfl, fun same => congrArg ByteArray.data (FileEntry.file.inj same)⟩

/-- A place: the names on the way from the root. -/
abbrev Place := List String

/-- A tree, as entries at places. A directory with entries below it need not be listed. -/
structure FileTree where
  entries : List (Place × FileEntry) := []
  deriving Inhabited

namespace FileTree

/-- Whether `place` is below `above`. -/
def isBelow (above place : Place) : Bool := above.isPrefixOf place && above != place

/-- What stands at a place. -/
def entry? (tree : FileTree) (place : Place) : Option FileEntry :=
  if place.isEmpty then some .directory
  else
    match tree.entries.find? (·.1 == place) with
    | some (_, entry) => some entry
    | none =>
      if tree.entries.any fun (other, _) => isBelow place other then some .directory else none

/-- Whether a directory stands at a place. -/
def hasDirectory (tree : FileTree) (place : Place) : Bool := tree.entry? place == some .directory

/-- The place that is reached from a directory by one part of a path. -/
def step? (tree : FileTree) (place : Place) (part : String) : Option Place :=
  if !tree.hasDirectory place then none
  else if part == "." then some place
  else if part == ".." then if place.isEmpty then none else some place.dropLast
  else some (place ++ [part])

/-- Whether a path says that it names a directory, by a slash or a dot at its end. -/
def namesDirectory (path : String) : Bool :=
  match (Text.splitAt '/' path).getLast? with
  | some last => last.isEmpty || last == "." || last == ".."
  | none => false

/-- Whether a path can name anything: it holds no null character, and neither its parts nor itself
are too long. -/
def isUsable (path : String) : Bool :=
  !path.toList.contains '\x00' && path.utf8ByteSize < 4096 &&
    (Path.parts path).all (·.utf8ByteSize < 256)

/-- The place that a path names. Nothing needs to stand there, but the way to it consists of
directories. Absolute paths lead out of the tree. -/
def place? (tree : FileTree) (path : String) : Option Place :=
  if path.isEmpty || Path.isAbsolute path || !isUsable path then none
  else (Path.parts path).foldlM tree.step? []

/-- What a path names. -/
def find? (tree : FileTree) (path : String) : Option FileEntry := do
  let entry ← tree.entry? (← tree.place? path)
  if namesDirectory path && entry != .directory then none else some entry

/-- Whether a path names something. -/
def hasEntry (tree : FileTree) (path : String) : Bool := (tree.find? path).isSome

/-- The content of the file that a path names. -/
def content? (tree : FileTree) (path : String) : Option ByteArray :=
  match tree.find? path with
  | some (.file bytes) => some bytes
  | _ => none

/-- Whether a path names a file. -/
def isFile (tree : FileTree) (path : String) : Bool := (tree.content? path).isSome

/-- Whether a place comes before another: a directory is visited at its own place among its
neighbours, which are in the order of their names. -/
def placeBefore : Place → Place → Bool
  | [], _ => true
  | _ :: _, [] => false
  | name :: rest, other :: others =>
    if name == other then placeBefore rest others else name < other

/-- The places of all files below a place, in the order of a walk. -/
def filesBelow (tree : FileTree) (place : Place) : List Place :=
  let files := tree.entries.filterMap fun (other, entry) =>
    match entry with
    | .file _ => if isBelow place other then some other else none
    | .directory => none
  files.mergeSort placeBefore

/-- The paths of all files below the directory that a path names, each written after the path. -/
def walk (tree : FileTree) (path : String) : List String :=
  match tree.place? path with
  | some place =>
    (tree.filesBelow place).map fun file => (file.drop place.length).foldl Path.join path
  | none => []

/-- Puts an entry at a place. -/
def put (tree : FileTree) (place : Place) (entry : FileEntry) : FileTree :=
  if tree.entries.any (·.1 == place) then
    { entries := tree.entries.map fun (other, present) =>
        if other == place then (other, entry) else (other, present) }
  else { entries := tree.entries ++ [(place, entry)] }

/-- Makes the directories that one part of a path needs. -/
def makeStep? (state : FileTree × Place) (part : String) : Option (FileTree × Place) := do
  let (tree, place) := state
  let next ← tree.step? place part
  match tree.entry? next with
  | some .directory => some (tree, next)
  | some (.file _) => none
  | none => some (tree.put next .directory, next)

/-- Makes the directory that a path names, and all those on the way to it. -/
def makeDirectory? (tree : FileTree) (path : String) : Option FileTree :=
  if Path.isAbsolute path || !isUsable path then none
  else ((Path.parts path).foldlM makeStep? (tree, [])).map (·.1)

/-- Writes the file that a path names. Its directory must be there. -/
def write? (tree : FileTree) (path : String) (bytes : ByteArray) : Option FileTree := do
  let place ← tree.place? path
  if namesDirectory path then none
  else
    match tree.entry? place with
    | some .directory => none
    | _ => some (tree.put place (.file bytes))

/-- The files of a tree that are not in an earlier tree with the same content. -/
def changesSince (tree earlier : FileTree) : List (String × ByteArray) :=
  tree.entries.filterMap fun (place, entry) =>
    match entry with
    | .file bytes =>
      if earlier.entry? place == some (.file bytes) then none
      else some ("/".intercalate place, bytes)
    | .directory => none

end FileTree

end SchemaBindings
