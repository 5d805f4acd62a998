import SchemaBindings.Yaml.Document
import SchemaBindings.Yaml.Scalar

/-!
Reading data from a document. Aliases are followed, but not without end: collections nest only so
deep, and the number of aliases that are followed is limited by the size of the document.
-/

namespace SchemaBindings.Yaml

/-- Reads from a document, or fails. The state is how many more aliases may be followed. -/
abbrev Reading := ReaderT Document (StateT Nat Option)

/-- The number of collections that may be around a scalar. -/
def depthLimit : Nat := 128

/-- The number of aliases that may be followed for each mark of a document. -/
def aliasLimit : Nat := 100

/-- What is read from a document. -/
def Document.read {α : Type} (document : Document) (reading : Reading α) : Option α :=
  (reading.run document).run' (aliasLimit * document.root.size)

/-- A result that may be missing. -/
def ofOption {α : Type} (result? : Option α) : Reading α :=
  match result? with
  | some result => return result
  | none => failure

/-- The node that is meant: for an alias the node it stands for. -/
def follow (node : Node) : Reading Node := do
  match node with
  | .reference number =>
    match ← get with
    | 0 => failure
    | steps + 1 =>
      set steps
      ofOption ((← read).anchored? number)
  | _ => return node

/-- Whether no element equals a later one. -/
def allDistinct {α : Type} [DecidableEq α] : List α → Bool
  | [] => true
  | x :: xs => !xs.contains x && allDistinct xs

/-- The data under the tag of a node, if that is a local one with a name. -/
def tagData (tag? : Option Tag) (data : Data) : Data :=
  match tag?.bind Tag.name? with
  | some name => data.withTag name
  | none => data

/-- The data that a node stands for, with at most `depth` collections inside each other. No key of a
mapping is repeated. -/
def readData : Nat → Node → Reading Data
  | depth, node => do
    match depth, ← follow node with
    | _, .scalar tag? text plain =>
      return tagData tag? (← ofOption (scalarData? tag? text plain))
    | depth + 1, .list tag? items => return tagData tag? (.list (← items.mapM (readData depth)))
    | depth + 1, .mapping tag? entries =>
      let entries ← entries.mapM fun (key, value) => do
        return ((← readData depth key).toKey, ← readData depth value)
      if !allDistinct (entries.map (·.1)) then failure
      return tagData tag? (.mapping entries)
    | _, _ => failure

/-! ## Known shapes -/

/-- The text of a scalar as it is written. -/
def readText (node : Node) : Reading String := do
  match ← follow node with
  | .scalar _ text _ => return text
  | _ => failure

/-- The items of a list. Nothing is an empty list. -/
def readItems (node : Node) : Reading (List Node) := do
  match ← follow node with
  | .list _ items => return items
  | node => if node.isAbsent then return [] else failure

/-- The entries of a mapping. Nothing is an empty mapping. -/
def readEntries (node : Node) : Reading (List (Node × Node)) := do
  match ← follow node with
  | .mapping _ entries => return entries
  | node => if node.isAbsent then return [] else failure

/-- The entries of a mapping whose keys are scalars, under the keys as they are written. -/
def readFields (node : Node) : Reading (List (String × Node)) := do
  (← readEntries node).mapM fun (key, value) => do return (← readText key, value)

/-- The choice that a node makes: by its text, or by the name in a local tag on nothing. -/
def readChoice (node : Node) : Reading String := do
  match ← follow node with
  | .scalar tag? text plain =>
    match tag?.bind Tag.name? with
    | some name => if plain && (text.isEmpty || isNull text) then return name else failure
    | none => return text
  | _ => failure

/-- The value of a field, which is not given twice, read by `read`; or `default` where it is left
out. -/
def readField {α : Type} (fields : List (String × Node)) (name : String)
    (read : Node → Reading α) (default : Reading α) : Reading α :=
  match fields.filter (·.1 == name) with
  | [] => default
  | [(_, value)] => read value
  | _ => failure

end SchemaBindings.Yaml
