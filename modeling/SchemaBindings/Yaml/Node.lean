import SchemaBindings.Yaml.Tag

/-!
Trees of scalars, lists and mappings, some of which stand at several places.
-/

namespace SchemaBindings.Yaml

/-- A node of a document. An alias stands for the node with a number. -/
inductive Node
  | scalar (tag? : Option Tag) (text : String) (plain : Bool)
  | list (tag? : Option Tag) (items : List Node)
  | mapping (tag? : Option Tag) (entries : List (Node × Node))
  | reference (number : Nat)
  deriving Repr, Inhabited

namespace Node

/-- The node where nothing is written. -/
def absent : Node := .scalar none "" true

/-- Whether nothing is written, but for a tag. -/
def isAbsent : Node → Bool
  | scalar _ text plain => plain && text.isEmpty
  | _ => false

mutual

/-- The number of marks that a node needs when it is written in order: one for a scalar or an alias,
two around the parts of a collection. -/
def size : Node → Nat
  | scalar _ _ _ => 1
  | list _ items => 2 + itemsSize items
  | mapping _ entries => 2 + entriesSize entries
  | reference _ => 1

/-- The size of all items. -/
def itemsSize : List Node → Nat
  | [] => 0
  | item :: rest => size item + itemsSize rest

/-- The size of all keys and values. -/
def entriesSize : List (Node × Node) → Nat
  | [] => 0
  | (key, value) :: rest => size key + size value + entriesSize rest

end

end Node

/-- A document: its only node, and the nodes that aliases stand for, by number. -/
structure Document where
  root : Node
  anchored : List (Nat × Node) := []
  deriving Repr, Inhabited

/-- The node with a number. -/
def Document.anchored? (document : Document) (number : Nat) : Option Node :=
  (document.anchored.find? (·.1 = number)).map (·.2)

end SchemaBindings.Yaml
