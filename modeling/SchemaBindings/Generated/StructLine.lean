import SchemaBindings.GoType
import SchemaBindings.Schema.Basic
import SchemaBindings.Text.Lines

/-!
The lines of a struct that holds the result of selections, and how such a struct is written.
-/

namespace SchemaBindings

open SchemaBindings.Text

/-- A line of a struct. -/
inductive StructLine
  /-- The name of the type of the object, with the names it may be. -/
  | typename (pointer : Bool) (types : List String)
  /-- A field without selections, under its own name. -/
  | leaf (name : String) (type : GoType)
  /-- A field without selections, under another name. -/
  | aliased (key name : String) (type : GoType)
  /-- A field with selections: a nested struct, in slices or behind a pointer. -/
  | link (key : String) (depth : Nat) (pointer : Bool) (lines : List StructLine)
  /-- The struct of a fragment, embedded. -/
  | embedded (type : String)
  /-- What is selected only where the object is of the type `onType`. -/
  | branch (identifier onType : String) (lines : List StructLine)
  deriving Repr, Inhabited

namespace StructLine

/-- The tag that names the key in the exchanged data. -/
def keyTag (key : String) : String := "json:\"" ++ key ++ "\""

/-- A struct with the given texts as its lines, which are moved right by a tab. -/
def structOf (texts : List String) : String :=
  if texts.isEmpty then "struct \x7b\x7d"
  else "struct \x7b\n" ++ indent ("\n".intercalate texts) 1 ++ "\n\x7d"

mutual

/-- The text of a line; a nested struct takes several lines of the text. -/
def text : StructLine → String
  | typename pointer types =>
    "Typename " ++ GoType.marks 0 pointer ++ "string `" ++ keyTag Schema.typenameField ++
      " types:\"" ++ ",".intercalate types ++ "\"`"
  | leaf name type => camelCase name ++ " " ++ type.text ++ " `" ++ keyTag name ++ "`"
  | aliased key name type =>
    camelCase key ++ " " ++ type.text ++ " `" ++ keyTag key ++ " originalField:\"" ++ name ++ "\"`"
  | link key depth pointer lines =>
    camelCase key ++ " " ++ GoType.marks depth pointer ++ structOf (texts lines) ++ " `" ++
      keyTag key ++ "`"
  | embedded type => type
  | branch identifier onType lines =>
    "On" ++ identifier ++ " *" ++ structOf (texts lines) ++ " `graphql:\"... on " ++ onType ++ "\"`"

/-- The texts of lines. -/
def texts : List StructLine → List String
  | [] => []
  | line :: rest => text line :: texts rest

end

/-- The struct with the given lines. -/
def structText (lines : List StructLine) : String := structOf (texts lines)

theorem text_mem_texts {line : StructLine} {lines : List StructLine} (h : line ∈ lines) :
    line.text ∈ texts lines := by
  induction lines with
  | nil => cases h
  | cons first rest ih =>
    rw [texts]
    rcases List.mem_cons.1 h with rfl | h
    · exact List.mem_cons_self
    · exact List.mem_cons_of_mem _ (ih h)

theorem exists_of_mem_texts {lines : List StructLine} {text : String} (h : text ∈ texts lines) :
    ∃ line ∈ lines, line.text = text := by
  induction lines with
  | nil => cases h
  | cons first rest ih =>
    rw [texts] at h
    rcases List.mem_cons.1 h with rfl | h
    · exact ⟨first, List.mem_cons_self, rfl⟩
    · obtain ⟨line, hm, he⟩ := ih h
      exact ⟨line, List.mem_cons_of_mem _ hm, he⟩

theorem texts_subset {lines others : List StructLine} (h : lines ⊆ others) :
    texts lines ⊆ texts others := by
  intro text ht
  obtain ⟨line, hm, rfl⟩ := exists_of_mem_texts ht
  exact text_mem_texts (h hm)

end StructLine

end SchemaBindings
