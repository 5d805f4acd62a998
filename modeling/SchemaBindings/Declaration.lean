import SchemaBindings.Comment

/-!
Declarations of types in generated code.
-/

namespace SchemaBindings

/-- What a declared type is: a struct, or a string that stands for an enum. -/
inductive DeclarationKind
  | enum
  | struct
  deriving Repr, DecidableEq, Inhabited

/-- The word for the kind. -/
def DeclarationKind.keyword : DeclarationKind → String
  | enum => "string"
  | struct => "struct"

/-- How the blocks of declarations are written: `wrapper` stands after the opening and before the
closing brace, and `transform` is applied to the block with its braces. -/
structure BlockStyle where
  wrapper : String := ""
  transform : String → String := id

/-- A call that a block is the argument of. -/
structure BlockCall where
  name : String
  dropsWrapper : Bool
  deriving Repr, DecidableEq, Inhabited

/-- A declaration. An empty text stands for a part that is left out. -/
structure Declaration where
  name : String := ""
  kind? : Option DeclarationKind := none
  /-- Comment lines in front of the declaration. -/
  comment : String := ""
  /-- Text after the header. -/
  content : String := ""
  /-- Lines between braces. -/
  block : String := ""
  /-- A call around the block. -/
  call? : Option BlockCall := none
  /-- Interfaces for which a marker method is declared. -/
  implements : List String := []
  deriving Repr, DecidableEq, Inhabited

namespace Declaration

/-- Puts a description in front; one that is missing or blank changes nothing. -/
def describe (declaration : Declaration) (description? : Option String) : Declaration :=
  let comment := commentText description? 0
  if comment.isEmpty then declaration else { declaration with comment }

/-- The block with its braces and its call. -/
def blockText (style : BlockStyle) (declaration : Declaration) : String :=
  let dropsWrapper := (declaration.call?.map (·.dropsWrapper)).getD false
  let wrapper := if dropsWrapper then "" else style.wrapper
  let braced :=
    style.transform ("\x7b" ++ wrapper ++ "\n" ++ declaration.block ++ "\n" ++ wrapper ++ "\x7d")
  match declaration.call? with
  | some call => call.name ++ "(" ++ braced ++ ")"
  | none => braced

/-- What follows the header. -/
def body (style : BlockStyle) (declaration : Declaration) : String :=
  if !declaration.block.isEmpty then " " ++ declaration.content ++ declaration.blockText style
  else if !declaration.content.isEmpty then " " ++ declaration.content
  else if declaration.kind? = some .struct then " \x7b\x7d"
  else ""

/-- The marker method that says that the type implements an interface. -/
def markerMethod (type interface : String) : String :=
  "\nfunc (*" ++ type ++ ") Is" ++ interface ++ "() \x7b\x7d"

/-- The declaration as it is written, with a line feed at its end. -/
def text (style : BlockStyle) (declaration : Declaration) : String :=
  let kind :=
    match declaration.kind? with
    | some kind => " " ++ kind.keyword
    | none => ""
  declaration.comment ++ "type " ++ declaration.name ++ kind ++ declaration.body style ++
    String.join (declaration.implements.map (markerMethod declaration.name)) ++ "\n"

end Declaration

end SchemaBindings
