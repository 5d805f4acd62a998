import SchemaBindings.Text.Lines

/-!
Descriptions as line comments.
-/

namespace SchemaBindings

open SchemaBindings.Text

/-- One line of a comment, at `level` tabs. -/
def commentLine (level : Nat) (line : List Char) : String :=
  let text := trimEndChars line
  if text.isEmpty then tabs level ++ "//\n" else tabs level ++ "// " ++ String.ofList text ++ "\n"

/-- The lines of a description as comments, each ended by a line feed. A description that is
missing or blank gives no text. -/
def commentText (description? : Option String) (level : Nat) : String :=
  match description? with
  | none => ""
  | some description =>
    String.join ((lineChars (trim description).toList).map (commentLine level))

end SchemaBindings
