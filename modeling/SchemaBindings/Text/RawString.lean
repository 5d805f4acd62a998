import SchemaBindings.Text.Blank

/-!
Raw string literals: a text between backticks stands for itself. A backtick cannot stand inside one,
so it is spliced in as an interpreted string, and `+` joins the parts.
-/

namespace SchemaBindings.Text

/-- What a backtick inside the text is written as: it closes the literal, adds the one-backtick
string, and opens a new literal. -/
def backtickSplice : List Char := "` + \"`\" + `".toList

/-- The text with each backtick spliced. -/
def spliceBackticks : List Char → List Char
  | [] => []
  | c :: cs => (if c = '\x60' then backtickSplice else [c]) ++ spliceBackticks cs

/-- The string expression for the text without the blanks at its end. -/
def rawStringChars (cs : List Char) : List Char :=
  '\x60' :: spliceBackticks (trimEndChars cs) ++ ['\x60']

/-- The string expression for `text` without the blanks at its end. -/
def rawString (text : String) : String := String.ofList (rawStringChars text.toList)

end SchemaBindings.Text
