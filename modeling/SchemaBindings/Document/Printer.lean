import SchemaBindings.Decimal.Shortest
import SchemaBindings.Document.Definition
import SchemaBindings.Text.Lines

/-!
The printed form of executable documents: two spaces for each level, one selection a line.
-/

namespace SchemaBindings

open SchemaBindings.Text

/-- The blanks in front of a line at `level`. -/
def margin (level : Nat) : String := String.ofList (List.replicate (2 * level) ' ')

/-- Whether a text is printed as a block: it has several lines, and all its characters are line
feeds, carriage returns, tabs or from U+0020 to U+FFFF. -/
def printsAsBlock (cs : List Char) : Bool :=
  cs.contains '\n' && cs.all fun c =>
    c == '\n' || c == '\r' || c == '\t' || (0x20 ≤ c.toNat && c.toNat ≤ 0xFFFF)

/-- A character of a text on one line. Beyond the plain ones, the code is written in decimal. -/
def printChar (c : Char) : List Char :=
  if c = '\r' then ['\\', 'r']
  else if c = '\n' then ['\\', 'n']
  else if c = '\t' then ['\\', 't']
  else if c = '"' then ['\\', '"']
  else if c = '\\' then ['\\', '\\']
  else if 0x20 ≤ c.toNat && c.toNat ≤ 0xFFFF then [c]
  else
    let digits := Nat.toDigits 10 c.toNat
    '\\' :: 'u' :: List.replicate (4 - digits.length) '0' ++ digits

/-- Writes a backslash before three quotes. -/
def escapeQuotes : List Char → List Char
  | '"' :: '"' :: '"' :: cs => '\\' :: '"' :: '"' :: '"' :: escapeQuotes cs
  | c :: cs => c :: escapeQuotes cs
  | [] => []

/-- A line of a block text; blank lines are empty. -/
def blockLine (level : Nat) (line : List Char) : String :=
  if line.all isBlank then "\n"
  else margin (level + 1) ++ String.ofList (escapeQuotes line) ++ "\n"

/-- The printed form of a text that stands at `level`. -/
def textLiteral (level : Nat) (text : String) : String :=
  if printsAsBlock text.toList then
    "\"\"\"\n" ++ String.join ((lineChars text.toList).map (blockLine level)) ++ margin level ++
      "\"\"\""
  else "\"" ++ String.ofList (text.toList.flatMap printChar) ++ "\""

namespace Value

mutual

/-- The printed form of a value that stands at `level`. -/
def print (level : Nat) : Value → String
  | .variable name => "$" ++ name
  | int value => toString value
  | float value => value.text
  | string text => textLiteral level text
  | boolean value => if value then "true" else "false"
  | null => "null"
  | enumName name => name
  | list items => "[" ++ ", ".intercalate (printItems level items) ++ "]"
  | object fields => "\x7b" ++ ", ".intercalate (printFields level fields) ++ "\x7d"

/-- The printed forms of the items of a list. -/
def printItems (level : Nat) : List Value → List String
  | [] => []
  | item :: rest => print level item :: printItems level rest

/-- The printed forms of the fields of an object. -/
def printFields (level : Nat) : List (String × Value) → List String
  | [] => []
  | (name, value) :: rest => (name ++ ": " ++ print level value) :: printFields level rest

end

end Value

/-- The printed form of arguments, with their parentheses. -/
def printArguments (level : Nat) (arguments : List (String × Value)) : String :=
  if arguments.isEmpty then ""
  else "(" ++ ", ".intercalate (Value.printFields level arguments) ++ ")"

/-- The printed form of a directive. -/
def Directive.print (level : Nat) (directive : Directive) : String :=
  "@" ++ directive.name ++ printArguments level directive.arguments

/-- The printed form of directives, with a space in front of each. -/
def printDirectives (level : Nat) (directives : List Directive) : String :=
  String.join (directives.map fun directive => " " ++ directive.print level)

namespace Selection

mutual

/-- The lines of a selection at `level`. -/
def print (level : Nat) : Selection → String
  | field call selections =>
    let key := match call.alias? with
      | some responseName => responseName ++ ": "
      | none => ""
    margin level ++ key ++ call.name ++ printArguments level call.arguments ++
      printDirectives level call.directives ++
      (if selections.isEmpty then "\n" else " " ++ printBlock level selections)
  | spread fragment directives =>
    margin level ++ "..." ++ fragment ++ printDirectives level directives ++ "\n"
  | inline condition? directives selections =>
    let condition := match condition? with
      | some type => " on " ++ type
      | none => ""
    margin level ++ "..." ++ condition ++ printDirectives level directives ++ " " ++
      printBlock level selections

/-- The selections between braces; the closing brace stands at `level`. -/
def printBlock (level : Nat) : List Selection → String
  | [] => "\x7b\n" ++ margin level ++ "\x7d\n"
  | first :: rest =>
    "\x7b\n" ++ print (level + 1) first ++ printAll (level + 1) rest ++ margin level ++ "\x7d\n"

/-- The lines of selections at `level`. -/
def printAll (level : Nat) : List Selection → String
  | [] => ""
  | selection :: rest => print level selection ++ printAll level rest

end

end Selection

/-- The printed form of a variable. -/
def VariableDefinition.print (definition : VariableDefinition) : String :=
  "$" ++ definition.name ++ ": " ++ definition.type.text ++
    match definition.default? with
    | some value => " = " ++ value.print 0
    | none => ""

/-- What stands between the variables of an operation of the kind. Nothing stands between those of
a subscription. -/
def OperationKind.variableSeparator : OperationKind → String
  | subscription => ""
  | query => ", "
  | mutation => ", "

/-- The printed form of an operation. -/
def Operation.print (operation : Operation) : String :=
  let name := match operation.name? with
    | some name => " " ++ name
    | none => ""
  let definitions := operation.variableDefinitions.map (·.print)
  let group :=
    if definitions.isEmpty then ""
    else "(" ++ operation.kind.variableSeparator.intercalate definitions ++ ")"
  operation.kind.keyword ++ name ++ group ++ printDirectives 0 operation.directives ++ " " ++
    Selection.printBlock 0 operation.selections

/-- The printed form of a fragment. -/
def Fragment.print (fragment : Fragment) : String :=
  "fragment " ++ fragment.name ++ " on " ++ fragment.onType ++
    printDirectives 0 fragment.directives ++ " " ++ Selection.printBlock 0 fragment.selections

end SchemaBindings
