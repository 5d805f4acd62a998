import SchemaBindings.Decimal.Shortest
import SchemaBindings.OrderedMap
import SchemaBindings.Text.Quoted

/-!
Plain data, as configuration files hold it, and strict readings of it: a text is never taken for a
number or a truth value, nor the other way round.
-/

namespace SchemaBindings

/-- A number: an integer, or a double-precision number. Zero has no sign. -/
inductive Number
  | int (value : Int)
  | float (value : Decimal.Binary64)
  | nan
  deriving Repr, DecidableEq, Inhabited

/-- A text that tells numbers apart. An integer differs from all double-precision numbers. -/
def Number.written : Number → String
  | int value => toString value
  | float value => "float " ++ value.text
  | nan => "nan"

/-- A key of a mapping: a text, a key with a tag, or the written form of other data. -/
inductive DataKey
  | string (text : String)
  | tagged (tag : String) (key : DataKey)
  | other (written : String)
  deriving Repr, DecidableEq, Inhabited

namespace DataKey

/-- The key as it is written. -/
def written : DataKey → String
  | string text => Text.quoted text
  | tagged tag key => "!" ++ Text.quoted tag ++ " " ++ key.written
  | other written => written

/-- The text that a key is, with tags or without. -/
def text? : DataKey → Option String
  | string text => some text
  | tagged _ key => key.text?
  | other _ => none

/-- The text that a key without a tag is. -/
def bareText? : DataKey → Option String
  | string text => some text
  | _ => none

end DataKey

/-- Plain data. Data may have a tag, which says what it is and is put there by `Data.withTag`. -/
inductive Data
  | null
  | bool (value : Bool)
  | number (value : Number)
  | string (text : String)
  | list (items : List Data)
  | mapping (entries : List (DataKey × Data))
  | tagged (tag : String) (data : Data)
  deriving Repr, Inhabited

namespace Data

/-! ## Data as a key -/

mutual

/-- A text that tells data apart. The order of the entries of a mapping does not count. -/
def written : Data → String
  | null => "null"
  | bool value => toString value
  | number value => value.written
  | string text => Text.quoted text
  | list items => "[" ++ ", ".intercalate (writtenItems items) ++ "]"
  | mapping entries =>
    let sorted := (writtenEntries entries).mergeSort fun one other => !(other < one)
    "\x7b" ++ ", ".intercalate sorted ++ "\x7d"
  | tagged tag data => "!" ++ Text.quoted tag ++ " " ++ written data

/-- The texts of the items of a list. -/
def writtenItems : List Data → List String
  | [] => []
  | item :: rest => written item :: writtenItems rest

/-- The texts of the entries of a mapping. -/
def writtenEntries : List (DataKey × Data) → List String
  | [] => []
  | (key, value) :: rest => (key.written ++ ": " ++ written value) :: writtenEntries rest

end

/-- The data as a key. -/
def toKey : Data → DataKey
  | string text => .string text
  | tagged tag data => .tagged tag data.toKey
  | data => .other data.written

/-! ## Tags -/

/-- The data under a tag. An exclamation mark in front of a name does not tell tags apart. -/
def withTag (name : String) (data : Data) : Data :=
  match name.toList with
  | '!' :: c :: rest => tagged (String.ofList (c :: rest)) data
  | _ => tagged name data

/-! ## Strict readings -/

/-- The data without its tags. -/
def untagged : Data → Data
  | tagged _ data => untagged data
  | data => data

/-- The truth value. -/
def bool? (data : Data) : Option Bool :=
  match data.untagged with
  | bool value => some value
  | _ => none

/-- The text. -/
def string? (data : Data) : Option String :=
  match data.untagged with
  | string text => some text
  | _ => none

/-- The text of data without a tag. -/
def bareString? : Data → Option String
  | string text => some text
  | _ => none

/-- The text, or nothing for null. -/
def optionalString? : Data → Option (Option String)
  | null => some none
  | data => data.string?.map some

/-- The texts of a list. Null is an empty list. -/
def strings? (data : Data) : Option (List String) :=
  match data.untagged with
  | null => some []
  | list items => items.mapM string?
  | _ => none

/-- The associations of a mapping, with its keys read by `readKey` and its values by `read`. -/
def readEntries {α : Type} (readKey : DataKey → Option String) (read : Data → Option α)
    (entries : List (DataKey × Data)) : Option (OrderedMap String α) :=
  (entries.mapM fun (key, value) => do return (← readKey key, ← read value)).map
    OrderedMap.ofList

/-- A mapping whose keys are texts, with its values read by `read`. Null is an empty mapping. -/
def mapping? {α : Type} (read : Data → Option α) (data : Data) : Option (OrderedMap String α) :=
  match data.untagged with
  | null => some ∅
  | mapping entries => readEntries DataKey.text? read entries
  | _ => none

/-- The value of the key `name`, which is there only once, read by `read`; or `default` where there
is none. Tags on keys do not count. -/
def readField {α : Type} (entries : List (DataKey × Data)) (name : String)
    (read : Data → Option α) (default : α) : Option α :=
  match entries.filter (·.1.text? = some name) with
  | [] => some default
  | [(_, value)] => read value
  | _ => none

/-- The mapping with the entries of `overriding` written into it, one after the other. A key that is
present keeps its position. -/
def mergeEntries (entries overriding : List (DataKey × Data)) : List (DataKey × Data) :=
  overriding.foldl (fun merged (key, value) => OrderedMap.upsertEntries key (fun _ => value) merged)
    entries

end Data

end SchemaBindings
