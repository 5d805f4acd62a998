import SchemaBindings.Yaml.ScalarText

/-!
The tags of nodes. Escapes in a tag stand for bytes, and only their outer form is judged, so a tag
need not be a text. It ends in front of its first null byte.
-/

namespace SchemaBindings.Yaml

/-- A tag, as its bytes. -/
structure Tag where
  bytes : List UInt8
  deriving Repr, DecidableEq, Inhabited

namespace Tag

/-- The tag that ends at the first null byte of `bytes`. -/
def ofBytes (bytes : List UInt8) : Tag := ⟨bytes.takeWhile (· != 0)⟩

/-- The tag that is a text. -/
def ofText (text : String) : Tag := ofBytes text.toUTF8.toList

/-- The tag with another one behind it. -/
def append (tag rest : Tag) : Tag := ⟨tag.bytes ++ rest.bytes⟩

/-- Whether nothing is written. -/
def isEmpty (tag : Tag) : Bool := tag.bytes.isEmpty

/-- The tag of a common kind. -/
def common (kind : String) : Tag := ofText ("tag:yaml.org,2002:" ++ kind)

/-- The byte that starts a local tag. -/
def localMark : UInt8 := 0x21

/-- Whether the tag starts with an exclamation mark. -/
def isLocal (tag : Tag) : Bool := tag.bytes.head? == some localMark

/-- The name in a local tag, if it is a text: what follows the exclamation mark, or that mark where
nothing follows. -/
def name? (tag : Tag) : Option String :=
  if !tag.isLocal then none
  else
    let rest := tag.bytes.tail
    String.fromUTF8? ⟨(if rest.isEmpty then [localMark] else rest).toArray⟩

/-! ## Escapes -/

/-- The number of bytes that follow the first byte of a character. -/
def followers? (byte : Nat) : Option Nat :=
  if byte < 0x80 then some 0
  else if byte < 0xC0 then none
  else if byte < 0xE0 then some 1
  else if byte < 0xF0 then some 2
  else if byte < 0xF8 then some 3
  else none

/-- The number of bytes that are still owed after `byte`, where it is one of `owed` bytes that
follow a first byte, or is a first byte itself. -/
def owedAfter? (owed byte : Nat) : Option Nat :=
  match owed with
  | 0 => followers? byte
  | owed + 1 => if 0x80 ≤ byte && byte < 0xC0 then some owed else none

/-- The bytes that are written, `owed` of them to complete a character. A percent sign and two
digits stand for a byte, and all bytes of a character stand so or none. -/
def written? (owed : Nat) : List Char → Option (List UInt8)
  | [] => if owed = 0 then some [] else none
  | '%' :: high :: low :: rest => do
    let byte := 16 * (← hexValue? high) + (← hexValue? low)
    return UInt8.ofNat byte :: (← written? (← owedAfter? owed byte) rest)
  | '%' :: _ => none
  | c :: rest =>
    if owed = 0 then do return (String.singleton c).toUTF8.toList ++ (← written? 0 rest) else none

end Tag

end SchemaBindings.Yaml
