import SchemaBindings.Proofs.DistinctIdentifiers
import SchemaBindings.Proofs.KeptTypes
import SchemaBindings.Yaml.ScalarText

/-!
# Literals of enum constants

The constants of an enum are written as interpreted string literals. `LiteralReads` says how such a
literal is read, with all its escapes, and `literalIs_iff` for which texts the literal is right that
is made by quotes alone: for those without quotes, backslashes and line feeds. The names of values
are such texts, but a text that is set for a value may be any, and nothing in it is escaped
(`Plugin.enum_literals_are_values_iff`).
-/

namespace SchemaBindings

namespace Text

open Yaml (hexValue?)

/-! ## Interpreted literals -/

/-- The digits of a number in a base, from the highest to the lowest. -/
structure Numeral (base : Nat) (digits : List Char) (n : Nat) : Prop where
  digits_lt : ∀ digit ∈ digits, ∃ value < base, hexValue? digit = some value
  value_eq : digits.foldl (fun n digit => base * n + (hexValue? digit).getD 0) 0 = n

/-- The escapes of one character, and the bytes that they stand for. -/
def letterEscapes : List (Char × UInt8) :=
  [('a', 7), ('b', 8), ('t', 9), ('n', 10), ('v', 11), ('f', 12), ('r', 13), ('"', 34), ('\\', 92)]

/-- What may follow a backslash, and the bytes that are meant. -/
inductive EscapeDenotes : List Char → List UInt8 → Prop
  | letter {c : Char} {byte : UInt8} (listed : (c, byte) ∈ letterEscapes) :
      EscapeDenotes [c] [byte]
  | octal {digits : List Char} {n : Nat} (three : digits.length = 3) (numeral : Numeral 8 digits n)
      (small : n < 256) : EscapeDenotes digits [UInt8.ofNat n]
  | byte {digits : List Char} {n : Nat} (two : digits.length = 2) (numeral : Numeral 16 digits n) :
      EscapeDenotes ('x' :: digits) [UInt8.ofNat n]
  | codePoint {mark : Char} {digits : List Char} {n : Nat}
      (width : mark = 'u' ∧ digits.length = 4 ∨ mark = 'U' ∧ digits.length = 8)
      (numeral : Numeral 16 digits n) (valid : n.isValidChar) :
      EscapeDenotes (mark :: digits) (String.utf8EncodeChar (Char.ofNat n))

/-- The character stands for itself in an interpreted literal. -/
def IsPlain (c : Char) : Prop := c ≠ '"' ∧ c ≠ '\\' ∧ c ≠ '\n'

instance (c : Char) : Decidable (IsPlain c) := inferInstanceAs (Decidable (_ ∧ _ ∧ _))

/-- Reading an interpreted literal behind its opening quote: its bytes, and what stands behind its
closing quote, which is the first one that no backslash escapes. -/
inductive LiteralReads : List Char → List UInt8 → List Char → Prop
  | close (after : List Char) : LiteralReads ('"' :: after) [] after
  | plain {c : Char} {rest after : List Char} {bytes : List UInt8} (own : IsPlain c)
      (reads : LiteralReads rest bytes after) :
      LiteralReads (c :: rest) (String.utf8EncodeChar c ++ bytes) after
  | escape {escaped rest after : List Char} {value bytes : List UInt8}
      (denotes : EscapeDenotes escaped value) (reads : LiteralReads rest bytes after) :
      LiteralReads ('\\' :: (escaped ++ rest)) (value ++ bytes) after

/-- The bytes of a text. -/
def utf8Bytes (cs : List Char) : List UInt8 := cs.flatMap String.utf8EncodeChar

/-- The literal that starts behind an opening quote has the text as its value, and no other. -/
structure LiteralIs (code text : List Char) : Prop where
  reads : ∃ after, LiteralReads code (utf8Bytes text) after
  unique : ∀ bytes after, LiteralReads code bytes after → bytes = utf8Bytes text

/-! ## Bytes that are read -/

@[simp] theorem utf8Bytes_cons (c : Char) (cs : List Char) :
    utf8Bytes (c :: cs) = String.utf8EncodeChar c ++ utf8Bytes cs := List.flatMap_cons

@[simp] theorem utf8Bytes_append (first second : List Char) :
    utf8Bytes (first ++ second) = utf8Bytes first ++ utf8Bytes second := List.flatMap_append

theorem length_le_utf8Bytes (cs : List Char) : cs.length ≤ (utf8Bytes cs).length := by
  induction cs with
  | nil => exact Nat.le_refl _
  | cons c cs ih =>
    have := c.utf8Size_pos
    rw [utf8Bytes_cons, List.length_append, String.length_utf8EncodeChar, List.length_cons]
    omega

theorem Numeral.not_mem_newline {base n : Nat} {digits : List Char}
    (numeral : Numeral base digits n) : '\n' ∉ digits := by
  intro mem
  obtain ⟨value, -, read⟩ := numeral.digits_lt '\n' mem
  cases read

theorem EscapeDenotes.length_le {escaped : List Char} {value : List UInt8}
    (denotes : EscapeDenotes escaped value) : '\n' ∉ escaped ∧ value.length ≤ escaped.length := by
  cases denotes with
  | @letter c byte listed =>
    refine ⟨fun mem => ?_, Nat.le_refl _⟩
    obtain rfl := List.mem_singleton.1 mem
    simp [letterEscapes] at listed
  | octal three numeral small => exact ⟨numeral.not_mem_newline, by simp [three]⟩
  | byte two numeral => exact ⟨by simp [numeral.not_mem_newline], by simp⟩
  | @codePoint mark digits n width numeral valid =>
    have size := (Char.ofNat n).utf8Size_le_four
    rw [String.length_utf8EncodeChar, List.length_cons]
    refine ⟨?_, by omega⟩
    rw [List.mem_cons, not_or]
    exact ⟨by rcases width with ⟨rfl, -⟩ | ⟨rfl, -⟩ <;> decide, numeral.not_mem_newline⟩

theorem LiteralReads.exists_body {code after : List Char} {bytes : List UInt8}
    (reads : LiteralReads code bytes after) :
    ∃ body, code = body ++ '"' :: after ∧ '\n' ∉ body ∧
      bytes.length ≤ (utf8Bytes body).length ∧
      (bytes.length = (utf8Bytes body).length → ∀ c ∈ body, IsPlain c) := by
  induction reads with
  | close after => exact ⟨[], rfl, List.not_mem_nil, Nat.le_refl _, fun _ => List.forall_mem_nil _⟩
  | @plain c rest after bytes own reads ih =>
    obtain ⟨body, rfl, oneLine, short, exact⟩ := ih
    refine ⟨c :: body, rfl, by simp [oneLine, Ne.symm own.2.2], by simpa using short, ?_⟩
    intro same
    exact List.forall_mem_cons.2 ⟨own, exact (by simpa using same)⟩
  | @escape escaped rest after value bytes denotes reads ih =>
    obtain ⟨body, rfl, oneLine, short, -⟩ := ih
    obtain ⟨clean, fits⟩ := denotes.length_le
    have shorter : (value ++ bytes).length < (utf8Bytes ('\\' :: (escaped ++ body))).length := by
      have written := length_le_utf8Bytes escaped
      have backslash : (String.utf8EncodeChar '\\').length = 1 := rfl
      rw [utf8Bytes_cons, utf8Bytes_append, List.length_append, List.length_append,
        List.length_append, backslash]
      omega
    exact ⟨'\\' :: (escaped ++ body), by simp, by simp [clean, oneLine],
      Nat.le_of_lt shorter, fun same => absurd same (Nat.ne_of_lt shorter)⟩

/-! ## Texts in quotes -/

theorem LiteralReads.of_plain {text : List Char} (plain : ∀ c ∈ text, IsPlain c)
    (after : List Char) : LiteralReads (text ++ '"' :: after) (utf8Bytes text) after := by
  induction text with
  | nil => exact .close after
  | cons c cs ih =>
    obtain ⟨own, others⟩ := List.forall_mem_cons.1 plain
    exact .plain own (ih others)

theorem LiteralReads.exists_of_plain {c : Char} {rest after : List Char} {bytes : List UInt8}
    (own : IsPlain c) (reads : LiteralReads (c :: rest) bytes after) :
    ∃ more, LiteralReads rest more after ∧ bytes = String.utf8EncodeChar c ++ more := by
  generalize code_eq : c :: rest = code at reads
  cases reads with
  | close =>
    obtain ⟨rfl, -⟩ := List.cons.inj code_eq
    exact absurd rfl own.1
  | @plain c rest after bytes _ reads =>
    obtain ⟨rfl, rfl⟩ := List.cons.inj code_eq
    exact ⟨bytes, reads, rfl⟩
  | escape =>
    obtain ⟨rfl, -⟩ := List.cons.inj code_eq
    exact absurd rfl own.2.1

theorem LiteralReads.bytes_eq {text after rest : List Char} {bytes : List UInt8}
    (plain : ∀ c ∈ text, IsPlain c) (reads : LiteralReads (text ++ '"' :: after) bytes rest) :
    bytes = utf8Bytes text := by
  induction text generalizing bytes with
  | nil =>
    cases reads with
    | close => rfl
    | plain own => exact absurd rfl own.1
  | cons c cs ih =>
    obtain ⟨own, others⟩ := List.forall_mem_cons.1 plain
    obtain ⟨more, later, rfl⟩ := reads.exists_of_plain own
    rw [ih others later, utf8Bytes_cons]

theorem literalIs_iff {text after : List Char} :
    LiteralIs (text ++ '"' :: '\n' :: after) text ↔ ∀ c ∈ text, IsPlain c := by
  refine ⟨fun ⟨⟨rest, reads⟩, _⟩ => ?_, fun plain => ⟨⟨_, .of_plain plain _⟩,
    fun _ _ reads => reads.bytes_eq plain⟩⟩
  obtain ⟨body, split, oneLine, short, exact⟩ := reads.exists_body
  -- The literal ends in its line, so what it is read from does not go beyond the text.
  have within : body.length ≤ text.length := by
    by_contra beyond
    have feed : (body ++ '"' :: rest)[text.length + 1]? = some '\n' := by simp [← split]
    rcases Nat.lt_or_eq_of_le (Nat.lt_of_not_le beyond) with inside | last
    · rw [List.getElem?_append_left inside] at feed
      exact oneLine (List.mem_of_getElem? feed)
    · simp [← last] at feed
  obtain ⟨more, rfl⟩ : body <+: text :=
    List.prefix_of_prefix_length_le ⟨_, split.symm⟩ ⟨_, rfl⟩ within
  rw [utf8Bytes_append, List.length_append] at short exact
  have none : more = [] := by
    have := length_le_utf8Bytes more
    exact List.length_eq_zero_iff.1 (by omega)
  subst none
  simpa using exact (by simp [utf8Bytes])

theorem NameChars.isPlain {cs : List Char} (chars : NameChars cs) : ∀ c ∈ cs, IsPlain c := by
  have alphanumeric : ∀ c : Char, c.isAlphanum = true → IsPlain c := fun c h =>
    of_ascii (P := fun c => c.isAlphanum = true → IsPlain c) (by decide)
      (toNat_lt_of_isAlphanum h) h
  intro c mem
  rcases chars c mem with rfl | h
  · decide
  · exact alphanumeric c h

end Text

open Text

/-! ## Constants of enums -/

namespace TypeGenerator

variable {generator : TypeGenerator}

/-- The constant for a value of an enum. -/
def constantFor (generator : TypeGenerator) (definition : TypeDefinition) (value : EnumValue) :
    EnumConstant where
  name := enumConstantName (generator.options.names.convert definition.name) value.name
  value := generator.enumValueText definition.name value.name
  description? := value.description?

theorem typeItems_of_enum {definition : TypeDefinition} {values : List EnumValue}
    (body : definition.body = .enum values) (included : generator.includes definition.name = true)
    (asConstants : generator.options.enumsAsTypes = false)
    (own : generator.options.externalEnum? definition.name = none) :
    generator.typeItems definition =
      [.constants (generator.options.names.convert definition.name) definition.description?
        (values.map (generator.constantFor definition)) generator.options.constEnums] := by
  unfold typeItems enumItem
  simp only [body, included, own, asConstants, if_true, Bool.false_eq_true, if_false]
  rfl

/-- The line of each constant stands in the output. -/
theorem hasLineStart_constantFor (generator : TypeGenerator) {schema : Schema}
    {definition : TypeDefinition} (mem : definition ∈ schema.types) {values : List EnumValue}
    (body : definition.body = .enum values) (included : generator.includes definition.name = true)
    (asConstants : generator.options.enumsAsTypes = false)
    (own : generator.options.externalEnum? definition.name = none) {value : EnumValue}
    (listed : value ∈ values) (options : Options) (info : PluginInfo) :
    HasLineStart (Plugin.typesOutput generator schema options info).content
      ((generator.constantFor definition value).line
        (generator.options.names.convert definition.name) ++ "\n") := by
  have line := TypeItem.hasLineStart_constantLine
    (List.mem_map_of_mem (f := generator.constantFor definition) listed)
    (generator.options.names.convert definition.name) definition.description?
    generator.options.constEnums generator.style
  refine (Plugin.hasLineStart_typesOutput (Schema.mem_types.1 mem) ?_ options info).trans line
  rw [TypeGenerator.items, typeItems_of_enum body included asConstants own]
  exact List.mem_singleton_self _

end TypeGenerator

namespace Plugin

/-- The text for an enum value, the one that is set or else its name, is the value of the literal on
its line exactly if it is not set or has no quotes, backslashes and line feeds. -/
theorem enum_literals_are_values_iff (schema : Schema) (files : List DocumentFile)
    (options : Options) (info : PluginInfo) {definition : TypeDefinition}
    (mem : definition ∈ schema.types) {values : List EnumValue}
    (body : definition.body = .enum values)
    (chars : ∀ value ∈ values, NameChars value.name.toList)
    (asConstants : options.enumsAsTypes = false)
    (own : options.externalEnum? definition.name = none) :
    ∀ value ∈ values,
      let enum := options.names.convert definition.name
      let override? := options.enumValueOverride? definition.name value.name
      let text := override?.getD value.name
      let line := "\t" ++ enumConstantName enum value.name ++ " " ++ enum ++ " = \"" ++ text ++ "\""
      HasLineStart (runTypes schema options info).content (line ++ "\n") ∧
      (definition.name ∈ schema.usedTypes (DocumentFile.concat files) →
        HasLineStart (runUsedTypes schema files options info).content (line ++ "\n")) ∧
      ∀ after, (LiteralIs (text.toList ++ '"' :: '\n' :: after) text.toList ↔
        ∀ override, override? = some override → ∀ c ∈ override.toList, IsPlain c) := by
  intro value listed enum override? text line
  refine ⟨?_, fun used => ?_, fun after => ?_⟩
  · exact TypeGenerator.hasLineStart_constantFor (.ofSchema schema options) mem body rfl asConstants
      own listed options info
  · let generator := TypeGenerator.ofUsed schema options (DocumentFile.concat files)
    have included : generator.includes definition.name = true := List.contains_iff_mem.2 used
    exact generator.hasLineStart_constantFor mem body included asConstants own listed options info
  · rw [literalIs_iff]
    cases set : options.enumValueOverride? definition.name value.name with
    | none =>
      have name : text = value.name := by simp [text, override?, set]
      refine iff_of_true ?_ (fun override h => ?_)
      · rw [name]
        exact (chars value listed).isPlain
      · simp [override?, set] at h
    | some override =>
      have same : text = override := by simp [text, override?, set]
      simp [same, override?, set]

/-- The values of `enum Role { ADMIN GUEST_USER }`. -/
def roleValues : List EnumValue := [{ name := "ADMIN" }, { name := "GUEST_USER" }]

/-- The enum with these values. -/
def roleType : TypeDefinition where
  name := "Role"
  body := .enum roleValues

/-- The options that set a text for the first value of `roleType`. -/
def roleOptions (text : String) : Options where
  enumValues := .ofList [("Role", .overrides (.ofList [("ADMIN", text)]))]

theorem role_literals_are_values :
    let schema := Schema.ofDefinitions [.type roleType]
    let options := roleOptions "größer"
    (roleType ∈ schema.types ∧ roleType.body = .enum roleValues ∧
      (∀ value ∈ roleValues, NameChars value.name.toList) ∧
      options.enumsAsTypes = false ∧ options.externalEnum? roleType.name = none) ∧
    HasLineStart (runTypes schema options {}).content "\tRoleAdmin Role = \"größer\"\n" ∧
    ∀ after, LiteralIs ("größer".toList ++ '"' :: '\n' :: after) "größer".toList := by
  intro schema options
  have mem : roleType ∈ schema.types := Schema.mem_types.2 List.mem_cons_self
  have chars : ∀ value ∈ roleValues, NameChars value.name.toList := by decide
  have own : options.externalEnum? roleType.name = none := by decide +kernel
  have text : options.enumValueOverride? roleType.name "ADMIN" = some "größer" := by
    decide +kernel
  have line : "\t" ++ enumConstantName (options.names.convert roleType.name) "ADMIN" ++ " " ++
      options.names.convert roleType.name ++ " = \"" ++ "größer" ++ "\"" ++ "\n" =
        "\tRoleAdmin Role = \"größer\"\n" := by
    decide +kernel
  obtain ⟨written, -, literal⟩ := enum_literals_are_values_iff schema [] options {} mem rfl chars
    rfl own { name := "ADMIN" } List.mem_cons_self
  dsimp only at written literal
  rw [text, Option.getD_some] at written literal
  refine ⟨⟨mem, rfl, chars, rfl, own⟩, line ▸ written, fun after => (literal after).2 ?_⟩
  intro override same
  obtain rfl := Option.some.inj same
  simp [IsPlain]

theorem quoted_literal_is_no_value :
    let schema := Schema.ofDefinitions [.type roleType]
    (∃ front, (runTypes schema (roleOptions "the \"boss\"") {}).content = front ++
      "\tRoleAdmin Role = \"the \"boss\"\"\n\tRoleGuestUser Role = \"GUEST_USER\"\n)\n") ∧
    ∀ after, ¬LiteralIs ("the \"boss\"".toList ++ '"' :: '\n' :: after)
      "the \"boss\"".toList := by
  intro schema
  refine ⟨⟨(TypeGenerator.ofSchema schema {}).scalarsText schema ++
    "\n\ntype Role string\n\nconst (\n", by decide +kernel⟩, fun after is => ?_⟩
  exact (literalIs_iff.1 is '"' (by decide)).1 rfl

end Plugin

end SchemaBindings
