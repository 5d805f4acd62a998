import SchemaBindings.Proofs.CamelLetters
import SchemaBindings.Proofs.CodeWithoutComments
import SchemaBindings.Proofs.DistinctIdentifiers

/-!
# Identifiers of fields

The structs that are declared for the types of a schema: one for each type, with its fields, and one
for each field with arguments, with these (`TypeGenerator.map_fieldNames_typeItems`). Each field has
a line in its struct (`TypeItem.hasLineStart_line`) under the camel case of its name. This is an
identifier that other packages can use where the name starts with a letter, and two names share it
where they have the same letters (`Plugin.runTypes_fields_exported_iff`).
-/

namespace SchemaBindings

open Text

/-! ## Names of fields -/

namespace TypeBody

/-- The names of the arguments of each field that has some. -/
def argumentNames (body : TypeBody) : List (List String) :=
  (body.outputFields.filter (!·.arguments.isEmpty)).map fun field => field.arguments.map (·.name)

/-- The names that stand for the fields of each struct for a type. -/
def structNames (body : TypeBody) : List (List String) := body.fieldNames :: body.argumentNames

end TypeBody

/-- The names of fields and arguments consist of letters, digits and underscores. -/
def Schema.HasNameChars (schema : Schema) : Prop :=
  ∀ definition ∈ schema.types, ∀ names ∈ definition.body.structNames, ∀ name ∈ names,
    NameChars name.toList

instance (schema : Schema) : Decidable schema.HasNameChars :=
  inferInstanceAs (Decidable (∀ definition ∈ schema.types,
    ∀ names ∈ definition.body.structNames, ∀ name ∈ names, NameChars name.toList))

/-! ## Structs -/

/-- The names of the fields of the struct that an item declares. -/
def TypeItem.fieldNames (item : TypeItem) : List String := item.fields.map (·.name)

namespace TypeGenerator

variable {generator : TypeGenerator}

@[simp] theorem name_outputField (field : FieldDefinition) :
    (generator.outputField field).name = field.name := rfl

@[simp] theorem name_inputField (value : InputValue) :
    (generator.inputField value).name = value.name := rfl

theorem map_fieldNames_compositeItems {definition : TypeDefinition} {interfaces : List String}
    {fields : List FieldDefinition} (outputs : definition.body.outputFields = fields)
    (inputs : definition.body.inputFields = []) :
    (generator.compositeItems definition interfaces fields).map TypeItem.fieldNames =
      definition.body.structNames := by
  rw [TypeBody.structNames, TypeBody.fieldNames, TypeBody.argumentNames, outputs, inputs,
    List.map_nil, List.append_nil]
  refine (List.map_cons ..).trans ?_
  rw [filterMap_argumentsItem?, List.map_map]
  simp [TypeItem.fieldNames, TypeItem.fields]

theorem map_fieldNames_enumItem {definition : TypeDefinition} {values : List EnumValue}
    (enum : definition.body = .enum values) :
    [(generator.enumItem definition values).fieldNames] = definition.body.structNames := by
  rw [TypeItem.fieldNames, (standsFor_enumItem enum).fields, enum]
  rfl

/-- The structs for a type have its fields, and the arguments of each field that has some. -/
theorem map_fieldNames_typeItems (full : generator.included? = none) {definition : TypeDefinition}
    (noScalar : definition.kind ≠ .scalar) :
    (generator.typeItems definition).map TypeItem.fieldNames = definition.body.structNames := by
  have includes : generator.includes definition.name = true := by
    unfold includes
    rw [full]
  unfold TypeDefinition.kind at noScalar
  unfold typeItems
  cases body : definition.body with
  | enum values =>
    dsimp only
    rw [if_pos includes, ← body]
    exact map_fieldNames_enumItem body
  | inputObject fields =>
    simp [TypeItem.fieldNames, TypeItem.fields, TypeBody.structNames, TypeBody.fieldNames,
      TypeBody.argumentNames, TypeBody.outputFields, TypeBody.inputFields]
  | interface interfaces fields =>
    dsimp only
    rw [← body]
    exact map_fieldNames_compositeItems (congrArg TypeBody.outputFields body)
      (congrArg TypeBody.inputFields body)
  | object interfaces fields =>
    dsimp only
    rw [if_pos includes, ← body]
    exact map_fieldNames_compositeItems (congrArg TypeBody.outputFields body)
      (congrArg TypeBody.inputFields body)
  | scalar =>
    rw [body] at noScalar
    exact absurd rfl noScalar
  | union members => rfl

theorem fieldNames_mem_structNames {definition : TypeDefinition} (full : generator.included? = none)
    {item : TypeItem} (mem : item ∈ generator.typeItems definition) :
    item.fieldNames ∈ definition.body.structNames := by
  rw [← map_fieldNames_typeItems full]
  · exact List.mem_map_of_mem mem
  · intro scalar
    obtain ⟨name, description?, directives, body⟩ := definition
    cases body <;> cases scalar
    cases mem

end TypeGenerator

namespace TypeItem

/-- Each field has its line in the struct. -/
theorem hasLineStart_line {item : TypeItem} {field : StructField} (mem : field ∈ item.fields) :
    HasLineStart (item.text {}) field.line := by
  cases item with
  | record name description? fields interfaces =>
    obtain ⟨front, back, text_eq⟩ := @Declaration.exists_text_block
      { name, kind? := some .struct, implements := interfaces } rfl
    have nonempty : (StructField.block fields).isEmpty = false := by
      rw [StructField.isEmpty_block, List.isEmpty_eq_false_iff]
      exact List.ne_nil_of_mem mem
    have line : HasLineStart (StructField.block fields) field.line :=
      .intercalate (List.mem_map_of_mem mem)
        ((HasLineStart.refl _).prepend (commentText_endsLine field.description? 1))
    show HasLineStart ((Declaration.describe _ description?).text {}) _
    rw [Declaration.text_describe _ rfl, text_eq _ nonempty]
    exact ((line.prepend (endsLine_append_newline front)).append back).prepend
      (commentText_endsLine description? 0)
  | union _ _ _ => cases mem
  | constants _ _ _ _ => cases mem
  | plainString _ _ _ => cases mem
  | typeAlias _ _ _ => cases mem

end TypeItem

/-! ## Outputs -/

namespace Plugin

/-- Identifiers of fields are exported exactly if the first letter or digit of the name is a letter,
and equal exactly if the letters and digits of the names and the beginnings of words are. -/
theorem runTypes_fields_exported_iff {schema : Schema} (chars : schema.HasNameChars)
    (options : Options) (info : PluginInfo) :
    let generator := TypeGenerator.ofSchema schema options
    ∀ definition ∈ schema.types,
      (definition.kind ≠ .scalar →
        (generator.typeItems definition).map TypeItem.fieldNames = definition.body.structNames) ∧
      ∀ item ∈ generator.typeItems definition,
        HasLineStart (runTypes schema options info).content (item.text {}) ∧
        (∀ field ∈ item.fields, HasLineStart (item.text {}) field.line ∧
          (∀ c ∈ field.identifier.toList, c.isAlphanum = true) ∧
          (IsExported field.identifier ↔ startsWithLetter field.name = true)) ∧
        ∀ first ∈ item.fields, ∀ second ∈ item.fields,
          (first.identifier = second.identifier ↔
            camelLetters [] first.name.toList = camelLetters [] second.name.toList) := by
  intro generator definition mem
  refine ⟨TypeGenerator.map_fieldNames_typeItems rfl, fun item hi => ?_⟩
  have name_chars : ∀ field ∈ item.fields, NameChars field.name.toList := fun field hf =>
    chars definition mem _ (TypeGenerator.fieldNames_mem_structNames rfl hi) _
      (List.mem_map_of_mem hf)
  refine ⟨?_, fun field hf => ⟨TypeItem.hasLineStart_line hf, fun c hc => ?_, ?_⟩, ?_⟩
  · exact hasLineStart_typesOutput (Schema.mem_types.1 mem) hi options info
  · rw [StructField.identifier, camelCase, String.toList_ofList] at hc
    exact isAlphanum_of_mem_camelCaseChars (name_chars field hf) hc
  · exact isExported_camelCase_iff (name_chars field hf)
  · intro first hf second hs
    exact camelCase_eq_iff (name_chars first hf) (name_chars second hs)

/-- The type `type Account { user_id: ID, HTTPServer(first_name: ID, lastName2: ID): String }`. -/
def accountType : TypeDefinition where
  name := "Account"
  body := .object []
    [{ name := "user_id", type := .named "ID" },
     { name := "HTTPServer"
       type := .named "String"
       arguments := [{ name := "first_name", type := .named "ID" },
         { name := "lastName2", type := .named "ID" }] }]

theorem account_fields_exported :
    let schema := Schema.ofDefinitions [.type accountType]
    schema.HasNameChars ∧
    ∀ item ∈ (TypeGenerator.ofSchema schema {}).typeItems accountType,
      (∀ field ∈ item.fields, IsExported field.identifier) ∧
      ∀ first ∈ item.fields, ∀ second ∈ item.fields,
        first.name ≠ second.name → first.identifier ≠ second.identifier := by
  intro schema
  have chars : schema.HasNameChars := by decide +kernel
  have names : ∀ item ∈ (TypeGenerator.ofSchema schema {}).typeItems accountType,
      (∀ field ∈ item.fields, startsWithLetter field.name = true) ∧
      ∀ first ∈ item.fields, ∀ second ∈ item.fields,
        camelLetters [] first.name.toList = camelLetters [] second.name.toList →
          first.name = second.name := by
    decide +kernel
  have mem : accountType ∈ schema.types := Schema.mem_types.2 List.mem_cons_self
  refine ⟨chars, fun item hi => ?_⟩
  obtain ⟨letters, same⟩ := names item hi
  obtain ⟨-, exported, identifiers⟩ :=
    (runTypes_fields_exported_iff chars {} {} accountType mem).2 item hi
  refine ⟨fun field hf => (exported field hf).2.2.2 (letters field hf), ?_⟩
  intro first hf second hs apart repeated
  exact apart (same first hf second hs ((identifiers first hf second hs).1 repeated))

/-- The type `type Query { _: ID, user_id: ID, userId: ID }`. -/
def userIdType : TypeDefinition where
  name := "Query"
  body := .object [] (["_", "user_id", "userId"].map fun name => { name, type := .named "ID" })

/-- Different names can have one identifier, and a name can leave nothing for it. -/
theorem user_id_identifier_repeated :
    let schema := Schema.ofDefinitions [.type userIdType]
    schema.HasDistinctNames ∧ schema.HasNameChars ∧
    (∃ front, (runTypes schema {} {}).content =
      front ++ "type Query struct \x7b\n\t *ID `json:\"_\"`\n" ++
        "\tUserId *ID `json:\"user_id\"`\n\tUserId *ID `json:\"userId\"`\n\x7d\n") ∧
    ¬IsExported "" := by
  intro schema
  refine ⟨by decide +kernel, by decide +kernel,
    ⟨(TypeGenerator.ofSchema schema {}).scalarsText schema ++ "\n\n", by decide +kernel⟩, ?_⟩
  exact fun exported => Bool.false_ne_true exported.capital

end Plugin

end SchemaBindings
