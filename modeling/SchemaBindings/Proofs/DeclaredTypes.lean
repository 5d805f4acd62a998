import SchemaBindings.Plugin
import SchemaBindings.Proofs.SchemaExtensions

/-!
# Declared types

Which declarations stand in generated code (`DeclaresType`). The code for the types of a schema that
documents use declares each of these types under its converted name, unless it is in the table of
scalars (`declaresType_of_used`).
-/

namespace SchemaBindings

/-! ## Declarations in a text -/

namespace Text

/-- What follows the text stands at the start of a line. -/
def EndsLine (text : String) : Prop := text = "" ∨ ∃ front, text = front ++ "\n"

theorem endsLine_append_newline (front : String) : EndsLine (front ++ "\n") := .inr ⟨front, rfl⟩

theorem EndsLine.append {first second : String} (hf : EndsLine first) (hs : EndsLine second) :
    EndsLine (first ++ second) := by
  rcases hs with rfl | ⟨front, rfl⟩
  · rwa [String.append_empty]
  · rw [← String.append_assoc]
    exact endsLine_append_newline _

theorem EndsLine.join {texts : List String} (h : ∀ text ∈ texts, EndsLine text) :
    EndsLine (String.join texts) := by
  induction texts with
  | nil => exact .inl String.join_nil
  | cons text rest ih =>
    rw [List.forall_mem_cons] at h
    rw [String.join_cons]
    exact h.1.append (ih h.2)

/-- Each of several texts, one below the other, stands at the start of a line. -/
theorem exists_intercalate_eq {texts : List String} {text : String} (ht : text ∈ texts) :
    ∃ before after, "\n".intercalate texts = before ++ text ++ after ∧ EndsLine before := by
  induction texts with
  | nil => cases ht
  | cons first rest ih =>
    cases rest with
    | nil =>
      obtain rfl := List.mem_singleton.1 ht
      refine ⟨"", "", ?_, .inl rfl⟩
      rw [String.intercalate_singleton, String.empty_append, String.append_empty]
    | cons second rest =>
      rw [String.intercalate_cons_cons]
      rcases List.mem_cons.1 ht with rfl | ht
      · exact ⟨"", _, by rw [String.empty_append, String.append_assoc], .inl rfl⟩
      · obtain ⟨before, after, split, ends⟩ := ih ht
        refine ⟨first ++ "\n" ++ before, after, ?_,
          (endsLine_append_newline first).append ends⟩
        rw [split]
        simp only [String.append_assoc]

end Text

open Text

/-- A line of the code starts the declaration of a type of the name. -/
def DeclaresType (code name : String) : Prop :=
  ∃ before after, code = before ++ "type " ++ name ++ " " ++ after ∧ EndsLine before

namespace DeclaresType

variable {code name : String}

theorem append (h : DeclaresType code name) (more : String) : DeclaresType (code ++ more) name := by
  obtain ⟨before, after, rfl, hb⟩ := h
  exact ⟨before, after ++ more, by rw [String.append_assoc], hb⟩

theorem prepend (h : DeclaresType code name) {front : String} (hf : EndsLine front) :
    DeclaresType (front ++ code) name := by
  obtain ⟨before, after, rfl, hb⟩ := h
  exact ⟨front ++ before, after, by simp only [String.append_assoc], hf.append hb⟩

theorem intercalate {texts : List String} {text : String} (ht : text ∈ texts)
    (h : DeclaresType text name) : DeclaresType ("\n".intercalate texts) name := by
  obtain ⟨before, after, split, ends⟩ := exists_intercalate_eq ht
  rw [split]
  exact (h.prepend ends).append after

end DeclaresType

/-! ## Declarations of items -/

theorem commentLine_endsLine (level : Nat) (line : List Char) :
    EndsLine (commentLine level line) := by
  unfold commentLine
  dsimp only
  split
  · exact .inr ⟨tabs level ++ "//", by rw [String.append_assoc]; rfl⟩
  · exact endsLine_append_newline _

theorem commentText_endsLine (description? : Option String) (level : Nat) :
    EndsLine (commentText description? level) := by
  cases description? with
  | none => exact .inl rfl
  | some description =>
    refine .join fun text ht => ?_
    obtain ⟨line, -, rfl⟩ := List.mem_map.1 ht
    exact commentLine_endsLine level line

namespace Declaration

/-- A declaration that has a kind, or a content and no block, starts with its name. -/
theorem declaresType {declaration : Declaration} (hc : EndsLine declaration.comment)
    (hk : declaration.kind?.isSome = true ∨
      declaration.block.isEmpty = true ∧ declaration.content.isEmpty = false)
    (style : BlockStyle) : DeclaresType (declaration.text style) declaration.name := by
  unfold text
  cases hd : declaration.kind? with
  | some kind =>
    refine ⟨declaration.comment, kind.keyword ++ declaration.body style ++
      String.join (declaration.implements.map (markerMethod declaration.name)) ++ "\n", ?_, hc⟩
    simp only [String.append_assoc]
  | none =>
    rw [hd] at hk
    obtain ⟨hb, he⟩ := hk.resolve_left Bool.false_ne_true
    have body : declaration.body style = " " ++ declaration.content := by
      simp [Declaration.body, hb, he]
    refine ⟨declaration.comment, declaration.content ++
      String.join (declaration.implements.map (markerMethod declaration.name)) ++ "\n", ?_, hc⟩
    rw [body]
    simp only [String.append_assoc, String.empty_append]

theorem describe_endsLine {declaration : Declaration} (h : EndsLine declaration.comment)
    (description? : Option String) : EndsLine (declaration.describe description?).comment := by
  unfold describe
  dsimp only
  split
  · exact h
  · exact commentText_endsLine description? 0

theorem describe_eq (declaration : Declaration) (description? : Option String) :
    ∃ comment, declaration.describe description? = { declaration with comment } := by
  unfold describe
  dsimp only
  split
  · exact ⟨declaration.comment, rfl⟩
  · exact ⟨_, rfl⟩

theorem declaresType_describe {declaration : Declaration} (hc : declaration.comment = "")
    (hk : declaration.kind?.isSome = true ∨
      declaration.block.isEmpty = true ∧ declaration.content.isEmpty = false)
    (description? : Option String) (style : BlockStyle) :
    DeclaresType ((declaration.describe description?).text style) declaration.name := by
  have comment := describe_endsLine (.inl hc) description?
  obtain ⟨text, he⟩ := describe_eq declaration description?
  rw [he] at comment ⊢
  exact declaresType comment hk style

end Declaration

namespace TypeItem

/-- The name that an item declares. -/
def name : TypeItem → String
  | record name _ _ _ => name
  | union name _ _ => name
  | constants name _ _ _ => name
  | plainString name _ _ => name
  | typeAlias name _ _ => name

/-- The fields of the struct that an item declares. -/
def fields : TypeItem → List StructField
  | record _ _ fields _ => fields
  | union _ _ _ => []
  | constants _ _ _ _ => []
  | plainString _ _ _ => []
  | typeAlias _ _ _ => []

/-- The members that an item lists in the comment of a struct for a union. -/
def members : TypeItem → List String
  | record _ _ _ _ => []
  | union _ _ members => members
  | constants _ _ _ _ => []
  | plainString _ _ _ => []
  | typeAlias _ _ _ => []

theorem declaresType (item : TypeItem) (style : BlockStyle) :
    DeclaresType (item.text style) item.name := by
  have ofKind : ∀ (declaration : Declaration) (description? : Option String),
      declaration.comment = "" → declaration.kind?.isSome = true →
        DeclaresType ((declaration.describe description?).text style) declaration.name :=
    fun declaration description? hc hk =>
      Declaration.declaresType_describe hc (.inl hk) description? style
  cases item with
  | record name description? fields interfaces => exact ofKind _ description? rfl rfl
  | union name description? members => exact ofKind _ description? rfl rfl
  | constants name description? values checked =>
    have declared := ofKind { name, kind? := some .enum } description? rfl rfl
    exact ((declared.append _).append _).append _ |>.append _
  | plainString name description? values =>
    exact ofKind { name, kind? := some .enum } (some (describeValues description? values)) rfl rfl
  | typeAlias name description? target =>
    exact Declaration.declaresType_describe rfl (.inr ⟨rfl, by simp⟩) description? style

end TypeItem

namespace TypeGenerator

variable {generator : TypeGenerator} {schema : Schema}

/-- The fields of the struct that is declared for a type. -/
def structFields (generator : TypeGenerator) (body : TypeBody) : List StructField :=
  body.outputFields.map generator.outputField ++ body.inputFields.map generator.inputField

theorem structFields_of_isLeaf {body : TypeBody} (leaf : body.kind.isLeaf = true) :
    generator.structFields body = [] := by
  cases body with
  | enum values => rfl
  | scalar => rfl
  | inputObject _ | interface _ _ | object _ _ | union _ => cases leaf

/-- What an item says where it is the one for a type, not one for the arguments of a field. -/
structure StandsFor (generator : TypeGenerator) (definition : TypeDefinition) (item : TypeItem) :
    Prop where
  name : item.name = generator.options.names.convert definition.name
  fields : item.fields = generator.structFields definition.body
  members : item.members = definition.body.members.map generator.resolver.resolve

theorem standsFor_enumItem {definition : TypeDefinition} {values : List EnumValue}
    (hb : definition.body = .enum values) :
    generator.StandsFor definition (generator.enumItem definition values) := by
  have fields : generator.structFields definition.body = [] :=
    structFields_of_isLeaf (by rw [hb]; rfl)
  have members : definition.body.members.map generator.resolver.resolve = [] := by
    rw [hb]
    rfl
  unfold enumItem
  dsimp only
  split
  · exact ⟨rfl, fields.symm, members.symm⟩
  · split <;> exact ⟨rfl, fields.symm, members.symm⟩

theorem argumentsItem?_eq_some {type : String} {field : FieldDefinition} {item : TypeItem} :
    generator.argumentsItem? type field = some item ↔
      field.arguments ≠ [] ∧
        .record (type ++ Text.camelCase field.name ++ "Args") none
          (field.arguments.map generator.inputField) [] = item := by
  unfold argumentsItem?
  cases field.arguments with
  | nil => simp
  | cons first rest => simp

theorem standsFor_or_argumentsItem?_of_composite {definition : TypeDefinition}
    {interfaces : List String} {fields : List FieldDefinition}
    (outputs : definition.body.outputFields = fields) (inputs : definition.body.inputFields = [])
    (members : definition.body.members = []) {item : TypeItem}
    (hi : item ∈ generator.compositeItems definition interfaces fields) :
    generator.StandsFor definition item ∨ ∃ field ∈ fields,
      generator.argumentsItem? (generator.options.names.convert definition.name) field =
        some item := by
  rcases List.mem_cons.1 hi with rfl | hi
  · refine .inl ⟨rfl, ?_, ?_⟩
    · rw [structFields, outputs, inputs, List.map_nil, List.append_nil]
      rfl
    · rw [members]
      rfl
  · exact .inr (List.mem_filterMap.1 hi)

/-- The items for a type: the one that stands for it, and those for arguments. -/
theorem standsFor_or_argumentsItem? {definition : TypeDefinition} {item : TypeItem}
    (hi : item ∈ generator.typeItems definition) :
    generator.StandsFor definition item ∨ ∃ field ∈ definition.body.outputFields,
      generator.argumentsItem? (generator.options.names.convert definition.name) field =
        some item := by
  unfold typeItems at hi
  cases body : definition.body with
  | enum values =>
    rw [body] at hi
    dsimp only at hi
    split at hi
    · rw [List.mem_singleton] at hi
      subst hi
      exact .inl (standsFor_enumItem body)
    · cases hi
  | inputObject fields =>
    rw [body, List.mem_singleton] at hi
    subst hi
    exact .inl ⟨rfl, by rw [body]; rfl, by rw [body]; rfl⟩
  | interface interfaces fields =>
    rw [body] at hi
    exact standsFor_or_argumentsItem?_of_composite (congrArg TypeBody.outputFields body)
      (congrArg TypeBody.inputFields body) (congrArg TypeBody.members body) hi
  | object interfaces fields =>
    rw [body] at hi
    dsimp only at hi
    split at hi
    · exact standsFor_or_argumentsItem?_of_composite (congrArg TypeBody.outputFields body)
        (congrArg TypeBody.inputFields body) (congrArg TypeBody.members body) hi
    · cases hi
  | scalar =>
    rw [body] at hi
    cases hi
  | union members =>
    rw [body, List.mem_singleton] at hi
    subst hi
    exact .inl ⟨rfl, by rw [body]; rfl, by rw [body]; rfl⟩

theorem argumentsItem_mem {definition : TypeDefinition}
    (included : generator.includes definition.name = true) {field : FieldDefinition}
    (hf : field ∈ definition.body.outputFields) {item : TypeItem}
    (made : generator.argumentsItem? (generator.options.names.convert definition.name) field =
      some item) : item ∈ generator.typeItems definition := by
  unfold typeItems
  cases body : definition.body with
  | interface interfaces fields =>
    rw [body] at hf
    exact List.mem_cons_of_mem _ (List.mem_filterMap.2 ⟨field, hf, made⟩)
  | object interfaces fields =>
    rw [body] at hf
    dsimp only
    rw [if_pos included]
    exact List.mem_cons_of_mem _ (List.mem_filterMap.2 ⟨field, hf, made⟩)
  | enum _ | inputObject _ | scalar | union _ =>
    rw [body] at hf
    cases hf

theorem exists_item {definition : TypeDefinition}
    (included : generator.includes definition.name = true) (hb : definition.kind ≠ .scalar) :
    ∃ item ∈ generator.typeItems definition,
      item.name = generator.options.names.convert definition.name ∧
        item.fields = generator.structFields definition.body := by
  unfold typeItems
  unfold TypeDefinition.kind at hb
  cases body : definition.body with
  | enum values =>
    dsimp only
    rw [if_pos included]
    have own : generator.StandsFor definition (generator.enumItem definition values) :=
      standsFor_enumItem body
    exact ⟨_, List.mem_singleton_self _, own.name, body ▸ own.fields⟩
  | inputObject fields => exact ⟨_, List.mem_singleton_self _, rfl, rfl⟩
  | interface interfaces fields =>
    exact ⟨_, List.mem_cons_self, rfl, (List.append_nil _).symm⟩
  | object interfaces fields =>
    dsimp only
    rw [if_pos included]
    exact ⟨_, List.mem_cons_self, rfl, (List.append_nil _).symm⟩
  | scalar =>
    rw [body] at hb
    exact absurd rfl hb
  | union members => exact ⟨_, List.mem_singleton_self _, rfl, rfl⟩

theorem text?_of_mem {definition : SchemaDefinition} {item : TypeItem}
    (hi : item ∈ generator.items definition) :
    generator.text? definition =
      some ("\n".intercalate ((generator.items definition).map (·.text generator.style))) := by
  unfold text?
  dsimp only
  rw [if_neg]
  rw [List.isEmpty_iff]
  exact List.ne_nil_of_mem hi

theorem declaresType_texts {definition : TypeDefinition}
    (hd : .type definition ∈ schema.definitions)
    (included : generator.includes definition.name = true) (hb : definition.kind ≠ .scalar) :
    ∃ text ∈ generator.texts schema,
      DeclaresType text (generator.options.names.convert definition.name) := by
  obtain ⟨item, hi, hn, -⟩ := exists_item included hb
  refine ⟨_, List.mem_filterMap.2 ⟨_, hd, text?_of_mem hi⟩, ?_⟩
  rw [← hn]
  exact .intercalate (List.mem_map.2 ⟨item, hi, rfl⟩) (item.declaresType generator.style)

end TypeGenerator

/-! ## The text of an output -/

/-- The texts are those of the items, where a definition has some, in the order of both. -/
theorem TypeGenerator.texts_eq (generator : TypeGenerator) (schema : Schema) :
    generator.texts schema =
      ((schema.definitions.map generator.items).filter (!·.isEmpty)).map fun items =>
        "\n".intercalate (items.map (·.text generator.style)) := by
  unfold texts
  induction schema.definitions with
  | nil => rfl
  | cons definition rest ih =>
    cases empty : (generator.items definition).isEmpty with
    | true =>
      have nothing : generator.text? definition = none := if_pos empty
      rw [List.filterMap_cons_none nothing, List.map_cons,
        List.filter_cons_of_neg (by simp [empty]), ih]
    | false =>
      have text : generator.text? definition = some _ := if_neg (by simp [empty])
      rw [List.filterMap_cons_some text, List.map_cons, List.filter_cons_of_pos (by simp [empty]),
        List.map_cons, ih]

theorem Plugin.content_typesOutput (generator : TypeGenerator) (schema : Schema)
    (options : Options) (info : PluginInfo) :
    (typesOutput generator schema options info).content =
      "\n".intercalate ((generator.scalarsText schema ++ "\n") ::
        ((schema.definitions.map generator.items).filter (!·.isEmpty)).map fun items =>
          "\n".intercalate (items.map (·.text generator.style))) := by
  unfold typesOutput
  rw [TypeGenerator.texts_eq]

theorem Plugin.exists_texts_typesOutput (generator : TypeGenerator) (schema : Schema)
    (options : Options) (info : PluginInfo) :
    ∃ texts, (typesOutput generator schema options info).content =
        "\n".intercalate ((generator.scalarsText schema ++ "\n") :: texts) ∧
      ∀ text ∈ texts, ∃ definition ∈ schema.definitions,
        text = "\n".intercalate ((generator.items definition).map (·.text generator.style)) := by
  refine ⟨_, content_typesOutput generator schema options info, fun text ht => ?_⟩
  obtain ⟨items, hi, rfl⟩ := List.mem_map.1 ht
  obtain ⟨definition, hd, rfl⟩ := List.mem_map.1 (List.mem_filter.1 hi).1
  exact ⟨definition, hd, rfl⟩

/-! ## The table of scalars -/

namespace ScalarTable

/-- The scalars that a schema defines, if there is one. -/
def customNames (schema? : Option Schema) : List String := (schema?.map (·.customScalars)).getD []

theorem build_eq (schema? : Option Schema) (overrides : OrderedMap String String) :
    build schema? overrides = (builtin.addCustom (customNames schema?)).override overrides := by
  cases schema? <;> rfl

theorem find?_addCustom (table : ScalarTable) (names : List String) (name : String) :
    (table.addCustom names).find? name =
      (table.find? name).or (if name ∈ names then some unknownType else none) := by
  unfold addCustom
  induction names generalizing table with
  | nil => simp
  | cons first rest ih =>
    rw [List.foldl_cons, ih, OrderedMap.find?_insertNew]
    by_cases here : name = first
    · subst here
      cases table.find? name <;> simp
    · simp [here]

theorem find?_override (table : ScalarTable) (overrides : OrderedMap String String)
    (name : String) :
    (table.override overrides).find? name = (overrides.find? name).or (table.find? name) :=
  OrderedMap.find?_foldl_insert overrides.nodup table name

theorem isSome_find?_build {schema : Schema} {definition : TypeDefinition}
    (hd : .type definition ∈ schema.definitions) (hb : definition.kind = .scalar)
    (overrides : OrderedMap String String) :
    ((build (some schema) overrides).find? definition.name).isSome = true := by
  have custom : definition.name ∈ customNames (some schema) := by
    obtain ⟨name, description?, directives, body⟩ := definition
    unfold TypeDefinition.kind at hb
    cases body <;> cases hb
    exact List.mem_filterMap.2 ⟨_, hd, rfl⟩
  rw [build_eq, find?_override, find?_addCustom, if_pos custom]
  simp

theorem isSome_find?_builtin {name : String} (h : name ∈ Schema.builtinScalars)
    (schema? : Option Schema) (overrides : OrderedMap String String) :
    ((build schema? overrides).find? name).isSome = true := by
  have present : ∀ scalar ∈ Schema.builtinScalars, (builtin.find? scalar).isSome = true := by
    decide
  rw [build_eq, find?_override, find?_addCustom, Option.isSome_or, Option.isSome_or,
    present name h]
  simp

end ScalarTable

/-! ## The types that documents use -/

/-- A type that documents use is declared, unless it is in the table of scalars. -/
theorem Plugin.declaresType_of_used {schema : Schema} {files : List DocumentFile}
    {options : Options} {info : PluginInfo} {name : String}
    (defined : (schema.type? name).isSome = true)
    (noScalar : (options.scalarTable (some schema)).find? name = none)
    (used : name ∈ schema.usedTypes (DocumentFile.concat files)) :
    DeclaresType (runUsedTypes schema files options info).content (options.names.convert name) := by
  obtain ⟨definition, ht⟩ := Option.isSome_iff_exists.1 defined
  obtain ⟨hd, rfl⟩ := Schema.mem_of_lastType? ht
  have hb : definition.kind ≠ .scalar := by
    intro hb
    have table := ScalarTable.isSome_find?_build hd hb options.scalars
    unfold Options.scalarTable at noScalar
    rw [noScalar] at table
    cases table
  have included : TypeGenerator.includes
      { TypeGenerator.ofSchema schema options with
        included? := some (schema.usedTypes (DocumentFile.concat files)) }
      definition.name = true := by
    unfold TypeGenerator.includes
    exact List.contains_iff_mem.2 used
  obtain ⟨text, hm, declares⟩ := TypeGenerator.declaresType_texts hd included hb
  exact .intercalate (List.mem_cons_of_mem _ hm) declares

end SchemaBindings
