import SchemaBindings.Proofs.CodeWithoutComments
import SchemaBindings.Proofs.KeptTypes

/-!
# Imports of enums

An enum that the options map to a type of another package is declared as another name for that type,
and the header imports the package. The imports stand for what the options say
(`Options.importOf_mem_enumImports_iff`), whereas names are only declared for enums that the schema
has and that are kept (`TypeGenerator.aliases_iff`). So every name has its import
(`Plugin.enumImports_cover_aliases`), and an import is for nothing exactly if no enum that is kept
is mapped to its path (`Plugin.unknown_enum_is_imported`).
-/

namespace SchemaBindings

open Text

/-! ## Imports -/

namespace ExternalType

/-- The line that imports a path. -/
def importOf (path : String) : String := "import \"" ++ path ++ "\""

theorem importLine_eq (target : ExternalType) : target.importLine = importOf target.importPath :=
  rfl

theorem importOf_injective : Function.Injective importOf := fun _ _ same =>
  (String.append_right_inj _).1 ((String.append_left_inj _).1 same)

end ExternalType

namespace Options

variable {options : Options}

/-- The options map the enum to a type of the import path. -/
def MapsTo (options : Options) (enum path : String) : Prop :=
  ∃ target, options.externalEnum? enum = some target ∧ target.importPath = path

theorem mem_keys_of_externalEnum? {enum : String} {target : ExternalType}
    (mapped : options.externalEnum? enum = some target) : enum ∈ options.enumValues.keys := by
  rw [← OrderedMap.contains_iff_mem_keys, OrderedMap.contains]
  unfold externalEnum? at mapped
  cases found : options.enumValues.find? enum with
  | some mapping => rfl
  | none =>
    rw [found] at mapped
    cases mapped

theorem importOf_mem_enumImports_iff {path : String} :
    ExternalType.importOf path ∈ options.enumImports ↔ ∃ enum, options.MapsTo enum path := by
  unfold enumImports
  constructor
  · intro mem
    obtain ⟨target, listed, line⟩ := List.mem_map.1 mem
    obtain ⟨enum, -, mapped⟩ := List.mem_filterMap.1 listed
    exact ⟨enum, target, mapped, ExternalType.importOf_injective line⟩
  · rintro ⟨enum, target, mapped, rfl⟩
    have listed := List.mem_filterMap.2 ⟨enum, mem_keys_of_externalEnum? mapped, mapped⟩
    exact List.mem_map.2 ⟨target, listed, target.importLine_eq⟩

end Options

/-! ## Aliases -/

/-- The declaration of another name for a type. -/
def TypeItem.aliasLine (name : String) (target : ExternalType) : String :=
  "type " ++ name ++ " = " ++ target.qualifiedName ++ "\n"

theorem TypeItem.hasLineStart_typeAlias (name : String) (description? : Option String)
    (target : ExternalType) (style : BlockStyle) :
    HasLineStart ((typeAlias name description? target).text style) (aliasLine name target) := by
  have line : ({ name, content := "= " ++ target.qualifiedName } : Declaration).text style =
      aliasLine name target := by
    simp [Declaration.text, Declaration.body, aliasLine, ← String.append_assoc]
  show HasLineStart ((Declaration.describe _ description?).text style) _
  rw [Declaration.text_describe _ rfl, line]
  exact (HasLineStart.refl _).prepend (commentText_endsLine description? 0)

namespace TypeGenerator

variable {generator : TypeGenerator} {schema : Schema}

/-- Another name is declared for a type of the import path. -/
def Aliases (generator : TypeGenerator) (schema : Schema) (path : String) : Prop :=
  ∃ definition ∈ schema.definitions, ∃ name description? target,
    .typeAlias name description? target ∈ generator.items definition ∧ target.importPath = path

theorem enumItem_eq_typeAlias_iff {definition : TypeDefinition} (values : List EnumValue)
    {target : ExternalType} :
    (∃ name description?, generator.enumItem definition values =
        .typeAlias name description? target) ↔
      generator.options.externalEnum? definition.name = some target := by
  unfold enumItem
  cases generator.options.externalEnum? definition.name with
  | some other => simp
  | none => cases generator.options.enumsAsTypes <;> simp

theorem typeAlias_not_mem_compositeItems {definition : TypeDefinition} {interfaces : List String}
    {fields : List FieldDefinition} {name : String} {description? : Option String}
    {target : ExternalType} :
    .typeAlias name description? target ∉
      generator.compositeItems definition interfaces fields := by
  intro mem
  rcases List.mem_cons.1 mem with same | mem
  · cases same
  · obtain ⟨field, -, made⟩ := List.mem_filterMap.1 mem
    cases (argumentsItem?_eq_some.1 made).2

/-- Other names are declared for enums alone: for each that is declared and mapped to a type. -/
theorem typeAlias_mem_typeItems_iff {definition : TypeDefinition} {target : ExternalType} :
    (∃ name description?, .typeAlias name description? target ∈ generator.typeItems definition) ↔
      definition.kind = .enum ∧ generator.includes definition.name = true ∧
        generator.options.externalEnum? definition.name = some target := by
  obtain ⟨name, description?, directives, body⟩ := definition
  rw [typeItems, TypeDefinition.kind]
  cases body with
  | enum values =>
    rw [← enumItem_eq_typeAlias_iff values]
    cases generator.includes name <;> simp [eq_comm, TypeBody.kind]
  | object interfaces fields =>
    cases generator.includes name <;> simp [typeAlias_not_mem_compositeItems, TypeBody.kind]
  | interface interfaces fields => simp [typeAlias_not_mem_compositeItems, TypeBody.kind]
  | inputObject fields => simp [TypeBody.kind]
  | scalar => simp [TypeBody.kind]
  | union members => simp [TypeBody.kind]

theorem aliases_iff {path : String} :
    generator.Aliases schema path ↔
      ∃ definition ∈ schema.types, definition.kind = .enum ∧
        generator.includes definition.name = true ∧
        generator.options.MapsTo definition.name path := by
  constructor
  · rintro ⟨definition, hd, name, description?, target, mem, rfl⟩
    cases definition with
    | roots roots => cases mem
    | directive directive => cases mem
    | type definition =>
      obtain ⟨kind, included, mapped⟩ :=
        typeAlias_mem_typeItems_iff.1 ⟨name, description?, mem⟩
      exact ⟨definition, Schema.mem_types.2 hd, kind, included, target, mapped, rfl⟩
  · rintro ⟨definition, hd, kind, included, target, mapped, rfl⟩
    obtain ⟨name, description?, mem⟩ := typeAlias_mem_typeItems_iff.2 ⟨kind, included, mapped⟩
    exact ⟨.type definition, Schema.mem_types.1 hd, name, description?, target, mem, rfl⟩

end TypeGenerator

/-! ## Outputs -/

namespace Plugin

/-- The imports in an output stand for what the options say about enums; its code has other names
for types of these paths where an enum of the schema that is kept is mapped to one. -/
structure ImportsEnums (output : PluginOutput) (generator : TypeGenerator) (schema : Schema)
    (info : PluginInfo) (isKept : TypeDefinition → Prop) : Prop where
  header : output.header =
    packageHeader generator.options info ++ generator.options.enumImports
  imported : ∀ path, ExternalType.importOf path ∈ generator.options.enumImports ↔
    ∃ enum, generator.options.MapsTo enum path
  content : ∃ texts,
    output.content = "\n".intercalate ((generator.scalarsText schema ++ "\n") :: texts) ∧
    ∀ text ∈ texts, ∃ definition ∈ schema.definitions,
      text = "\n".intercalate ((generator.items definition).map (·.text generator.style))
  written : ∀ definition ∈ schema.definitions, ∀ name description? target,
    .typeAlias name description? target ∈ generator.items definition →
      HasLineStart output.content (TypeItem.aliasLine name target)
  aliased : ∀ path, generator.Aliases schema path ↔
    ∃ definition ∈ schema.types, definition.kind = .enum ∧ isKept definition ∧
      generator.options.MapsTo definition.name path

theorem importsEnums_typesOutput (generator : TypeGenerator) (schema : Schema)
    (info : PluginInfo) {isKept : TypeDefinition → Prop}
    (kept : ∀ definition, generator.includes definition.name = true ↔ isKept definition) :
    ImportsEnums (typesOutput generator schema generator.options info) generator schema info
      isKept where
  header := rfl
  imported _ := Options.importOf_mem_enumImports_iff
  content := exists_texts_typesOutput generator schema generator.options info
  written definition hd name description? target mem :=
    (hasLineStart_typesOutput hd mem generator.options info).trans
      (TypeItem.hasLineStart_typeAlias name description? target generator.style)
  aliased path := by
    rw [TypeGenerator.aliases_iff]
    simp only [kept]

theorem ImportsEnums.importOf_mem {output : PluginOutput} {generator : TypeGenerator}
    {schema : Schema} {info : PluginInfo} {isKept : TypeDefinition → Prop}
    (imports : ImportsEnums output generator schema info isKept) {path : String}
    (declared : generator.Aliases schema path) :
    ExternalType.importOf path ∈ generator.options.enumImports := by
  obtain ⟨definition, -, -, -, mapped⟩ := (imports.aliased path).1 declared
  exact (imports.imported path).2 ⟨definition.name, mapped⟩

/-- A path is imported if some enum is mapped to it, and its types get other names if such an enum
is declared. Whatever has another name is imported. -/
theorem enumImports_cover_aliases (schema : Schema) (files : List DocumentFile)
    (options : Options) (info : PluginInfo) :
    let used := schema.usedTypes (DocumentFile.concat files)
    let generator := TypeGenerator.ofSchema schema options
    let usedGenerator := TypeGenerator.ofUsed schema options (DocumentFile.concat files)
    ImportsEnums (runTypes schema options info) generator schema info (fun _ => True) ∧
    ImportsEnums (runUsedTypes schema files options info) usedGenerator schema info
      (·.name ∈ used) ∧
    ∀ path, generator.Aliases schema path ∨ usedGenerator.Aliases schema path →
      ExternalType.importOf path ∈ options.enumImports := by
  intro used generator usedGenerator
  have full : ImportsEnums (runTypes schema options info) generator schema info (fun _ => True) :=
    importsEnums_typesOutput generator schema info fun _ => ⟨fun _ => trivial, fun _ => rfl⟩
  have kept : ImportsEnums (runUsedTypes schema files options info) usedGenerator schema info
      (·.name ∈ used) :=
    importsEnums_typesOutput usedGenerator schema info fun _ => List.contains_iff_mem
  refine ⟨full, kept, ?_⟩
  rintro path (declared | declared)
  · exact full.importOf_mem declared
  · exact kept.importOf_mem declared

/-- The options that map the enum `Color` to the type `C` of `a/b`. -/
def colorOptions : Options where
  enumValues := .ofList [("Color", .external "a/b#C")]

/-- An enum that the schema does not have is imported. -/
theorem unknown_enum_is_imported :
    let schema := Schema.ofDefinitions
      [.type { name := "Query", body := .object [] [{ name := "a", type := .named "Int" }] }]
    (runTypes schema colorOptions {}).header = ["package main", "import \"a/b\""] ∧
    (∃ front, (runTypes schema colorOptions {}).content =
      front ++ "type Query struct \x7b\n\tA *Int `json:\"a\"`\n\x7d\n") ∧
    ¬(TypeGenerator.ofSchema schema colorOptions).Aliases schema "a/b" := by
  intro schema
  refine ⟨by decide +kernel,
    ⟨(TypeGenerator.ofSchema schema colorOptions).scalarsText schema ++ "\n\n",
      by decide +kernel⟩, ?_⟩
  rw [TypeGenerator.aliases_iff]
  rintro ⟨definition, mem, enum, -⟩
  have kinds : ∀ definition ∈ schema.types, definition.kind ≠ .enum := by decide +kernel
  exact kinds definition mem enum

end Plugin

end SchemaBindings
