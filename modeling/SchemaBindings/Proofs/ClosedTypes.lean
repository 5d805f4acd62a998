import SchemaBindings.Proofs.FiniteStructs

/-!
# Closed types

The code for the types of a schema refers only to types that it declares itself. References and
declarations are written by different steps: a reference is resolved with the table of scalars, the
scalars are declared together, and each other type is declared with its definition. Where a schema
refers to types that are there, every base type of a field or of an argument and every member of a
union is the name of a declaration (`Plugin.runTypes_closed`).
-/

namespace SchemaBindings

/-! ## The types that are referred to -/

/-- The types that a definition refers to: those of fields and arguments, and members of a union. -/
def SchemaDefinition.referredTypes : SchemaDefinition → List String
  | type definition => definition.body.references.map (·.baseName) ++ definition.body.members
  | roots _ => []
  | directive _ => []

/-- Every type that is referred to is defined or built in. -/
def Schema.IsClosed (schema : Schema) : Prop :=
  ∀ definition ∈ schema.definitions, ∀ name ∈ definition.referredTypes,
    (schema.kind? name).isSome = true

instance (schema : Schema) : Decidable schema.IsClosed :=
  inferInstanceAs (Decidable (∀ definition ∈ schema.definitions,
    ∀ name ∈ definition.referredTypes, (schema.kind? name).isSome = true))

/-- The types that an item is written with: the base types of its fields, and its members. -/
def TypeItem.bases (item : TypeItem) : List String := item.fields.map (·.type.base) ++ item.members

namespace TypeGenerator

variable {generator : TypeGenerator} {schema : Schema}

/-- An item for a definition is written with types that the definition refers to. -/
theorem exists_referred {definition : SchemaDefinition} {item : TypeItem}
    (hi : item ∈ generator.items definition) {base : String} (hb : base ∈ item.bases) :
    ∃ name ∈ definition.referredTypes, base = generator.resolver.resolve name := by
  cases definition with
  | roots roots => cases hi
  | directive directive => cases hi
  | type definition =>
    rcases List.mem_append.1 hb with hf | hm
    · obtain ⟨field, mem, rfl⟩ := List.mem_map.1 hf
      obtain ⟨ref, hr, written⟩ := exists_reference hi mem
      exact ⟨ref.baseName, List.mem_append_left _ (List.mem_map_of_mem hr), written⟩
    · rcases standsFor_or_argumentsItem? hi with own | ⟨field, -, made⟩
      · rw [own.members] at hm
        obtain ⟨name, hn, rfl⟩ := List.mem_map.1 hm
        exact ⟨name, List.mem_append_right _ hn, rfl⟩
      · obtain ⟨-, rfl⟩ := argumentsItem?_eq_some.1 made
        cases hm

/-! ## The types that are declared -/

/-- How a type of the schema is declared: a scalar of the table by its own name with the other
scalars, and any other type by its converted name in the text for its definition. -/
inductive DeclaredAs (generator : TypeGenerator) (schema : Schema) : String → String → Prop
  | scalar {name : String} (listed : (generator.scalars.find? name).isSome = true)
      (declared : DeclaresType (generator.scalarsText schema) name) :
      DeclaredAs generator schema name name
  | type {definition : TypeDefinition} {text : String}
      (mem : .type definition ∈ schema.definitions)
      (noScalar : generator.scalars.find? definition.name = none)
      (written : generator.text? (.type definition) = some text)
      (declared : DeclaresType text (generator.options.names.convert definition.name)) :
      DeclaredAs generator schema definition.name
        (generator.options.names.convert definition.name)

theorem declaresType_scalarText (schema : Schema) (name type : String) :
    DeclaresType (scalarText schema name type) name :=
  ⟨commentText (schema.description? name) 0, type, rfl, commentText_endsLine _ 0⟩

/-- The scalars of the table are declared by their own names. -/
theorem declaresType_scalarsText (schema : Schema) {name : String}
    (listed : (generator.scalars.find? name).isSome = true) :
    DeclaresType (generator.scalarsText schema) name := by
  obtain ⟨type, ht⟩ := Option.isSome_iff_exists.1 listed
  have entry : (name, type) ∈ generator.scalars.entries :=
    (OrderedMap.mem_entries_iff _ _ _).2 ht
  exact .intercalate (List.mem_map.2 ⟨(name, type), entry, rfl⟩)
    (declaresType_scalarText schema name type)

theorem declaredAs_resolve {options : Options} {name : String}
    (known : (schema.kind? name).isSome = true) :
    (ofSchema schema options).DeclaredAs schema name
      ((ofSchema schema options).resolver.resolve name) := by
  rcases find?_isSome_or_isDeclared options known with listed | ⟨definition, own, rfl⟩
  · rw [resolve_of_scalar listed]
    exact .scalar listed (declaresType_scalarsText schema listed)
  · rw [resolve_of_noScalar own.noScalar]
    obtain ⟨item, hi, named, -⟩ := exists_item_ofSchema schema options own.kind
    refine .type own.mem own.noScalar (text?_of_mem hi) ?_
    show DeclaresType _ (options.names.convert definition.name)
    rw [← named]
    exact .intercalate (List.mem_map.2 ⟨item, hi, rfl⟩) (item.declaresType _)

/-- What a type is declared by stands in the output. -/
theorem DeclaredAs.declaresType {name base : String} (h : generator.DeclaredAs schema name base)
    (options : Options) (info : PluginInfo) :
    DeclaresType (Plugin.typesOutput generator schema options info).content base := by
  cases h with
  | scalar listed declared => exact .intercalate List.mem_cons_self (declared.append "\n")
  | @type definition text mem noScalar written declared =>
    have written : text ∈ generator.texts schema := List.mem_filterMap.2 ⟨_, mem, written⟩
    exact .intercalate (List.mem_cons_of_mem _ written) declared

end TypeGenerator

/-! ## Outputs -/

/-- Where a schema refers to types that are there, every type that the output is written with is
declared in it. -/
theorem Plugin.runTypes_closed {schema : Schema} (closed : schema.IsClosed) (options : Options)
    (info : PluginInfo) :
    ∃ texts, (runTypes schema options info).content = "\n".intercalate
        (((TypeGenerator.ofSchema schema options).scalarsText schema ++ "\n") :: texts) ∧
      (∀ text ∈ texts, ∃ definition ∈ schema.definitions, text = "\n".intercalate
        (((TypeGenerator.ofSchema schema options).items definition).map (·.text {}))) ∧
      ∀ definition ∈ schema.definitions,
        ∀ item ∈ (TypeGenerator.ofSchema schema options).items definition, ∀ base ∈ item.bases,
          DeclaresType (runTypes schema options info).content base ∧
            ∃ name ∈ definition.referredTypes,
              (TypeGenerator.ofSchema schema options).DeclaredAs schema name base := by
  obtain ⟨texts, content, composed⟩ :=
    exists_texts_typesOutput (.ofSchema schema options) schema options info
  refine ⟨texts, content, composed, fun definition hd item hi base hb => ?_⟩
  obtain ⟨name, hn, rfl⟩ := TypeGenerator.exists_referred hi hb
  have declared : (TypeGenerator.ofSchema schema options).DeclaredAs schema name _ :=
    TypeGenerator.declaredAs_resolve (closed definition hd name hn)
  exact ⟨declared.declaresType options info, name, hn, declared⟩

/-- Types with a union, arguments, a scalar, an enum and an object that options say more about. -/
def zooTypes : List TypeDefinition := [
  { name := "Node", body := .interface [] [{ name := "id", type := .nonNull (.named "ID") }] },
  { name := "animal"
    body := .object ["Node"]
      [{ name := "id", type := .nonNull (.named "ID") },
       { name := "kind", type := .named "Kind" },
       { name := "home", type := .list (.nonNull (.named "Cage")) },
       { name := "fed"
         type := .named "Boolean"
         arguments := [{ name := "on", type := .named "Date" },
           { name := "meal", type := .nonNull (.named "Meal") }] }] },
  { name := "Cage", body := .object [] [{ name := "size", type := .named "Size" }] },
  { name := "Size", body := .object [] [{ name := "width", type := .named "Int" }] },
  { name := "Resident", body := .union ["animal", "Cage"] },
  { name := "Kind", body := .enum [{ name := "CAT" }, { name := "DOG" }] },
  { name := "Date", body := .scalar },
  { name := "Meal", body := .inputObject [{ name := "after", type := .named "Meal" }] }]

/-- The schema of `zooTypes`. -/
def zooSchema : Schema := .ofDefinitions (zooTypes.map .type)

/-- Options that give types a prefix, take an object for a scalar and an enum from elsewhere. -/
def zooOptions : Options where
  enumValues := OrderedMap.ofList [("Kind", .external "example/kinds#Kind")]
  scalars := OrderedMap.ofList [("Size", "[]int")]
  typesPrefix := "Api"

/-- The types that the items for the schema are written with. -/
def zooBases : List String :=
  ["ID", "ApiKind", "ApiCage", "Boolean", "Date", "ApiMeal", "Size", "Int", "ApiAnimal"]

theorem zoo_types_closed :
    zooSchema.IsClosed ∧ ∀ base ∈ zooBases,
      DeclaresType (Plugin.runTypes zooSchema zooOptions {}).content base := by
  have closed : zooSchema.IsClosed := by decide +kernel
  refine ⟨closed, fun base hb => ?_⟩
  obtain ⟨-, -, -, declared⟩ := Plugin.runTypes_closed closed zooOptions {}
  have written : ∀ base ∈ zooBases, ∃ definition ∈ zooSchema.definitions,
      ∃ item ∈ (TypeGenerator.ofSchema zooSchema zooOptions).items definition,
        base ∈ item.bases := by
    decide +kernel
  obtain ⟨definition, hd, item, hi, hb⟩ := written base hb
  exact (declared definition hd item hi base hb).1

end SchemaBindings
