import SchemaBindings.Proofs.DistinctIdentifiers
import SchemaBindings.Proofs.UsedTypeClosure

/-!
# Kept types

The code for the types that documents use leaves out objects and enums that no document uses; all
other types are kept (`TypeGenerator.typeItems_eq`). What is kept is declared in full, so structs
have fields of types that are left out: `unused_field_type_is_not_declared`. These are the only
types that the code refers to without declaring them (`Plugin.runUsedTypes_declares_iff`). The types
that documents use are closed under the fields of input objects, so nothing that a used input object
refers to is left out.
-/

namespace SchemaBindings

theorem DeclaresType.isInfix {code name : String} (h : DeclaresType code name) :
    ("type " ++ name ++ " ").toList <:+: code.toList := by
  obtain ⟨before, after, rfl, -⟩ := h
  exact ⟨before.toList, after.toList, by simp only [String.toList_append, List.append_assoc]⟩

namespace Schema

variable {schema : Schema} {document : Document}

theorem inputFieldTypes_subset_usedTypes {name : String} (used : name ∈ schema.usedTypes document) :
    schema.inputFieldTypes name ⊆ schema.usedTypes document := by
  intro inner mem
  obtain ⟨definition, hd, start, hs, leads⟩ := mem_usedTypes_iff.1 used
  exact mem_usedTypes_iff.2 ⟨definition, hd, start, hs, leads.tail mem⟩

theorem inputFieldTypes_eq {definition : TypeDefinition}
    (type : schema.type? definition.name = some definition) :
    schema.inputFieldTypes definition.name = definition.body.inputFields.map (·.type.baseName) := by
  obtain ⟨name, description?, directives, body⟩ := definition
  unfold inputFieldTypes
  rw [type]
  cases body <;> rfl

/-- Nothing is declared for the type: the document does not use it, and whatever is defined under
its name is an object or an enum. -/
structure LeavesOut (schema : Schema) (options : Options) (document : Document) (name : String) :
    Prop where
  noScalar : (options.scalarTable (some schema)).find? name = none
  unused : name ∉ schema.usedTypes document
  kinds : ∀ definition ∈ schema.types, definition.name = name →
    definition.kind = .object ∨ definition.kind = .enum

end Schema

namespace TypeGenerator

/-! ## Items of kept types -/

section Items

variable {generator : TypeGenerator} {definition : TypeDefinition}

/-- Whether a type is kept: only objects and enums can be left out. -/
def keeps (generator : TypeGenerator) (definition : TypeDefinition) : Bool :=
  generator.includes definition.name ||
    (definition.kind != .object && definition.kind != .enum)

theorem typeItems_eq (generator : TypeGenerator) (definition : TypeDefinition) :
    generator.typeItems definition =
      if generator.keeps definition then
        { generator with included? := none }.typeItems definition
      else [] := by
  obtain ⟨name, description?, directives, body⟩ := definition
  unfold typeItems keeps
  cases body with
  | enum values => cases generator.includes name <;> rfl
  | object interfaces fields => cases generator.includes name <;> rfl
  | inputObject fields => cases generator.includes name <;> rfl
  | interface interfaces fields => cases generator.includes name <;> rfl
  | scalar => cases generator.includes name <;> rfl
  | union members => cases generator.includes name <;> rfl

theorem keeps_of_mem {item : TypeItem} (mem : item ∈ generator.typeItems definition) :
    generator.keeps definition = true := by
  by_contra dropped
  rw [typeItems_eq, if_neg dropped] at mem
  cases mem

/-- A type that is kept and no scalar has an item of its converted name. -/
theorem exists_item_of_keeps (kept : generator.keeps definition = true)
    (kind : definition.kind ≠ .scalar) :
    ∃ item ∈ generator.typeItems definition,
      item.name = generator.options.names.convert definition.name := by
  rw [typeItems_eq, if_pos kept]
  obtain ⟨item, mem, named, -⟩ :=
    @exists_item { generator with included? := none } definition rfl kind
  exact ⟨item, mem, named⟩

end Items

/-! ## The types that a document uses -/

variable {schema : Schema} {options : Options} {document : Document}

/-- The generator for the types that a document uses. -/
def ofUsed (schema : Schema) (options : Options) (document : Document) : TypeGenerator :=
  { ofSchema schema options with included? := some (schema.usedTypes document) }

theorem keeps_ofUsed_iff {definition : TypeDefinition} :
    (ofUsed schema options document).keeps definition = true ↔
      definition.name ∈ schema.usedTypes document ∨
        definition.kind ≠ .object ∧ definition.kind ≠ .enum := by
  have includes : (ofUsed schema options document).includes definition.name =
      (schema.usedTypes document).contains definition.name := rfl
  rw [keeps, includes, Bool.or_eq_true, List.contains_iff_mem, Bool.and_eq_true, bne_iff_ne,
    bne_iff_ne]

theorem DeclaredAs.not_leavesOut {name base : String}
    (declared : (ofUsed schema options document).DeclaredAs schema name base) :
    ¬schema.LeavesOut options document name := by
  intro left
  cases declared with
  | scalar listed _ =>
    have noScalar : (ofUsed schema options document).scalars.find? name = none := left.noScalar
    rw [noScalar] at listed
    cases listed
  | @type definition text mem noScalar written declared =>
    have items : (ofUsed schema options document).typeItems definition ≠ [] := by
      intro nothing
      have none : (ofUsed schema options document).text? (.type definition) = none :=
        if_pos (List.isEmpty_iff.2 nothing)
      rw [none] at written
      cases written
    obtain ⟨item, rest, cons⟩ := List.exists_cons_of_ne_nil items
    have kept := keeps_of_mem (cons ▸ List.mem_cons_self : item ∈ _)
    rcases keeps_ofUsed_iff.1 kept with used | ⟨noObject, noEnum⟩
    · exact left.unused used
    · rcases left.kinds definition (Schema.mem_types.2 mem) rfl with object | enum
      · exact noObject object
      · exact noEnum enum

theorem exists_kept {name : String} (known : (schema.kind? name).isSome = true)
    (noScalar : (options.scalarTable (some schema)).find? name = none)
    (stays : ¬schema.LeavesOut options document name) :
    ∃ definition, .type definition ∈ schema.definitions ∧ definition.name = name ∧
      (ofUsed schema options document).keeps definition = true := by
  by_cases used : name ∈ schema.usedTypes document
  · rcases find?_isSome_or_isDeclared options known with listed | ⟨definition, own, rfl⟩
    · rw [show (ofSchema schema options).scalars.find? name = none from noScalar] at listed
      cases listed
    · exact ⟨definition, own.mem, rfl, keeps_ofUsed_iff.2 (.inl used)⟩
  · by_contra none
    refine stays ⟨noScalar, used, fun definition mem named => ?_⟩
    by_contra other
    exact none ⟨definition, Schema.mem_types.1 mem, named,
      keeps_ofUsed_iff.2 (.inr (not_or.1 other))⟩

theorem declaredAs_resolve_iff {name : String} (known : (schema.kind? name).isSome = true) :
    (ofUsed schema options document).DeclaredAs schema name
        ((ofUsed schema options document).resolver.resolve name) ↔
      ¬schema.LeavesOut options document name := by
  refine ⟨DeclaredAs.not_leavesOut, fun stays => ?_⟩
  cases table : (ofUsed schema options document).scalars.find? name with
  | some type =>
    have listed : ((ofUsed schema options document).scalars.find? name).isSome = true := by
      rw [table]
      rfl
    rw [resolve_of_scalar listed]
    exact .scalar listed (declaresType_scalarsText schema listed)
  | none =>
    obtain ⟨definition, mem, rfl, kept⟩ := exists_kept known table stays
    have kind : definition.kind ≠ .scalar := by
      intro scalar
      have listed := ScalarTable.isSome_find?_build mem scalar options.scalars
      rw [show (ScalarTable.build (some schema) options.scalars).find? definition.name = none
        from table] at listed
      cases listed
    obtain ⟨item, hi, named⟩ := exists_item_of_keeps kept kind
    rw [resolve_of_noScalar table]
    refine .type mem table (text?_of_mem hi) ?_
    rw [← named]
    exact .intercalate (List.mem_map.2 ⟨item, hi, rfl⟩) (item.declaresType _)

end TypeGenerator

/-! ## Outputs -/

namespace Plugin

/-- A type is declared in the output for used types exactly if it is not left out; used types and
those of fields of used input objects are not. -/
theorem runUsedTypes_declares_iff {schema : Schema} (closed : schema.IsClosed)
    (files : List DocumentFile) (options : Options) (info : PluginInfo) :
    let document := DocumentFile.concat files
    let generator := TypeGenerator.ofUsed schema options document
    let content := (runUsedTypes schema files options info).content
    (∃ texts, content = "\n".intercalate ((generator.scalarsText schema ++ "\n") :: texts) ∧
      ∀ text ∈ texts, ∃ definition ∈ schema.definitions,
        text = "\n".intercalate ((generator.items definition).map (·.text {}))) ∧
    (∀ name base, generator.DeclaredAs schema name base → DeclaresType content base) ∧
    (∀ definition ∈ schema.definitions, ∀ item ∈ generator.items definition,
      ∀ base ∈ item.bases, ∃ name ∈ definition.referredTypes,
        base = generator.resolver.resolve name ∧
        (generator.DeclaredAs schema name base ↔ ¬schema.LeavesOut options document name)) ∧
    (∀ name ∈ schema.usedTypes document, (schema.kind? name).isSome = true →
      generator.DeclaredAs schema name (generator.resolver.resolve name)) ∧
    ∀ definition, schema.type? definition.name = some definition →
      definition.name ∈ schema.usedTypes document → ∀ field ∈ definition.body.inputFields,
        generator.DeclaredAs schema field.type.baseName (generator.inputField field).type.base := by
  intro document generator content
  have used : ∀ name ∈ schema.usedTypes document, (schema.kind? name).isSome = true →
      generator.DeclaredAs schema name (generator.resolver.resolve name) :=
    fun name used known => TypeGenerator.declaredAs_resolve_iff known |>.2 (·.unused used)
  refine ⟨exists_texts_typesOutput generator schema options info,
    fun name base declared => declared.declaresType options info, ?_, used, ?_⟩
  · intro definition hd item hi base hb
    obtain ⟨name, hn, rfl⟩ := TypeGenerator.exists_referred hi hb
    exact ⟨name, hn, rfl, TypeGenerator.declaredAs_resolve_iff (closed definition hd name hn)⟩
  · intro definition type mem field hf
    rw [TypeGenerator.base_inputField]
    refine used _ (Schema.inputFieldTypes_subset_usedTypes mem ?_) ?_
    · rw [Schema.inputFieldTypes_eq type]
      exact List.mem_map_of_mem hf
    · refine closed _ (Schema.mem_of_lastType? type).1 _ (List.mem_append_left _ ?_)
      exact List.mem_map.2 ⟨_, List.mem_append_right _ (List.mem_map_of_mem hf), rfl⟩

/-- The types
`type Query { owner: Owner, pets(filter: PetFilter): [Pet!]! }`, `type Owner { id: ID! }`,
`type Pet { name: String! }`, `input PetFilter { color: Color, and: [PetFilter!] }`,
`input SizeFilter { size: Size }`, `enum Color { RED }` and `enum Size { SMALL }`. -/
def shelterTypes : List TypeDefinition := [
  { name := "Query"
    body := .object []
      [{ name := "owner", type := .named "Owner" },
       { name := "pets"
         type := .nonNull (.list (.nonNull (.named "Pet")))
         arguments := [{ name := "filter", type := .named "PetFilter" }] }] },
  { name := "Owner", body := .object [] [{ name := "id", type := .nonNull (.named "ID") }] },
  { name := "Pet", body := .object [] [{ name := "name", type := .nonNull (.named "String") }] },
  { name := "PetFilter"
    body := .inputObject
      [{ name := "color", type := .named "Color" },
       { name := "and", type := .list (.nonNull (.named "PetFilter")) }] },
  { name := "SizeFilter", body := .inputObject [{ name := "size", type := .named "Size" }] },
  { name := "Color", body := .enum [{ name := "RED" }] },
  { name := "Size", body := .enum [{ name := "SMALL" }] }]

/-- The schema of `shelterTypes`. -/
def shelterSchema : Schema := .ofDefinitions (shelterTypes.map .type)

/-- The document `query Pets($filter: PetFilter) { pets(filter: $filter) { name } }`. -/
def shelterFiles : List DocumentFile := [{
  document := [.operation {
    kind := .query
    name? := some "Pets"
    variableDefinitions := [{ name := "filter", type := .named "PetFilter" }]
    selections := [.field { name := "pets" } [.field { name := "name" } []]] }] }]

theorem shelter_declares_used_types :
    shelterSchema.IsClosed ∧
    (∀ name ∈ ["Query", "Pet", "PetFilter", "Color"],
      DeclaresType (runUsedTypes shelterSchema shelterFiles {} {}).content name) ∧
    ∀ name ∈ ["Owner", "Size"],
      shelterSchema.LeavesOut {} (DocumentFile.concat shelterFiles) name := by
  have closed : shelterSchema.IsClosed := by decide +kernel
  obtain ⟨-, written, -, used, -⟩ := runUsedTypes_declares_iff closed shelterFiles {} {}
  refine ⟨closed, fun name mem => ?_, fun name mem => ?_⟩
  · have known : ∀ name ∈ ["Query", "Pet", "PetFilter", "Color"],
        name ∈ shelterSchema.usedTypes (DocumentFile.concat shelterFiles) ∧
          (shelterSchema.kind? name).isSome = true ∧
          (TypeGenerator.ofUsed shelterSchema {}
            (DocumentFile.concat shelterFiles)).resolver.resolve name = name := by
      decide +kernel
    obtain ⟨mem, kind, same⟩ := known name mem
    have declared := used name mem kind
    rw [same] at declared
    exact written name name declared
  · have left : ∀ name ∈ ["Owner", "Size"],
        (({} : Options).scalarTable (some shelterSchema)).find? name = none ∧
          name ∉ shelterSchema.usedTypes (DocumentFile.concat shelterFiles) ∧
          ∀ definition ∈ shelterSchema.types, definition.name = name →
            definition.kind = .object ∨ definition.kind = .enum := by
      decide +kernel
    exact ⟨(left name mem).1, (left name mem).2.1, (left name mem).2.2⟩

/-- The schema with the types `type Query { me: User }` and `type User { id: ID }`. -/
def meSchema : Schema := .ofDefinitions [
  .type { name := "Query", body := .object [] [{ name := "me", type := .named "User" }] },
  .type { name := "User", body := .object [] [{ name := "id", type := .named "ID" }] }]

/-- The document `query Kind { __typename }`. -/
def typenameFiles : List DocumentFile := [{
  document := [.operation {
    kind := .query
    name? := some "Kind"
    selections := [.field { name := "__typename" } []] }] }]

/-- A field is kept where its type is left out. -/
theorem unused_field_type_is_not_declared :
    meSchema.IsClosed ∧
    (∃ front, (runUsedTypes meSchema typenameFiles {} {}).content =
      front ++ "type Query struct \x7b\n\tMe *User `json:\"me\"`\n\x7d\n") ∧
    ¬DeclaresType (runUsedTypes meSchema typenameFiles {} {}).content "User" := by
  refine ⟨by decide +kernel,
    ⟨(TypeGenerator.ofSchema meSchema {}).scalarsText meSchema ++ "\n\n", by decide +kernel⟩,
    fun declared => ?_⟩
  have inside := declared.isInfix
  revert inside
  decide +kernel

end Plugin

end SchemaBindings
