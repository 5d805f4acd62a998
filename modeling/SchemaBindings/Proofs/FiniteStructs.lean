import Mathlib.Data.List.Lattice
import Mathlib.Data.List.Nodup
import Mathlib.Data.List.Pairwise
import Mathlib.Logic.Relation
import SchemaBindings.Proofs.DeclaredTypes

/-!
# Finite structs

A struct that holds a value of its own type has no finite size. The structs declared for a schema
hold values of each other along their fields that are neither slices nor pointers (`StructHolds`).
The schema tells which types these are (`HoldsDirectly`), as long as it refers to types that are
there and no name is declared twice: `structs_acyclic_iff` says that the structs have finite sizes
exactly when no type of the schema holds a value of its own type, and that every cycle of structs
comes from one of the schema.

Nothing breaks a cycle of fields that are never null: `self_struct_holds_itself`.
-/

namespace SchemaBindings

open Relation (TransGen)

/-! ## Values in values -/

/-- No value holds one of its own type, neither itself nor through others. -/
def Acyclic (holds : String → String → Prop) : Prop := ∀ type, ¬TransGen holds type type

/-- What only holds values of higher rank has no cycle. -/
theorem acyclic_of_rank {holds : String → String → Prop} (rank : String → Nat)
    (h : ∀ {first second}, holds first second → rank first < rank second) : Acyclic holds := by
  intro type cycle
  have rises : ∀ {other}, TransGen holds type other → rank type < rank other := by
    intro other path
    induction path with
    | single edge => exact h edge
    | tail path edge ih => exact Nat.lt_trans ih (h edge)
  exact Nat.lt_irrefl _ (rises cycle)

namespace Schema

variable {schema : Schema} {options : Options}

/-- A value of a type holds one of another type in one of its fields: the field is no list, and
nothing lets it be left out. That is so for a field that is never null, for a field for input with a
default, and for every field where optional values are avoided. The other type is no scalar. -/
inductive HoldsDirectly (schema : Schema) (options : Options) : String → String → Prop
  | output {definition : TypeDefinition} {field : FieldDefinition}
      (mem : .type definition ∈ schema.definitions)
      (field_mem : field ∈ definition.body.outputFields) (single : field.type.isList = false)
      (required : field.type.isNonNull = true ∨ options.avoidOptionals = true)
      (noScalar : (options.scalarTable (some schema)).find? field.type.baseName = none) :
      HoldsDirectly schema options definition.name field.type.baseName
  | input {definition : TypeDefinition} {field : InputValue}
      (mem : .type definition ∈ schema.definitions)
      (field_mem : field ∈ definition.body.inputFields) (single : field.type.isList = false)
      (required : field.type.isNonNull = true ∨ field.default?.isSome = true ∨
        options.avoidOptionals = true)
      (noScalar : (options.scalarTable (some schema)).find? field.type.baseName = none) :
      HoldsDirectly schema options definition.name field.type.baseName

/-- The names of the types that values of a type hold. -/
def heldTypes (schema : Schema) (options : Options) (body : TypeBody) : List String :=
  let outputs := body.outputFields.filter fun field =>
    !field.type.isList && (field.type.isNonNull || options.avoidOptionals)
  let inputs := body.inputFields.filter fun field =>
    !field.type.isList &&
      (field.type.isNonNull || field.default?.isSome || options.avoidOptionals)
  (outputs.map (·.type.baseName) ++ inputs.map (·.type.baseName)).filter fun name =>
    ((options.scalarTable (some schema)).find? name).isNone

theorem holdsDirectly_iff_heldTypes {first second : String} :
    schema.HoldsDirectly options first second ↔
      ∃ definition, .type definition ∈ schema.definitions ∧ definition.name = first ∧
        second ∈ schema.heldTypes options definition.body := by
  unfold heldTypes
  simp only [List.mem_filter, List.mem_append, List.mem_map, Option.isNone_iff_eq_none,
    Bool.and_eq_true, Bool.not_eq_true', Bool.or_eq_true]
  constructor
  · intro h
    cases h with
    | @output definition field mem field_mem single required noScalar =>
      exact ⟨definition, mem, rfl, .inl ⟨field, ⟨field_mem, single, required⟩, rfl⟩, noScalar⟩
    | @input definition field mem field_mem single required noScalar =>
      exact ⟨definition, mem, rfl,
        .inr ⟨field, ⟨field_mem, single, or_assoc.2 required⟩, rfl⟩, noScalar⟩
  · rintro ⟨definition, mem, rfl, held, noScalar⟩
    rcases held with ⟨field, ⟨field_mem, single, required⟩, rfl⟩ |
      ⟨field, ⟨field_mem, single, required⟩, rfl⟩
    · exact .output mem field_mem single required noScalar
    · exact .input mem field_mem single (or_assoc.1 required) noScalar

theorem acyclic_of_heldTypes {types : List TypeDefinition} (rank : String → Nat)
    (h : ∀ definition ∈ types, ∀ name ∈
      (ofDefinitions (types.map .type)).heldTypes options definition.body,
        rank definition.name < rank name) :
    Acyclic ((ofDefinitions (types.map .type)).HoldsDirectly options) := by
  refine acyclic_of_rank rank fun holds => ?_
  obtain ⟨definition, mem, rfl, held⟩ := holdsDirectly_iff_heldTypes.1 holds
  rw [definitions_ofDefinitions, List.mem_map] at mem
  obtain ⟨same, hm, he⟩ := mem
  cases he
  exact h definition hm _ held

end Schema

/-- The references to types in the fields of a type and in their arguments. -/
def TypeBody.references (body : TypeBody) : List TypeRef :=
  body.outputFields.flatMap (fun field => field.type :: field.arguments.map (·.type)) ++
    body.inputFields.map (·.type)

/-- The references to types in a definition of a type. -/
def SchemaDefinition.references : SchemaDefinition → List TypeRef
  | type definition => definition.body.references
  | roots _ => []
  | directive _ => []

/-- Fields and arguments are of types that are defined or built in. -/
def Schema.RefersToDefined (schema : Schema) : Prop :=
  ∀ definition ∈ schema.definitions, ∀ ref ∈ definition.references,
    (schema.kind? ref.baseName).isSome = true

instance (schema : Schema) : Decidable schema.RefersToDefined :=
  inferInstanceAs (Decidable (∀ definition ∈ schema.definitions, ∀ ref ∈ definition.references,
    (schema.kind? ref.baseName).isSome = true))

namespace TypeGenerator

variable {generator : TypeGenerator} {schema : Schema}

/-- A struct that is declared for the schema holds a value of a type: one of its fields is of that
type, and is neither a slice nor a pointer. -/
def StructHolds (generator : TypeGenerator) (schema : Schema) (struct type : String) : Prop :=
  ∃ definition ∈ schema.definitions, ∃ item ∈ generator.items definition, item.name = struct ∧
    ∃ field ∈ item.fields, field.type.IsByValue ∧ field.type.base = type

/-- The names of scalars and of the items for the schema are declared once each. -/
def DeclaresOnce (generator : TypeGenerator) (schema : Schema) : Prop :=
  (generator.scalars.keys ++
    schema.definitions.flatMap fun definition => (generator.items definition).map (·.name)).Nodup

instance : Decidable (generator.DeclaresOnce schema) := inferInstanceAs (Decidable (List.Nodup _))

/-! ## References -/

theorem resolve_of_noScalar {name : String} (h : generator.scalars.find? name = none) :
    generator.resolver.resolve name = generator.options.names.convert name := by
  unfold TypeResolver.resolve resolver
  rw [h]

theorem resolve_of_scalar {name : String} (h : (generator.scalars.find? name).isSome = true) :
    generator.resolver.resolve name = name := by
  obtain ⟨type, ht⟩ := Option.isSome_iff_exists.1 h
  unfold TypeResolver.resolve resolver
  rw [ht]

theorem mem_structFields {body : TypeBody} {field : StructField} :
    field ∈ generator.structFields body ↔
      (∃ own ∈ body.outputFields, generator.outputField own = field) ∨
        ∃ own ∈ body.inputFields, generator.inputField own = field := by
  rw [structFields, List.mem_append, List.mem_map, List.mem_map]

theorem base_inputField (value : InputValue) :
    (generator.inputField value).type.base = generator.resolver.resolve value.type.baseName :=
  value.slot.base_field _ _

/-- The fields of an item for a definition are written for its references. -/
theorem exists_reference {definition : SchemaDefinition} {item : TypeItem}
    (hi : item ∈ generator.items definition) {field : StructField} (hf : field ∈ item.fields) :
    ∃ ref ∈ definition.references, field.type.base = generator.resolver.resolve ref.baseName := by
  cases definition with
  | roots roots => cases hi
  | directive directive => cases hi
  | type definition =>
    rcases standsFor_or_argumentsItem? hi with own | ⟨field, ho, made⟩
    · rw [own.fields] at hf
      rcases mem_structFields.1 hf with ⟨own, ho, rfl⟩ | ⟨own, ho, rfl⟩
      · exact ⟨own.type, List.mem_append_left _
          (List.mem_flatMap.2 ⟨own, ho, List.mem_cons_self⟩), rfl⟩
      · exact ⟨own.type, List.mem_append_right _ (List.mem_map_of_mem ho), base_inputField own⟩
    · obtain ⟨-, rfl⟩ := argumentsItem?_eq_some.1 made
      obtain ⟨argument, ha, rfl⟩ := List.mem_map.1 hf
      refine ⟨argument.type, List.mem_append_left _ (List.mem_flatMap.2 ⟨field, ho, ?_⟩),
        base_inputField argument⟩
      exact List.mem_cons_of_mem _ (List.mem_map_of_mem ha)

/-! ## Names that are declared once -/

namespace DeclaresOnce

theorem items_nodup (once : generator.DeclaresOnce schema) :
    (schema.definitions.flatMap fun definition =>
      (generator.items definition).map (·.name)).Nodup :=
  (List.nodup_append'.1 once).2.1

theorem unique (once : generator.DeclaresOnce schema) {first second : SchemaDefinition}
    (hf : first ∈ schema.definitions) (hs : second ∈ schema.definitions) {item other : TypeItem}
    (hi : item ∈ generator.items first) (ho : other ∈ generator.items second)
    (same : item.name = other.name) : first = second ∧ item = other := by
  obtain ⟨each, apart⟩ := List.nodup_flatMap.1 once.items_nodup
  have definitions : first = second := by
    by_contra hne
    have symmetric : Std.Symm (Function.onFun List.Disjoint fun definition =>
        (generator.items definition).map (·.name)) :=
      ⟨fun _ _ disjoint => List.Disjoint.symm disjoint⟩
    refine apart.forall hf hs hne (List.mem_map_of_mem hi) ?_
    rw [same]
    exact List.mem_map_of_mem ho
  subst definitions
  exact ⟨rfl, List.inj_on_of_nodup_map (each first hf) hi ho same⟩

theorem find?_name (once : generator.DeclaresOnce schema) {definition : SchemaDefinition}
    (hd : definition ∈ schema.definitions) {item : TypeItem}
    (hi : item ∈ generator.items definition) : generator.scalars.find? item.name = none := by
  by_contra hn
  have scalar : item.name ∈ generator.scalars.keys := by
    rw [← OrderedMap.contains_iff_mem_keys, OrderedMap.contains, Option.isSome_iff_ne_none]
    exact hn
  refine (List.nodup_append'.1 once).2.2 scalar ?_
  exact List.mem_flatMap.2 ⟨definition, hd, List.mem_map_of_mem hi⟩

end DeclaresOnce

/-- A type that has an item of its own and is referred to by its converted name. -/
structure IsDeclared (generator : TypeGenerator) (schema : Schema) (definition : TypeDefinition) :
    Prop where
  mem : .type definition ∈ schema.definitions
  kind : definition.kind ≠ .scalar
  noScalar : generator.scalars.find? definition.name = none

section OfSchema

variable {options : Options}

/-- No type is left out where all types of a schema are declared. -/
theorem exists_item_ofSchema (schema : Schema) (options : Options) {definition : TypeDefinition}
    (kind : definition.kind ≠ .scalar) :
    ∃ item ∈ (ofSchema schema options).items (.type definition),
      item.name = options.names.convert definition.name ∧
        item.fields = (ofSchema schema options).structFields definition.body :=
  exists_item rfl kind

theorem find?_isSome_or_isDeclared (options : Options) {name : String}
    (known : (schema.kind? name).isSome = true) :
    ((ofSchema schema options).scalars.find? name).isSome = true ∨
      ∃ definition, (ofSchema schema options).IsDeclared schema definition ∧
        definition.name = name := by
  by_cases scalar : ((ofSchema schema options).scalars.find? name).isSome = true
  · exact .inl scalar
  · refine .inr ?_
    have noScalar := Option.not_isSome_iff_eq_none.1 scalar
    unfold Schema.kind? at known
    split at known
    · rename_i definition ht
      obtain ⟨mem, rfl⟩ := Schema.mem_of_lastType? ht
      refine ⟨definition, ⟨mem, fun hk => ?_, noScalar⟩, rfl⟩
      exact scalar (ScalarTable.isSome_find?_build mem hk options.scalars)
    · split at known
      · rename_i builtin
        exact absurd (ScalarTable.isSome_find?_builtin (List.contains_iff_mem.1 builtin) _ _) scalar
      · cases known

/-! ## From structs to the schema -/

theorem exists_isDeclared (once : (ofSchema schema options).DeclaresOnce schema) {name : String}
    (known : (schema.kind? name).isSome = true) {type next : String}
    (target : (ofSchema schema options).resolver.resolve name = type)
    (goes : (ofSchema schema options).StructHolds schema type next) :
    ∃ definition, (ofSchema schema options).IsDeclared schema definition ∧
      definition.name = name ∧ type = options.names.convert definition.name := by
  rcases find?_isSome_or_isDeclared options known with scalar | ⟨definition, hd, rfl⟩
  · rw [resolve_of_scalar scalar] at target
    obtain ⟨definition, hd, item, hi, hn, -⟩ := goes
    rw [target, ← hn, once.find?_name hd hi] at scalar
    cases scalar
  · rw [resolve_of_noScalar hd.noScalar] at target
    exact ⟨definition, hd, rfl, target.symm⟩

/-- What a struct holds by value is declared, if it holds values itself. -/
theorem StructHolds.exists_isDeclared (closed : schema.RefersToDefined)
    (once : (ofSchema schema options).DeclaresOnce schema) {struct type next : String}
    (h : (ofSchema schema options).StructHolds schema struct type)
    (goes : (ofSchema schema options).StructHolds schema type next) :
    ∃ definition, (ofSchema schema options).IsDeclared schema definition ∧
      type = options.names.convert definition.name := by
  -- the struct may be one for arguments, which no type of the schema stands for
  obtain ⟨definition, hd, item, hi, -, field, hf, -, base⟩ := h
  obtain ⟨ref, hr, written⟩ := exists_reference hi hf
  obtain ⟨other, ho, -, target⟩ := TypeGenerator.exists_isDeclared once
    (closed definition hd ref hr) (written.symm.trans base) goes
  exact ⟨other, ho, target⟩

theorem exists_holdsDirectly {definition : TypeDefinition}
    (hd : .type definition ∈ schema.definitions) {field : StructField}
    (hf : field ∈ (ofSchema schema options).structFields definition.body)
    (byValue : field.type.IsByValue) :
    ∃ ref ∈ definition.body.references,
      (ofSchema schema options).resolver.resolve ref.baseName = field.type.base ∧
        ((ofSchema schema options).scalars.find? ref.baseName = none →
          schema.HoldsDirectly options definition.name ref.baseName) := by
  rcases mem_structFields.1 hf with ⟨own, ho, rfl⟩ | ⟨own, ho, rfl⟩
  · obtain ⟨single, required⟩ := GoType.isByValue_ofOutput.1 byValue
    refine ⟨own.type, List.mem_append_left _ ?_, rfl, .output hd ho single required⟩
    exact List.mem_flatMap.2 ⟨own, ho, List.mem_cons_self⟩
  · obtain ⟨single, required⟩ := GoType.isByValue_ofInput.1 byValue
    refine ⟨own.type, List.mem_append_right _ ?_, (base_inputField own).symm,
      .input hd ho single required⟩
    exact List.mem_map_of_mem ho

theorem StructHolds.holdsDirectly (closed : schema.RefersToDefined)
    (once : (ofSchema schema options).DeclaresOnce schema) {definition : TypeDefinition}
    (declared : (ofSchema schema options).IsDeclared schema definition) {type next : String}
    (h : (ofSchema schema options).StructHolds schema
      (options.names.convert definition.name) type)
    (goes : (ofSchema schema options).StructHolds schema type next) :
    ∃ other, (ofSchema schema options).IsDeclared schema other ∧
      type = options.names.convert other.name ∧
      schema.HoldsDirectly options definition.name other.name := by
  obtain ⟨source, hs, item, hi, hn, field, hf, byValue, rfl⟩ := h
  obtain ⟨own, ho, named, fields⟩ := exists_item_ofSchema schema options declared.kind
  obtain ⟨rfl, rfl⟩ := once.unique hs declared.mem hi ho (hn.trans named.symm)
  obtain ⟨ref, hr, target, holds⟩ := exists_holdsDirectly hs (fields ▸ hf) byValue
  obtain ⟨other, ho, name, target⟩ :=
    TypeGenerator.exists_isDeclared once (closed _ hs ref hr) target goes
  rw [← name] at holds
  exact ⟨other, ho, target, holds ho.noScalar⟩

/-- A path of structs from that of a type is one of types in the schema. -/
theorem StructHolds.transGen_holdsDirectly (closed : schema.RefersToDefined)
    (once : (ofSchema schema options).DeclaresOnce schema) {definition : TypeDefinition}
    (declared : (ofSchema schema options).IsDeclared schema definition) {type next : String}
    (path : TransGen ((ofSchema schema options).StructHolds schema)
      (options.names.convert definition.name) type)
    (goes : (ofSchema schema options).StructHolds schema type next) :
    ∃ other, (ofSchema schema options).IsDeclared schema other ∧
      type = options.names.convert other.name ∧
      TransGen (schema.HoldsDirectly options) definition.name other.name := by
  induction path generalizing next with
  | single edge =>
    obtain ⟨other, ho, target, holds⟩ := holdsDirectly closed once declared edge goes
    exact ⟨other, ho, target, .single holds⟩
  | tail path edge ih =>
    obtain ⟨middle, hm, rfl, before⟩ := ih edge
    obtain ⟨other, ho, target, holds⟩ := holdsDirectly closed once hm edge goes
    exact ⟨other, ho, target, before.tail holds⟩

theorem IsDeclared.name_inj (once : (ofSchema schema options).DeclaresOnce schema)
    {first second : TypeDefinition} (hf : (ofSchema schema options).IsDeclared schema first)
    (hs : (ofSchema schema options).IsDeclared schema second)
    (same : options.names.convert first.name = options.names.convert second.name) :
    first.name = second.name := by
  obtain ⟨item, hi, named, -⟩ := exists_item_ofSchema schema options hf.kind
  obtain ⟨other, ho, named', -⟩ := exists_item_ofSchema schema options hs.kind
  rw [← named, ← named'] at same
  obtain ⟨definitions, -⟩ := once.unique hf.mem hs.mem hi ho same
  rw [SchemaDefinition.type.inj definitions]

/-! ## From the schema to structs -/

theorem structHolds_of_mem {definition : TypeDefinition} {field : StructField}
    (hd : .type definition ∈ schema.definitions)
    (hf : field ∈ (ofSchema schema options).structFields definition.body)
    (byValue : field.type.IsByValue) :
    (ofSchema schema options).StructHolds schema (options.names.convert definition.name)
      field.type.base := by
  have kind : definition.kind ≠ .scalar := by
    intro scalar
    rw [structFields_of_isLeaf (congrArg TypeKind.isLeaf scalar)] at hf
    cases hf
  obtain ⟨item, hi, named, fields⟩ := exists_item_ofSchema schema options kind
  exact ⟨_, hd, item, hi, named, field, fields ▸ hf, byValue, rfl⟩

theorem structHolds_of_holdsDirectly {first second : String}
    (h : schema.HoldsDirectly options first second) :
    (ofSchema schema options).StructHolds schema (options.names.convert first)
      (options.names.convert second) := by
  have converted : ∀ {name : String}, (options.scalarTable (some schema)).find? name = none →
      (ofSchema schema options).resolver.resolve name = options.names.convert name :=
    fun noScalar => resolve_of_noScalar noScalar
  cases h with
  | @output definition field mem field_mem single required noScalar =>
    rw [← converted noScalar]
    exact structHolds_of_mem mem (mem_structFields.2 (.inl ⟨field, field_mem, rfl⟩))
      (GoType.isByValue_ofOutput.2 ⟨single, required⟩)
  | @input definition field mem field_mem single required noScalar =>
    rw [← converted noScalar, ← base_inputField]
    exact structHolds_of_mem mem (mem_structFields.2 (.inr ⟨field, field_mem, rfl⟩))
      (GoType.isByValue_ofInput.2 ⟨single, required⟩)

/-! ## Finite sizes -/

theorem structHolds_iff_line {struct type : String} :
    generator.StructHolds schema struct type ↔
      ∃ definition ∈ schema.definitions, ∃ item ∈ generator.items definition, item.name = struct ∧
        ∃ field ∈ item.fields, field.type.base = type ∧ field.line =
          "\t" ++ field.identifier ++ " " ++ type ++ " `json:\"" ++ field.name ++ "\"`" := by
  have line : ∀ field : StructField, (field.type.IsByValue ∧ field.type.base = type ↔
      field.type.base = type ∧ field.line =
        "\t" ++ field.identifier ++ " " ++ type ++ " `json:\"" ++ field.name ++ "\"`") := by
    intro field
    rw [and_comm, StructField.line_eq_iff, GoType.isByValue_iff_text_eq]
    exact and_congr_right fun base => by rw [base]
  unfold StructHolds
  simp only [line]

theorem exists_cycle (closed : schema.RefersToDefined)
    (once : (ofSchema schema options).DeclaresOnce schema) {struct : String}
    (cycle : TransGen ((ofSchema schema options).StructHolds schema) struct struct) :
    ∃ definition, (ofSchema schema options).IsDeclared schema definition ∧
      struct = options.names.convert definition.name ∧
      TransGen (schema.HoldsDirectly options) definition.name definition.name := by
  obtain ⟨before, -, last⟩ := Relation.TransGen.tail'_iff.1 cycle
  obtain ⟨next, first, -⟩ := Relation.TransGen.head'_iff.1 cycle
  obtain ⟨definition, declared, rfl⟩ := last.exists_isDeclared closed once first
  obtain ⟨other, ho, same, path⟩ :=
    StructHolds.transGen_holdsDirectly closed once declared cycle first
  rw [← declared.name_inj once ho same] at path
  exact ⟨definition, declared, rfl, path⟩

theorem IsDeclared.name_ne_argumentsItem (once : (ofSchema schema options).DeclaresOnce schema)
    {definition other : TypeDefinition} (mem : .type definition ∈ schema.definitions)
    (declared : (ofSchema schema options).IsDeclared schema other) {field : FieldDefinition}
    {item : TypeItem} (hi : item ∈ (ofSchema schema options).typeItems definition)
    (made : (ofSchema schema options).argumentsItem? (options.names.convert definition.name) field =
      some item) : item.name ≠ options.names.convert other.name := by
  intro same
  obtain ⟨own, ho, named, -⟩ := exists_item_ofSchema schema options declared.kind
  obtain ⟨definitions, -⟩ := once.unique mem declared.mem hi ho (same.trans named.symm)
  obtain rfl := SchemaDefinition.type.inj definitions
  obtain ⟨-, rfl⟩ := argumentsItem?_eq_some.1 made
  -- its name goes on after that of the type
  have length := congrArg String.length same
  simp only [TypeItem.name, String.length_append] at length
  have ending : "Args".length = 4 := by decide
  omega

/-- Structs have finite sizes exactly when no value of the schema's types holds one of its own type.
What is on a cycle is the struct for a type on a cycle of the schema, never that for arguments. -/
theorem structs_acyclic_iff (closed : schema.RefersToDefined)
    (once : (ofSchema schema options).DeclaresOnce schema) (info : PluginInfo) :
    let generator := ofSchema schema options
    (Plugin.runTypes schema options info).content =
        "\n".intercalate ((generator.scalarsText schema ++ "\n") ::
          ((schema.definitions.map generator.items).filter (!·.isEmpty)).map fun items =>
            "\n".intercalate (items.map (·.text {}))) ∧
      (∀ struct type, generator.StructHolds schema struct type ↔
        ∃ definition ∈ schema.definitions, ∃ item ∈ generator.items definition,
          item.name = struct ∧ ∃ field ∈ item.fields, field.type.base = type ∧ field.line =
            "\t" ++ field.identifier ++ " " ++ type ++ " `json:\"" ++ field.name ++ "\"`") ∧
      (Acyclic (generator.StructHolds schema) ↔ Acyclic (schema.HoldsDirectly options)) ∧
      (∀ struct, TransGen (generator.StructHolds schema) struct struct →
        ∃ definition, .type definition ∈ schema.definitions ∧
          struct = options.names.convert definition.name ∧
          TransGen (schema.HoldsDirectly options) definition.name definition.name) ∧
      ∀ definition, .type definition ∈ schema.definitions →
        ∀ field ∈ definition.body.outputFields,
          ∀ item ∈ generator.argumentsItem? (options.names.convert definition.name) field,
            item ∈ generator.items (.type definition) ∧
              ¬TransGen (generator.StructHolds schema) item.name item.name := by
  intro generator
  refine ⟨Plugin.content_typesOutput generator schema options info,
    fun _ _ => structHolds_iff_line, ⟨?_, ?_⟩, ?_, ?_⟩
  · intro acyclic type cycle
    exact acyclic _ (TransGen.lift options.names.convert
      (fun _ _ => structHolds_of_holdsDirectly) _ _ cycle)
  · intro acyclic struct cycle
    obtain ⟨definition, -, -, path⟩ := exists_cycle closed once cycle
    exact acyclic _ path
  · intro struct cycle
    obtain ⟨definition, declared, target, path⟩ := exists_cycle closed once cycle
    exact ⟨definition, declared.mem, target, path⟩
  · intro definition mem field hf item made
    have hi : item ∈ generator.typeItems definition := argumentsItem_mem rfl hf made
    refine ⟨hi, fun cycle => ?_⟩
    obtain ⟨other, declared, target, -⟩ := exists_cycle closed once cycle
    exact declared.name_ne_argumentsItem once mem hi made target

end OfSchema

/-- Types that refer to themselves where a value may be left out. -/
def friendTypes : List TypeDefinition := [
  { name := "Query"
    body := .object []
      [{ name := "user"
         type := .nonNull (.named "User")
         arguments := [{ name := "filter", type := .nonNull (.named "Filter") }] }] },
  { name := "User"
    body := .object []
      [{ name := "id", type := .nonNull (.named "ID") },
       { name := "best", type := .named "User" },
       { name := "friends", type := .nonNull (.list (.nonNull (.named "User"))) }] },
  { name := "Filter", body := .inputObject [{ name := "not", type := .named "Filter" }] }]

/-- The schema of `friendTypes`. -/
def friendSchema : Schema := .ofDefinitions (friendTypes.map .type)

theorem friend_structs_acyclic :
    friendSchema.RefersToDefined ∧ (ofSchema friendSchema {}).DeclaresOnce friendSchema ∧
      Acyclic ((ofSchema friendSchema {}).StructHolds friendSchema) := by
  have closed : friendSchema.RefersToDefined := by decide
  have once : (ofSchema friendSchema {}).DeclaresOnce friendSchema := by decide +kernel
  obtain ⟨-, -, acyclic, -⟩ := structs_acyclic_iff closed once {}
  refine ⟨closed, once, acyclic.2 ?_⟩
  refine Schema.acyclic_of_heldTypes (fun name => if name = "User" then 1 else 0) ?_
  decide +kernel

/-- The type `type Query { self: Query! }`. -/
def selfType : TypeDefinition where
  name := "Query"
  body := .object [] [{ name := "self", type := .nonNull (.named "Query") }]

/-- The schema with the type `selfType`. -/
def selfSchema : Schema := .ofDefinitions [.type selfType]

theorem self_struct_holds_itself :
    selfSchema.RefersToDefined ∧ (ofSchema selfSchema {}).DeclaresOnce selfSchema ∧
      ¬Acyclic ((ofSchema selfSchema {}).StructHolds selfSchema) := by
  refine ⟨by decide, by decide +kernel, fun acyclic => ?_⟩
  have holds : selfSchema.HoldsDirectly {} "Query" "Query" :=
    Schema.holdsDirectly_iff_heldTypes.2 ⟨selfType, List.mem_cons_self, rfl, by decide⟩
  exact acyclic _ (.single (structHolds_of_holdsDirectly holds))

/-- The types `type foo { bar: Bar! }`, `type Foo { id: ID }` and `type Bar { foo: Foo! }`. -/
def clashingTypes : List TypeDefinition := [
  { name := "foo", body := .object [] [{ name := "bar", type := .nonNull (.named "Bar") }] },
  { name := "Foo", body := .object [] [{ name := "id", type := .named "ID" }] },
  { name := "Bar", body := .object [] [{ name := "foo", type := .nonNull (.named "Foo") }] }]

/-- The schema of `clashingTypes`. -/
def clashingSchema : Schema := .ofDefinitions (clashingTypes.map .type)

/-- Where two types have one converted name, structs can hold themselves although no value does. -/
theorem clashing_structs_hold_themselves :
    clashingSchema.RefersToDefined ∧ Acyclic (clashingSchema.HoldsDirectly {}) ∧
      ¬Acyclic ((ofSchema clashingSchema {}).StructHolds clashingSchema) := by
  refine ⟨by decide, ?_, fun acyclic => ?_⟩
  · refine Schema.acyclic_of_heldTypes
      (fun name => if name = "Foo" then 2 else if name = "Bar" then 1 else 0) ?_
    decide +kernel
  · have first : clashingSchema.HoldsDirectly {} "foo" "Bar" :=
      Schema.holdsDirectly_iff_heldTypes.2 ⟨_, List.mem_cons_self, rfl, by decide⟩
    have second : clashingSchema.HoldsDirectly {} "Bar" "Foo" :=
      Schema.holdsDirectly_iff_heldTypes.2
        ⟨_, List.mem_cons_of_mem _ (List.mem_cons_of_mem _ List.mem_cons_self), rfl, by decide⟩
    have same : (Options.names {}).convert "Foo" = (Options.names {}).convert "foo" := by
      decide +kernel
    have back := structHolds_of_holdsDirectly second
    rw [same] at back
    exact acyclic _ ((TransGen.single (structHolds_of_holdsDirectly first)).tail back)

end TypeGenerator

end SchemaBindings
