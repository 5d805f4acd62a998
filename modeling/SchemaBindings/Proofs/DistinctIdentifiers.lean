import Mathlib.Data.List.Lattice
import Mathlib.Data.List.Nodup
import Mathlib.Data.List.Pairwise
import SchemaBindings.Proofs.Identifiers
import SchemaBindings.Proofs.NameCase

/-!
# Distinct identifiers

When the code for the types of a schema declares no identifier twice. Identifiers are put together
without separators, from names that lose underscores and case on the way. Type names themselves stay
apart, whatever is done to them, so a clash takes one of a few forms: two values or fields that are
written alike, a type name that goes on after another one, or a list or scalar that is called like
something else (`TypeGenerator.Unambiguous`). Without them, and only then, identifiers are distinct
(`Plugin.runTypes_identifiers_nodup_iff`).
-/

namespace SchemaBindings

open Text (camelCase)

/-! ## Names in schemas -/

/-- The names of the fields of a type. -/
def TypeBody.fieldNames (body : TypeBody) : List String :=
  body.outputFields.map (·.name) ++ body.inputFields.map (·.name)

namespace Schema

variable {schema : Schema}

/-- What validity of a schema says about names: those of types consist of letters, digits and
underscores and differ by more than case; the values of an enum have different names, and so have
the fields of a type. -/
structure HasDistinctNames (schema : Schema) : Prop where
  chars : ∀ definition ∈ schema.types, Text.NameChars definition.name.toList
  types : (schema.types.map (·.name.toLower)).Nodup
  values : ∀ definition ∈ schema.types, definition.body.valueNames.Nodup
  fields : ∀ definition ∈ schema.types, definition.body.fieldNames.Nodup

instance (schema : Schema) : Decidable schema.HasDistinctNames :=
  decidable_of_iff
    ((∀ definition ∈ schema.types, Text.NameChars definition.name.toList) ∧
      (schema.types.map (·.name.toLower)).Nodup ∧
      (∀ definition ∈ schema.types, definition.body.valueNames.Nodup) ∧
      ∀ definition ∈ schema.types, definition.body.fieldNames.Nodup)
    ⟨fun ⟨chars, types, values, fields⟩ => { chars, types, values, fields },
      fun h => ⟨h.chars, h.types, h.values, h.fields⟩⟩

theorem mem_types {definition : TypeDefinition} :
    definition ∈ schema.types ↔ .type definition ∈ schema.definitions := by
  unfold types
  rw [List.mem_filterMap]
  constructor
  · rintro ⟨entry, mem, same⟩
    cases entry with
    | type own => exact Option.some.inj same ▸ mem
    | roots roots => cases same
    | directive directive => cases same
  · exact fun mem => ⟨_, mem, rfl⟩

namespace HasDistinctNames

theorem toLower_ne (names : schema.HasDistinctNames) {first second : TypeDefinition}
    (first_mem : first ∈ schema.types) (second_mem : second ∈ schema.types)
    (apart : first ≠ second) : first.name.toLower ≠ second.name.toLower := fun same =>
  apart (List.inj_on_of_nodup_map names.types first_mem second_mem same)

/-- Different types are converted to different names. -/
theorem convert_ne (names : schema.HasDistinctNames) (style : NameStyle)
    {first second : TypeDefinition} (first_mem : first ∈ schema.types)
    (second_mem : second ∈ schema.types) (apart : first ≠ second) :
    style.convert first.name ≠ style.convert second.name :=
  NameStyle.convert_ne (names.chars _ first_mem) (names.chars _ second_mem)
    (names.toLower_ne first_mem second_mem apart)

end HasDistinctNames

end Schema

namespace Schema

variable {schema : Schema}

theorem mem_customScalars {name : String} :
    name ∈ schema.customScalars ↔
      ∃ definition ∈ schema.types, definition.kind = .scalar ∧ definition.name = name := by
  unfold customScalars
  rw [List.mem_filterMap]
  constructor
  · rintro ⟨entry, mem, same⟩
    split at same
    · rename_i own _ _ _
      exact ⟨_, mem_types.2 mem, rfl, Option.some.inj same⟩
    · cases same
  · rintro ⟨⟨own, description?, directives, body⟩, mem, scalar, rfl⟩
    refine ⟨_, mem_types.1 mem, ?_⟩
    cases body <;> cases scalar
    rfl

theorem HasDistinctNames.toLower_ne_scalar (names : schema.HasDistinctNames)
    {definition : TypeDefinition} (mem : definition ∈ schema.types)
    (noScalar : definition.kind ≠ .scalar) {name : String} (custom : name ∈ schema.customScalars) :
    definition.name.toLower ≠ name.toLower := by
  obtain ⟨other, other_mem, other_scalar, rfl⟩ := mem_customScalars.1 custom
  refine names.toLower_ne mem other_mem ?_
  rintro rfl
  exact noScalar other_scalar

end Schema

namespace TypeGenerator

variable {generator : TypeGenerator} {schema : Schema} {definition first second : TypeDefinition}

/-! ## Identifiers of one type -/

theorem mem_typeIdentifiers {name : String} :
    name ∈ generator.typeIdentifiers definition ↔
      (∃ ending ∈ generator.endings definition,
        generator.typeName definition ++ ending = name) ∨
      generator.declaresList definition = true ∧
        TypeItem.listName (generator.typeName definition) = name := by
  unfold typeIdentifiers
  rw [List.mem_append, List.mem_map]
  cases generator.declaresList definition with
  | true => simp [eq_comm]
  | false => simp

theorem noScalar_of_mem_endings {ending : String} (mem : ending ∈ generator.endings definition) :
    definition.kind ≠ .scalar := by
  intro scalar
  unfold endings at mem
  rw [if_pos scalar] at mem
  cases mem

/-- No type has both constants and structs for arguments. -/
theorem constantValues_or_argumentFields (generator : TypeGenerator)
    (definition : TypeDefinition) :
    generator.constantValues definition = [] ∨ argumentFields definition = [] := by
  obtain ⟨name, description?, directives, body⟩ := definition
  cases body with
  | enum values => exact .inr rfl
  | inputObject fields => exact .inr rfl
  | interface interfaces fields => exact .inl (constantValues_eq_nil rfl)
  | object interfaces fields => exact .inl (constantValues_eq_nil rfl)
  | scalar => exact .inr rfl
  | union members => exact .inr rfl

theorem nodup_endings_iff :
    (generator.endings definition).Nodup ↔
      ("" :: (generator.constantValues definition).map camelCase).Nodup ∧
        ((argumentFields definition).map camelCase).Nodup := by
  unfold endings
  split
  · rename_i scalar
    obtain ⟨name, description?, directives, body⟩ := definition
    cases body <;> cases scalar
    rw [constantValues_eq_nil rfl]
    exact ⟨fun _ => ⟨List.nodup_singleton "", List.nodup_nil⟩, fun _ => List.nodup_nil⟩
  · rcases generator.constantValues_or_argumentFields definition with none | none
    · have back : (fun field => camelCase field ++ "Args") = (· ++ "Args") ∘ camelCase := rfl
      have injective : Function.Injective (· ++ "Args") := fun _ _ => (String.append_left_inj _).1
      have nonempty : "" ∉ ((argumentFields definition).map camelCase).map (· ++ "Args") := by
        simp [String.append_eq_empty_iff]
      rw [none, back, ← List.map_map]
      simp only [List.map_nil, List.singleton_append, List.nodup_cons, nonempty, not_false_eq_true,
        true_and, List.nodup_map_iff injective, List.not_mem_nil, List.nodup_nil]
    · rw [none]
      simp

theorem nodup_typeIdentifiers_iff :
    (generator.typeIdentifiers definition).Nodup ↔
      ("" :: (generator.constantValues definition).map camelCase).Nodup ∧
        ((argumentFields definition).map camelCase).Nodup ∧
        (generator.declaresList definition = true → ∀ ending ∈ generator.endings definition,
          generator.typeName definition ++ ending ≠
            TypeItem.listName (generator.typeName definition)) := by
  have injective : Function.Injective (generator.typeName definition ++ ·) :=
    fun _ _ => (String.append_right_inj _).1
  rw [← and_assoc, ← nodup_endings_iff]
  unfold typeIdentifiers
  cases generator.declaresList definition with
  | true => simp [List.nodup_append', List.nodup_map_iff injective]
  | false => simp [List.nodup_map_iff injective]

/-! ## When identifiers are distinct -/

/-- Identifiers are told apart although they are put together without a separator. -/
structure Unambiguous (generator : TypeGenerator) (schema : Schema) : Prop where
  /-- Values of an enum differ in camel case, and something is left of each of them. -/
  values : ∀ enum ∈ schema.types, ("" :: (generator.constantValues enum).map camelCase).Nodup
  /-- Fields with arguments differ in camel case. -/
  fields : ∀ definition ∈ schema.types, ((argumentFields definition).map camelCase).Nodup
  /-- Where the name of a type goes on after that of another, so that an identifier for it could be
  read as one for the other, it is none. -/
  types : ∀ first ∈ schema.types, ∀ second ∈ schema.types, first ≠ second → ∀ rest,
    generator.typeName second = generator.typeName first ++ rest →
      ∀ ending ∈ generator.endings second, rest ++ ending ∉ generator.endings first
  /-- The list of an enum has not the name of an identifier for a type. -/
  lists : ∀ enum ∈ schema.types, generator.declaresList enum = true →
    ∀ definition ∈ schema.types, ∀ ending ∈ generator.endings definition,
      generator.typeName definition ++ ending ≠ TypeItem.listName (generator.typeName enum)
  /-- No identifier for a type is a scalar. For a type itself this only has to be said where its
  name gets a prefix, and of scalars that the schema does not define and that are called like it but
  for case. -/
  scalars : ∀ key ∈ generator.scalars.keys, ∀ definition ∈ schema.types,
    ∀ ending ∈ generator.endings definition,
      (ending = "" → generator.options.typesPrefix = "" →
        key ∉ schema.customScalars ∧ definition.name.toLower = key.toLower) →
        generator.typeName definition ++ ending ≠ key
  /-- The list of an enum has not the name of a scalar. -/
  scalarLists : ∀ key ∈ generator.scalars.keys, ∀ enum ∈ schema.types,
    generator.declaresList enum = true → TypeItem.listName (generator.typeName enum) ≠ key

theorem nodup_identifiers_iff (full : generator.included? = none) (nodup : schema.types.Nodup) :
    (generator.identifiers schema).Nodup ↔
      (∀ definition ∈ schema.types, (generator.typeIdentifiers definition).Nodup) ∧
      (∀ first ∈ schema.types, ∀ second ∈ schema.types, first ≠ second →
        (generator.typeIdentifiers first).Disjoint (generator.typeIdentifiers second)) ∧
      ∀ definition ∈ schema.types, generator.scalars.keys.Disjoint
        (generator.typeIdentifiers definition) := by
  rw [identifiers_eq full, List.nodup_append', List.nodup_flatMap]
  have pairs : schema.types.Pairwise (Function.onFun List.Disjoint generator.typeIdentifiers) ↔
      ∀ first ∈ schema.types, ∀ second ∈ schema.types, first ≠ second →
        (generator.typeIdentifiers first).Disjoint (generator.typeIdentifiers second) := by
    constructor
    · intro disjoint first first_mem second second_mem apart
      have : Std.Symm (Function.onFun List.Disjoint generator.typeIdentifiers) :=
        ⟨fun _ _ => List.Disjoint.symm⟩
      exact disjoint.forall first_mem second_mem apart
    · exact nodup.pairwise_of_forall_ne
  have scalars : generator.scalars.keys.Disjoint
        (schema.types.flatMap generator.typeIdentifiers) ↔
      ∀ definition ∈ schema.types,
        generator.scalars.keys.Disjoint (generator.typeIdentifiers definition) := by
    simp only [List.disjoint_right, List.mem_flatMap]
    exact ⟨fun h definition mem name own => h ⟨definition, mem, own⟩,
      fun h name ⟨definition, mem, own⟩ => h definition mem own⟩
  rw [pairs, scalars, and_assoc]
  exact and_iff_right generator.scalars.nodup_keys

/-- A text that is composed in two ways is composed of a part of the one and all of the other. -/
theorem exists_rest {front back front' back' : String} (same : front ++ back = front' ++ back') :
    (∃ rest, front' = front ++ rest ∧ back = rest ++ back') ∨
      ∃ rest, front = front' ++ rest ∧ back' = rest ++ back := by
  have chars := congrArg String.toList same
  rw [String.toList_append, String.toList_append, List.append_eq_append_iff] at chars
  rcases chars with ⟨rest, first, second⟩ | ⟨rest, first, second⟩
  · refine .inl ⟨.ofList rest, ?_, ?_⟩
    · simp [← String.toList_inj, first]
    · simp [← String.toList_inj, second]
  · refine .inr ⟨.ofList rest, ?_, ?_⟩
    · simp [← String.toList_inj, first]
    · simp [← String.toList_inj, second]

theorem Unambiguous.disjoint (h : generator.Unambiguous schema) (first_mem : first ∈ schema.types)
    (second_mem : second ∈ schema.types) (apart : first ≠ second)
    (names : generator.typeName first ≠ generator.typeName second) :
    (generator.typeIdentifiers first).Disjoint (generator.typeIdentifiers second) := by
  rw [List.disjoint_left]
  rintro name mem other
  rcases mem_typeIdentifiers.1 mem with ⟨x, hx, rfl⟩ | ⟨listed, rfl⟩
  · rcases mem_typeIdentifiers.1 other with ⟨y, hy, same⟩ | ⟨listed, same⟩
    · rcases exists_rest same with ⟨rest, goesOn, rfl⟩ | ⟨rest, goesOn, rfl⟩
      · exact h.types second second_mem first first_mem apart.symm rest goesOn x hx hy
      · exact h.types first first_mem second second_mem apart rest goesOn y hy hx
    · exact h.lists second second_mem listed first first_mem x hx same.symm
  · rcases mem_typeIdentifiers.1 other with ⟨y, hy, same⟩ | ⟨-, same⟩
    · exact h.lists first first_mem listed second second_mem y hy same
    · exact names ((String.append_right_inj "All").1 same).symm

theorem unambiguous_of_nodup (full : generator.included? = none) (nodup : schema.types.Nodup)
    (h : (generator.identifiers schema).Nodup) : generator.Unambiguous schema := by
  obtain ⟨own, pairs, scalars⟩ := (nodup_identifiers_iff full nodup).1 h
  have ending_mem : ∀ {definition : TypeDefinition} {ending : String},
      ending ∈ generator.endings definition →
        generator.typeName definition ++ ending ∈ generator.typeIdentifiers definition :=
    fun mem => mem_typeIdentifiers.2 (.inl ⟨_, mem, rfl⟩)
  have list_mem : ∀ {enum : TypeDefinition}, generator.declaresList enum = true →
      TypeItem.listName (generator.typeName enum) ∈ generator.typeIdentifiers enum :=
    fun listed => mem_typeIdentifiers.2 (.inr ⟨listed, rfl⟩)
  exact
    { values := fun enum mem => (nodup_typeIdentifiers_iff.1 (own enum mem)).1
      fields := fun definition mem => (nodup_typeIdentifiers_iff.1 (own definition mem)).2.1
      types := by
        intro first first_mem second second_mem apart rest goesOn ending mem other
        have same := ending_mem mem
        rw [goesOn, String.append_assoc] at same
        exact pairs first first_mem second second_mem apart (ending_mem other) same
      lists := by
        intro enum enum_mem listed definition definition_mem ending mem same
        by_cases self : enum = definition
        · subst self
          exact (nodup_typeIdentifiers_iff.1 (own enum enum_mem)).2.2 listed ending mem same
        · refine pairs enum enum_mem definition definition_mem self (list_mem listed) ?_
          exact same ▸ ending_mem mem
      scalars := by
        rintro key key_mem definition definition_mem ending mem - rfl
        exact scalars definition definition_mem key_mem (ending_mem mem)
      scalarLists := by
        rintro key key_mem enum enum_mem listed rfl
        exact scalars enum enum_mem key_mem (list_mem listed) }

theorem toLower_eq_of_typeName_eq (names : schema.HasDistinctNames)
    (bare : generator.options.typesPrefix = "") (mem : definition ∈ schema.types) {key : String}
    (same : generator.typeName definition = key) : definition.name.toLower = key.toLower := by
  have prefixed : generator.options.names.typesPrefix = "" := bare
  have core : generator.typeName definition =
      generator.options.names.core false definition.name := by
    unfold typeName
    rw [NameStyle.convert_eq, prefixed, String.empty_append]
  rw [← same, core, NameStyle.toLower_core (names.chars _ mem)]

theorem Unambiguous.nodup (full : generator.included? = none) (names : schema.HasDistinctNames)
    (h : generator.Unambiguous schema) : (generator.identifiers schema).Nodup := by
  refine (nodup_identifiers_iff full names.types.of_map).2 ⟨?_, ?_, ?_⟩
  · intro definition mem
    exact nodup_typeIdentifiers_iff.2 ⟨h.values definition mem, h.fields definition mem,
      fun listed => h.lists definition mem listed definition mem⟩
  · intro first first_mem second second_mem apart
    exact h.disjoint first_mem second_mem apart
      (names.convert_ne generator.options.names first_mem second_mem apart)
  · intro definition mem
    rw [List.disjoint_left]
    intro key listed own
    rcases mem_typeIdentifiers.1 own with ⟨ending, ending_mem, same⟩ | ⟨list, same⟩
    · refine h.scalars key listed definition mem ending ending_mem ?_ same
      rintro rfl bare
      rw [String.append_empty] at same
      have lower := toLower_eq_of_typeName_eq names bare mem same
      have noScalar := noScalar_of_mem_endings ending_mem
      exact ⟨fun custom => names.toLower_ne_scalar mem noScalar custom lower, lower⟩
    · exact h.scalarLists key listed definition mem list same

end TypeGenerator

/-- The identifiers that the output for types declares are distinct exactly if those of the schema
are unambiguous. -/
theorem Plugin.runTypes_identifiers_nodup_iff {schema : Schema} (names : schema.HasDistinctNames)
    (options : Options) (info : PluginInfo) :
    let generator := TypeGenerator.ofSchema schema options
    let content := (runTypes schema options info).content
    (content = "\n".intercalate ((generator.scalarsText schema ++ "\n") ::
        ((schema.definitions.map generator.items).filter (!·.isEmpty)).map fun items =>
          "\n".intercalate (items.map (·.text {}))) ∧
      generator.scalarsText schema = "\n".intercalate (generator.scalars.entries.map
        fun (name, type) => TypeGenerator.scalarText schema name type)) ∧
    (generator.identifiers schema = generator.scalars.entries.map Prod.fst ++
        (schema.definitions.flatMap generator.items).flatMap TypeItem.identifiers ∧
      (∀ name type, (name, type) ∈ generator.scalars.entries →
        Declares (TypeGenerator.scalarText schema name type) name) ∧
      ∀ item ∈ schema.definitions.flatMap generator.items, ∀ name ∈ item.identifiers,
        Declares (item.text {}) name) ∧
    (∀ name ∈ generator.identifiers schema, Declares content name) ∧
    ((generator.identifiers schema).Nodup ↔ generator.Unambiguous schema) := by
  intro generator content
  refine ⟨⟨content_typesOutput generator schema options info, rfl⟩, ⟨?_, ?_, ?_⟩,
    fun _ mem => runTypes_declares info mem, ?_, ?_⟩
  · exact congrArg (generator.scalars.keys ++ ·) List.flatMap_assoc.symm
  · exact fun name type _ =>
      .of_declaresType (TypeGenerator.declaresType_scalarText schema name type)
  · exact fun item _ _ mem => item.declares {} mem
  · exact TypeGenerator.unambiguous_of_nodup rfl names.types.of_map
  · exact TypeGenerator.Unambiguous.nodup rfl names

/-- A schema with a type whose name goes on after that of an enum. -/
def doorSchema : Schema := .ofDefinitions [
  .type { name := "door", body := .enum [{ name := "OPEN" }, { name := "HALF_OPEN" }] },
  .type
    { name := "doorBell"
      body := .object []
        [{ name := "ring"
           type := .named "door"
           arguments := [{ name := "at", type := .named "Time" }] },
         { name := "is_open", type := .named "Boolean" }] },
  .type { name := "Time", body := .scalar }]

/-- Options that list constants, override scalars and give types a prefix. -/
def doorOptions : Options where
  constEnums := true
  scalars := OrderedMap.ofList [("Time", "time.Time"), ("Bell", "string")]
  typesPrefix := "Api"

/-- Some of the identifiers for `doorSchema`. -/
def doorIdentifiers : List String :=
  ["Bell", "ApiDoor", "ApiDoorHalfOpen", "AllApiDoor", "ApiDoorBellRingArgs"]

theorem door_identifiers_unambiguous :
    doorSchema.HasDistinctNames ∧
      (TypeGenerator.ofSchema doorSchema doorOptions).Unambiguous doorSchema ∧
      ∀ name ∈ doorIdentifiers,
        Declares (Plugin.runTypes doorSchema doorOptions {}).content name := by
  have names : doorSchema.HasDistinctNames := by decide +kernel
  obtain ⟨-, -, declared, distinct⟩ := Plugin.runTypes_identifiers_nodup_iff names doorOptions {}
  have listed : ∀ name ∈ doorIdentifiers,
      name ∈ (TypeGenerator.ofSchema doorSchema doorOptions).identifiers doorSchema := by
    decide +kernel
  exact ⟨names, distinct.1 (by decide +kernel),
    fun name mem => declared name (listed name mem)⟩

/-- A schema with an enum whose values differ by case alone. -/
def caseSchema : Schema :=
  .ofDefinitions [.type { name := "E", body := .enum [{ name := "FOO" }, { name := "foo" }] }]

/-- Names of a schema can be distinct where those of its constants are not. -/
theorem case_identifiers_repeated :
    caseSchema.HasDistinctNames ∧
      (∀ definition ∈ caseSchema.types, definition.name ∈ ({} : Options).scalars.keys →
        definition.kind = .scalar) ∧
      ¬ ((TypeGenerator.ofSchema caseSchema {}).identifiers caseSchema).Nodup ∧
      ∃ front back, (Plugin.runTypes caseSchema {} {}).content =
        front ++ "\tEFoo E = \"FOO\"\n\tEFoo E = \"foo\"\n" ++ back := by
  refine ⟨by decide +kernel, by decide +kernel, by decide +kernel, ?_⟩
  refine ⟨(TypeGenerator.ofSchema caseSchema {}).scalarsText caseSchema ++
    "\n\ntype E string\n\nconst (\n", ")\n", ?_⟩
  decide +kernel

end SchemaBindings
