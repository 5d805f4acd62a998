import Mathlib.Order.Bounds.Defs
import SchemaBindings.Proofs.KeptTypes

/-!
# Declarations of used types

What the code for the types that documents use consists of. The used types are the least set that
holds every type which a document names and is closed under the fields of input objects
(`isLeast_usedTypes`), and the code is that for all types without the objects and enums outside of
this set (`Plugin.runUsedTypes_keeps_least`).
-/

namespace SchemaBindings

namespace Schema

variable {schema : Schema} {document : Document}

/-! ## The uses of a document -/

/-- The schema defines the field on the type. Every type has the field `__typename`, which is a
string; another field belongs to the object or interface that is the last definition of its name. -/
inductive DefinesField (schema : Schema) (parent field : String) : TypeRef → Prop
  | typename (own : field = typenameField) :
      DefinesField schema parent field (.nonNull (.named "String"))
  | declared {definition : TypeDefinition} {declaration : FieldDefinition}
      (other : field ≠ typenameField) (type : schema.type? parent = some definition)
      (first : definition.body.outputFields.find? (·.name == field) = some declaration) :
      DefinesField schema parent field declaration.type

theorem fieldType?_of_ne {parent field : String} (other : field ≠ typenameField) :
    schema.fieldType? parent field = (schema.type? parent).bind fun definition =>
      (definition.body.outputFields.find? (·.name == field)).map (·.type) := by
  unfold fieldType?
  rw [if_neg other]
  cases schema.type? parent with
  | none => rfl
  | some definition =>
    obtain ⟨name, description?, directives, body⟩ := definition
    cases body <;> rfl

theorem definesField_iff {parent field : String} {type : TypeRef} :
    schema.DefinesField parent field type ↔ schema.fieldType? parent field = some type := by
  by_cases own : field = typenameField
  · rw [fieldType?, if_pos own, Option.some.injEq]
    constructor
    · rintro (_ | ⟨other, -, -⟩)
      · rfl
      · exact absurd own other
    · rintro rfl
      exact .typename own
  · rw [fieldType?_of_ne own]
    simp only [Option.bind_eq_some_iff, Option.map_eq_some_iff]
    constructor
    · rintro (own | ⟨-, type, first⟩)
      · contradiction
      · exact ⟨_, type, _, first, rfl⟩
    · rintro ⟨definition, type, declaration, first, rfl⟩
      exact .declared own type first

/-- The selections stand on the type somewhere in the document: they are those of a fragment or of
an operation that has a root type, or stand inside of a field or an inline fragment. -/
inductive SelectsOn (schema : Schema) (document : Document) : String → List Selection → Prop
  | fragment {fragment : Fragment} (mem : .fragment fragment ∈ document) :
      SelectsOn schema document fragment.onType fragment.selections
  | operation {operation : Operation} {root : String} (mem : .operation operation ∈ document)
      (root? : schema.rootType? operation.kind = some root) :
      SelectsOn schema document root operation.selections
  | field {parent : String} {selections inner : List Selection} {call : FieldCall} {type : TypeRef}
      (outer : SelectsOn schema document parent selections) (mem : .field call inner ∈ selections)
      (defines : schema.DefinesField parent call.name type) :
      SelectsOn schema document type.baseName inner
  | inline {parent : String} {selections inner : List Selection} {condition? : Option String}
      {directives : List Directive} (outer : SelectsOn schema document parent selections)
      (mem : .inline condition? directives inner ∈ selections) :
      SelectsOn schema document (condition?.getD parent) inner

/-- The names hold every type that the document names, and with an input object the types of its
fields. -/
structure HoldsUses (schema : Schema) (document : Document) (names : Set String) : Prop where
  condition : ∀ {fragment : Fragment}, .fragment fragment ∈ document → fragment.onType ∈ names
  variableType : ∀ {operation : Operation}, .operation operation ∈ document →
    ∀ declared ∈ operation.variableDefinitions, declared.type.baseName ∈ names
  root : ∀ {operation : Operation} {root : String}, .operation operation ∈ document →
    schema.rootType? operation.kind = some root → root ∈ names
  field : ∀ {parent : String} {selections inner : List Selection} {call : FieldCall}
    {type : TypeRef}, schema.SelectsOn document parent selections →
      .field call inner ∈ selections → schema.DefinesField parent call.name type →
        type.baseName ∈ names
  inline : ∀ {parent : String} {selections inner : List Selection} {condition? : Option String}
    {directives : List Directive}, schema.SelectsOn document parent selections →
      .inline condition? directives inner ∈ selections → condition?.getD parent ∈ names
  inputs : ∀ name ∈ names, ∀ definition, schema.type? name = some definition →
    ∀ value ∈ definition.body.inputFields, value.type.baseName ∈ names

/-! ## The least set of uses -/

theorem mem_namedTypesWithin {parent name : String} {selections : List Selection} :
    name ∈ schema.namedTypesWithin parent selections ↔
      ∃ selection ∈ selections, name ∈ schema.namedTypesIn parent selection := by
  induction selections with
  | nil => simp [namedTypesWithin]
  | cons selection rest ih => simp [namedTypesWithin, ih]

theorem mem_inputFieldTypes {name inner : String} :
    inner ∈ schema.inputFieldTypes name ↔ ∃ definition, schema.type? name = some definition ∧
      ∃ value ∈ definition.body.inputFields, value.type.baseName = inner := by
  cases type : schema.type? name with
  | none => simp [inputFieldTypes, type]
  | some definition =>
    obtain rfl := (mem_of_lastType? type).2
    rw [inputFieldTypes_eq type]
    simp

theorem mem_usedTypes_of_named {definition : Definition} {name : String}
    (mem : definition ∈ document) (named : name ∈ schema.namedTypes definition) :
    name ∈ schema.usedTypes document :=
  mem_usedTypes_iff.2 ⟨definition, mem, name, named, .refl⟩

theorem SelectsOn.namedTypesWithin_subset {parent : String} {selections : List Selection}
    (h : schema.SelectsOn document parent selections) :
    schema.namedTypesWithin parent selections ⊆ schema.usedTypes document := by
  induction h with
  | fragment mem =>
    intro name named
    exact mem_usedTypes_of_named mem (List.mem_cons_of_mem _ named)
  | @operation operation root mem root? =>
    intro name named
    refine mem_usedTypes_of_named mem (List.mem_append_right _ ?_)
    rw [root?]
    exact List.mem_cons_of_mem _ named
  | @field parent selections inner call type outer mem defines ih =>
    intro name named
    refine ih (mem_namedTypesWithin.2 ⟨_, mem, ?_⟩)
    rw [namedTypesIn, definesField_iff.1 defines]
    exact List.mem_cons_of_mem _ named
  | inline outer mem ih =>
    intro name named
    refine ih (mem_namedTypesWithin.2 ⟨_, mem, ?_⟩)
    rw [namedTypesIn]
    exact List.mem_cons_of_mem _ named

theorem holdsUses_usedTypes (schema : Schema) (document : Document) :
    schema.HoldsUses document {name | name ∈ schema.usedTypes document} where
  condition mem := mem_usedTypes_of_named mem List.mem_cons_self
  variableType mem declared hd :=
    mem_usedTypes_of_named mem (List.mem_append_left _ (List.mem_map_of_mem hd))
  root mem root? := by
    refine mem_usedTypes_of_named mem (List.mem_append_right _ ?_)
    rw [root?]
    exact List.mem_cons_self
  field selects mem defines := by
    refine selects.namedTypesWithin_subset (mem_namedTypesWithin.2 ⟨_, mem, ?_⟩)
    rw [namedTypesIn, definesField_iff.1 defines]
    exact List.mem_cons_self
  inline selects mem := by
    refine selects.namedTypesWithin_subset (mem_namedTypesWithin.2 ⟨_, mem, ?_⟩)
    rw [namedTypesIn]
    exact List.mem_cons_self
  inputs name used definition type value hv :=
    inputFieldTypes_subset_usedTypes used (mem_inputFieldTypes.2 ⟨definition, type, value, hv, rfl⟩)

namespace HoldsUses

variable {names : Set String}

theorem of_namedTypesWithin (h : schema.HoldsUses document names) {parent : String}
    {selections : List Selection} (selects : schema.SelectsOn document parent selections) :
    ∀ name ∈ schema.namedTypesWithin parent selections, name ∈ names := by
  induction selections using Selection.nested_induction generalizing parent with
  | step selections fields inlines =>
    intro name named
    obtain ⟨selection, mem, named⟩ := mem_namedTypesWithin.1 named
    cases selection with
    | field call inner =>
      rw [namedTypesIn] at named
      cases type : schema.fieldType? parent call.name with
      | none =>
        rw [type] at named
        cases named
      | some type =>
        have defines := definesField_iff.2 type
        rw [type] at named
        rcases List.mem_cons.1 named with rfl | named
        · exact h.field selects mem defines
        · exact fields call inner mem (selects.field mem defines) name named
    | spread fragment directives => cases named
    | inline condition? directives inner =>
      rw [namedTypesIn] at named
      rcases List.mem_cons.1 named with rfl | named
      · exact h.inline selects mem
      · exact inlines condition? directives inner mem (selects.inline mem) name named

theorem of_namedTypes (h : schema.HoldsUses document names) {definition : Definition}
    (mem : definition ∈ document) : ∀ name ∈ schema.namedTypes definition, name ∈ names := by
  intro name named
  cases definition with
  | fragment fragment =>
    rcases List.mem_cons.1 named with rfl | named
    · exact h.condition mem
    · exact h.of_namedTypesWithin (.fragment mem) name named
  | operation operation =>
    rcases List.mem_append.1 named with named | named
    · obtain ⟨declared, hd, rfl⟩ := List.mem_map.1 named
      exact h.variableType mem declared hd
    · cases root? : schema.rootType? operation.kind with
      | none =>
        rw [root?] at named
        cases named
      | some root =>
        rw [root?] at named
        rcases List.mem_cons.1 named with rfl | named
        · exact h.root mem root?
        · exact h.of_namedTypesWithin (.operation mem root?) name named

theorem of_leadsTo (h : schema.HoldsUses document names) {start name : String}
    (leads : schema.LeadsTo start name) (mem : start ∈ names) : name ∈ names := by
  induction leads with
  | refl => exact mem
  | tail _ edge ih =>
    obtain ⟨definition, type, value, hv, rfl⟩ := mem_inputFieldTypes.1 edge
    exact h.inputs _ ih definition type value hv

end HoldsUses

/-- The used types are the least set that holds the uses of the document. -/
theorem isLeast_usedTypes (schema : Schema) (document : Document) :
    IsLeast {names | schema.HoldsUses document names}
      {name | name ∈ schema.usedTypes document} := by
  refine ⟨holdsUses_usedTypes schema document, fun names holds name used => ?_⟩
  obtain ⟨definition, mem, start, named, leads⟩ := mem_usedTypes_iff.1 used
  exact holds.of_leadsTo leads (holds.of_namedTypes mem start named)

/-- The definition is that of an object or an enum which the document does not use. -/
def isUnused (schema : Schema) (document : Document) : SchemaDefinition → Bool
  | .type definition =>
    !(schema.usedTypes document).contains definition.name &&
      (definition.kind == .object || definition.kind == .enum)
  | .roots _ => false
  | .directive _ => false

end Schema

namespace TypeGenerator

variable {schema : Schema} {options : Options} {document : Document}

theorem isUnused_eq_not_keeps (options : Options) (definition : TypeDefinition) :
    schema.isUnused document (.type definition) =
      !(ofUsed schema options document).keeps definition := by
  have includes : (ofUsed schema options document).includes definition.name =
      (schema.usedTypes document).contains definition.name := rfl
  rw [Schema.isUnused, keeps, includes]
  simp only [bne, Bool.not_or, Bool.not_and, Bool.not_not]

theorem text?_ofUsed (definition : SchemaDefinition) :
    (ofUsed schema options document).text? definition =
      if schema.isUnused document definition then none
      else (ofSchema schema options).text? definition := by
  cases definition with
  | type definition =>
    have items : (ofUsed schema options document).items (.type definition) =
        if (ofUsed schema options document).keeps definition then
          (ofSchema schema options).items (.type definition)
        else [] := typeItems_eq _ definition
    unfold text?
    dsimp only
    rw [items, isUnused_eq_not_keeps options]
    cases (ofUsed schema options document).keeps definition <;> rfl
  | roots roots => rfl
  | directive directive => rfl

theorem texts_ofUsed (schema : Schema) (options : Options) (document : Document) :
    (ofUsed schema options document).texts schema =
      (schema.definitions.filter (!schema.isUnused document ·)).filterMap
        (ofSchema schema options).text? := by
  unfold texts
  rw [List.filterMap_filter]
  refine List.filterMap_congr fun definition _ => ?_
  rw [text?_ofUsed]
  cases schema.isUnused document definition <;> rfl

/-- The code of a generator that declares types for these definitions and no others. -/
def code (generator : TypeGenerator) (schema : Schema) (definitions : List SchemaDefinition) :
    String :=
  "\n".intercalate
    ((generator.scalarsText schema ++ "\n") :: definitions.filterMap generator.text?)

end TypeGenerator

namespace Plugin

/-- The code for used types is that for all types without the objects and enums that are not used,
and the used types are the least set that holds the uses of the documents. -/
theorem runUsedTypes_keeps_least (schema : Schema) (files : List DocumentFile) (options : Options)
    (info : PluginInfo) :
    let document := DocumentFile.concat files
    let code := (TypeGenerator.ofSchema schema options).code schema
    (∀ used name marked,
        schema.Walks used [name] marked ↔ marked = schema.markUsed used name) ∧
      IsLeast {names | schema.HoldsUses document names}
        {name | name ∈ schema.usedTypes document} ∧
      (runTypes schema options info).content = code schema.definitions ∧
      (runUsedTypes schema files options info).content =
        code (schema.definitions.filter (!schema.isUnused document ·)) ∧
      (runUsedTypes schema files options info).header =
        (runTypes schema options info).header := by
  intro document code
  refine ⟨fun used name marked => Schema.walks_iff, schema.isLeast_usedTypes document, rfl, ?_, rfl⟩
  show "\n".intercalate (((TypeGenerator.ofSchema schema options).scalarsText schema ++ "\n") ::
    (TypeGenerator.ofUsed schema options document).texts schema) = _
  rw [TypeGenerator.texts_ofUsed]
  rfl

/-- `PetFilter` is a field of itself, and is marked once. -/
example : shelterSchema.usedTypes (DocumentFile.concat shelterFiles) =
    ["PetFilter", "Color", "Query", "Pet", "String"] := by
  decide +kernel

end Plugin

end SchemaBindings
