import SchemaBindings.Proofs.LineKeys
import SchemaBindings.Proofs.StructSources

/-!
# Names without quotation marks

Names in schemas and documents hold no quotation marks. It follows that the lines for selections
can be read back from their texts (`legible_of_renders`), so that inline fragments that are written
alike have the same keys.
-/

namespace SchemaBindings

open Text (Unquoted)

/-! ## Selections -/

namespace Selection

mutual

/-- The names in a selection: response names, names of fields and of fragments, type conditions. -/
def names : Selection → List String
  | field call selections => call.responseName :: call.name :: namesOf selections
  | spread fragment _ => [fragment]
  | inline condition? _ selections => condition?.toList ++ namesOf selections

/-- The names in a list of selections. -/
def namesOf : List Selection → List String
  | [] => []
  | selection :: rest => names selection ++ namesOf rest

end

theorem mem_namesOf {name : String} {selections : List Selection} :
    name ∈ namesOf selections ↔ ∃ selection ∈ selections, name ∈ names selection := by
  induction selections with
  | nil => simp [namesOf]
  | cons selection rest ih => simp [namesOf, ih]

theorem namesOf_subset_of_field {selections inner : List Selection} {call : FieldCall}
    (mem : .field call inner ∈ selections) : namesOf inner ⊆ namesOf selections :=
  fun _ hn => mem_namesOf.2 ⟨_, mem, List.mem_cons_of_mem _ (List.mem_cons_of_mem _ hn)⟩

theorem namesOf_subset_of_inline {selections inner : List Selection} {condition? : Option String}
    {directives : List Directive} (mem : .inline condition? directives inner ∈ selections) :
    namesOf inner ⊆ namesOf selections :=
  fun _ hn => mem_namesOf.2 ⟨_, mem, List.mem_append_right _ hn⟩

theorem condition_mem_namesOf {selections inner : List Selection} {onType : String}
    {directives : List Directive} (mem : .inline (some onType) directives inner ∈ selections) :
    onType ∈ namesOf selections :=
  mem_namesOf.2 ⟨_, mem, List.mem_append_left _ (List.mem_singleton_self _)⟩

theorem namesOf_flatMap_subset {α : Type} {items : List α} {part : α → List Selection}
    {names : List String} (h : ∀ item ∈ items, namesOf (part item) ⊆ names) :
    namesOf (items.flatMap part) ⊆ names := by
  intro name hn
  obtain ⟨selection, hs, hn⟩ := mem_namesOf.1 hn
  obtain ⟨item, hi, hs⟩ := List.mem_flatMap.1 hs
  exact h item hi (mem_namesOf.2 ⟨selection, hs, hn⟩)

/-- No name in the selections holds a quotation mark. -/
def AllUnquoted (selections : List Selection) : Prop :=
  ∀ name ∈ namesOf selections, Unquoted name

instance (selections : List Selection) : Decidable (AllUnquoted selections) :=
  inferInstanceAs (Decidable (∀ name ∈ namesOf selections, Unquoted name))

end Selection

/-! ## Schemas -/

/-- The names of the types that the fields of an object or an interface are of. -/
def TypeBody.fieldTypes (body : TypeBody) : List String :=
  body.outputFields.map (·.type.baseName)

/-- The root types that are chosen. -/
def RootTypes.names (roots : RootTypes) : List String :=
  roots.query?.toList ++ roots.mutation?.toList ++ roots.subscription?.toList

/-- The names of types in a definition: where it is that of a type, its own and those that its
fields are of. -/
def SchemaDefinition.typeNames : SchemaDefinition → List String
  | .type body => body.name :: body.body.fieldTypes
  | .roots body => body.names
  | .directive _ => []

namespace Schema

variable {schema : Schema}

theorem mem_of_lastType? {name : String} {definitions : List SchemaDefinition}
    {type : TypeDefinition} (h : lastType? name definitions = some type) :
    .type type ∈ definitions ∧ type.name = name := by
  induction definitions with
  | nil => cases h
  | cons definition rest ih =>
    cases definition with
    | type first =>
      rw [lastType?] at h
      cases hr : lastType? name rest with
      | some later =>
        rw [hr] at h
        obtain ⟨hm, hn⟩ := ih (hr.trans h)
        exact ⟨List.mem_cons_of_mem _ hm, hn⟩
      | none =>
        rw [hr] at h
        dsimp only at h
        split at h
        · rename_i hn
          cases h
          exact ⟨List.mem_cons_self, hn⟩
        · cases h
    | roots roots =>
      obtain ⟨hm, hn⟩ := ih h
      exact ⟨List.mem_cons_of_mem _ hm, hn⟩
    | directive directive =>
      obtain ⟨hm, hn⟩ := ih h
      exact ⟨List.mem_cons_of_mem _ hm, hn⟩

theorem mem_of_fieldType? {parent field : String} {type : TypeRef}
    (hn : field ≠ typenameField) (h : schema.fieldType? parent field = some type) :
    ∃ definition, .type definition ∈ schema.definitions ∧
      ∃ own ∈ definition.body.outputFields, own.type = type := by
  unfold fieldType? at h
  rw [if_neg hn] at h
  split at h
  · rename_i ht
    obtain ⟨own, ho, rfl⟩ := Option.map_eq_some_iff.1 h
    exact ⟨_, (mem_of_lastType? ht).1, own, List.mem_of_find?_eq_some ho, rfl⟩
  · rename_i ht
    obtain ⟨own, ho, rfl⟩ := Option.map_eq_some_iff.1 h
    exact ⟨_, (mem_of_lastType? ht).1, own, List.mem_of_find?_eq_some ho, rfl⟩
  · cases h

/-- The names of types in a schema. -/
def typeNames (schema : Schema) : List String := schema.definitions.flatMap (·.typeNames)

theorem baseName_mem_typeNames {parent field : String} {type : TypeRef}
    (hn : field ≠ typenameField) (ht : schema.fieldType? parent field = some type) :
    type.baseName ∈ schema.typeNames := by
  obtain ⟨definition, hd, own, ho, rfl⟩ := mem_of_fieldType? hn ht
  exact List.mem_flatMap.2 ⟨_, hd, List.mem_cons_of_mem _ (List.mem_map_of_mem ho)⟩

theorem implementingTypes_subset (interface : String) :
    schema.implementingTypes interface ⊆ schema.typeNames := by
  intro name hn
  unfold Schema.implementingTypes at hn
  obtain ⟨definition, hd, hn⟩ := List.mem_filterMap.1 hn
  split at hn
  · split at hn
    · cases hn
      exact List.mem_flatMap.2 ⟨_, hd, List.mem_cons_self⟩
    · cases hn
  · cases hn

/-- No name of a type holds a quotation mark. -/
def AllUnquoted (schema : Schema) : Prop := ∀ name ∈ schema.typeNames, Unquoted name

instance (schema : Schema) : Decidable schema.AllUnquoted :=
  inferInstanceAs (Decidable (∀ name ∈ schema.typeNames, Unquoted name))

end Schema

/-! ## Lines -/

theorem Text.Unquoted.intercalate {texts : List String} (h : ∀ text ∈ texts, Unquoted text) :
    Unquoted (",".intercalate texts) := by
  have comma : ∀ c ∈ ",".toList, c ≠ '"' := List.forall_mem_singleton.2 (by decide)
  have others : ∀ c ∈ (",".intercalate texts).toList, c ≠ '"' :=
    forall_mem_intercalate comma fun text mem c hc quote => h text mem (quote ▸ hc)
  exact fun quote => others _ quote rfl

theorem getLast?_fragmentTypeName (names : NameStyle) (qualifier? : Option String)
    (fragment : String) (isExternal : Bool) :
    (fragmentTypeName names qualifier? fragment isExternal).toList.getLast? = some 't' := by
  have plain : (names.convertWith { suffix := "Fragment" } fragment).toList.getLast? =
      some 't' := by
    rw [NameStyle.convertWith, String.toList_append, List.getLast?_append]
    rfl
  cases qualifier? with
  | none => exact plain
  | some package =>
    cases isExternal with
    | false => exact plain
    | true =>
      show (package ++ "." ++
        names.convertWith { suffix := "Fragment" } fragment).toList.getLast? = _
      rw [String.toList_append, List.getLast?_append, plain]
      rfl

namespace SelectionContext

variable {context : SelectionContext} {parent : String}

/-- What holds of all names in a schema is passed on with all names in selections. -/
theorem names_passedOn {P : String → Prop} (h : ∀ name ∈ context.schema.typeNames, P name) :
    context.PassedOn fun parent selections =>
      P parent ∧ ∀ name ∈ Selection.namesOf selections, P name where
  inline := by
    rintro parent selections inner condition? directives ⟨hp, hs⟩ mem
    refine ⟨?_, fun name hn => hs name (Selection.namesOf_subset_of_inline mem hn)⟩
    cases condition? with
    | none => exact hp
    | some onType => exact hs _ (Selection.condition_mem_namesOf mem)
  link := by
    rintro parent key selections link ⟨-, hs⟩ under
    obtain ⟨⟨first, hf, ht⟩, hl⟩ := DefinedField.link?_eq_some under
    have mem : ∀ field ∈ DefinedField.linksUnder (context.definedFields parent selections) key,
        .field field.call field.selections ∈ selections ∧
          field.call.name ≠ Schema.typenameField ∧
          context.schema.fieldType? parent field.call.name = some field.type :=
      fun field hm => mem_definedFields.1 (DefinedField.mem_linksUnder.1 hm).1
    rw [ht, hl]
    obtain ⟨-, named, typed⟩ := mem first hf
    refine ⟨h _ (Schema.baseName_mem_typeNames named typed), fun name hn => hs name ?_⟩
    exact Selection.namesOf_flatMap_subset
      (fun field hm => Selection.namesOf_subset_of_field (mem field hm).1) hn

theorem names_mem_of_definedField {selections : List Selection} {field : DefinedField}
    (hf : field ∈ context.definedFields parent selections) :
    field.key ∈ Selection.namesOf selections ∧ field.call.name ∈ Selection.namesOf selections := by
  have names : ∀ {name}, name ∈ Selection.names (.field field.call field.selections) →
      name ∈ Selection.namesOf selections :=
    fun hn => Selection.mem_namesOf.2 ⟨_, (mem_definedFields.1 hf).1, hn⟩
  exact ⟨names List.mem_cons_self, names (List.mem_cons_of_mem _ List.mem_cons_self)⟩

theorem possibleTypes_subset (parent : String) :
    context.possibleTypes parent ⊆ parent :: context.schema.typeNames := by
  intro name hn
  unfold possibleTypes at hn
  split at hn
  · cases hn
  · exact List.mem_cons_of_mem _ (Schema.implementingTypes_subset parent hn)
  · exact List.mem_cons.2 (.inl (List.mem_singleton.1 hn))

/-- Neither the type nor a name in the selections on it holds a quotation mark. -/
def NamesUnquoted (parent : String) (selections : List Selection) : Prop :=
  Unquoted parent ∧ Selection.AllUnquoted selections

theorem namesUnquoted_passedOn (h : context.schema.AllUnquoted) :
    context.PassedOn NamesUnquoted := names_passedOn h

theorem NamesUnquoted.key {selections : List Selection} {field : DefinedField}
    (h : NamesUnquoted parent selections) (hf : field ∈ context.definedFields parent selections) :
    Unquoted field.key ∧ Unquoted field.call.name :=
  ⟨h.2 _ (names_mem_of_definedField hf).1, h.2 _ (names_mem_of_definedField hf).2⟩

theorem unquoted_possibleTypes (h : context.schema.AllUnquoted) (hp : Unquoted parent) :
    ∀ name ∈ context.possibleTypes parent, Unquoted name :=
  fun _ hn => List.forall_mem_cons.2 ⟨hp, h⟩ _ (possibleTypes_subset parent hn)

/-- No name in the schema or of a type that a fragment is on holds a quotation mark. -/
structure AllUnquoted (context : SelectionContext) : Prop where
  schema : context.schema.AllUnquoted
  fragments : ∀ loaded ∈ context.fragments.values, Unquoted loaded.fragment.onType

/-- The lines for selections can be read back from their texts. -/
theorem legible_of_renders (h : context.AllUnquoted) {withTypename : Bool}
    {selections : List Selection} {lines : List StructLine}
    (names : NamesUnquoted parent selections)
    (renders : context.Renders parent withTypename selections lines) :
    ∀ line ∈ lines, line.Legible := by
  induction selections using Selection.nested_induction
    generalizing parent withTypename lines with
  | step selections fields inlines =>
    intro line hm
    cases lineSource renders hm with
    | typename asked => exact .intercalate (unquoted_possibleTypes h.schema names.1)
    | leaf mem plain => exact (names.key mem).1
    | aliased mem aliased => exact names.key mem
    | link under renders =>
      obtain ⟨field, hf, -, rfl⟩ := DefinedField.link?_isSome_iff.1 (Option.isSome_of_eq_some under)
      exact (names.key hf).1
    | embedded qualifier? fragment isExternal =>
      intro hq
      rw [getLast?_fragmentTypeName] at hq
      cases hq
    | branch branches named struct =>
      rcases named with ⟨directives, inner, hi⟩ | ⟨name, directives, loaded, -, hl, rfl⟩
      · exact names.2 _ (Selection.condition_mem_namesOf hi)
      · exact h.fragments loaded (List.mem_map_of_mem ((OrderedMap.mem_entries_iff _ _ _).2 hl))
    | flattened flattens mem renders hm =>
      exact inlines _ _ _ mem ((namesUnquoted_passedOn h.schema).inline names mem) renders _ hm

end SelectionContext

end SchemaBindings
