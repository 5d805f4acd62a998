import SchemaBindings.Proofs.UnquotedNames

/-!
# Extensions of types

What a schema holds, told from the definitions and the extensions of its documents. An extension
adds to the last type of its name, if that is of its kind (`ExtendsType`); the parts it adds stand
behind those of the type and of earlier extensions (`TypeDefinition.extendedBy`).

`extend_withExtensions` is the step for one more extension: it keeps the form `withExtensions`, in
which each definition stands at its place and the last type of each name has what has been added so
far. `HoldsMerged` tells the same place by place.
-/

namespace SchemaBindings

/-! ## Bodies with added parts -/

namespace TypeBody

/-- The values of an enum. -/
def enumValues : TypeBody → List EnumValue
  | enum values => values
  | inputObject _ | interface _ _ | object _ _ | scalar | union _ => []

/-- The interfaces that an object or an interface declares. -/
def interfaces : TypeBody → List String
  | interface interfaces _ => interfaces
  | object interfaces _ => interfaces
  | enum _ | inputObject _ | scalar | union _ => []

/-- The members of a union. -/
def members : TypeBody → List String
  | union members => members
  | enum _ | inputObject _ | interface _ _ | object _ _ | scalar => []

/-- The body with the parts of others behind its own. -/
def withParts (others : List TypeBody) : TypeBody → TypeBody
  | enum values => enum (values ++ others.flatMap enumValues)
  | inputObject fields => inputObject (fields ++ others.flatMap inputFields)
  | interface declared fields =>
    interface (declared ++ others.flatMap interfaces) (fields ++ others.flatMap outputFields)
  | object declared fields =>
    object (declared ++ others.flatMap interfaces) (fields ++ others.flatMap outputFields)
  | scalar => scalar
  | union own => union (own ++ others.flatMap members)

@[simp] theorem withParts_nil (body : TypeBody) : body.withParts [] = body := by
  cases body <;> simp [withParts]

@[simp] theorem kind_withParts (others : List TypeBody) (body : TypeBody) :
    (body.withParts others).kind = body.kind := by
  cases body <;> rfl

theorem append?_withParts {others : List TypeBody} {body addition : TypeBody}
    (h : addition.kind = body.kind) :
    (body.withParts others).append? addition = some (body.withParts (others ++ [addition])) := by
  cases body <;> cases addition <;> cases h <;>
    simp [withParts, append?, enumValues, inputFields, interfaces, members, outputFields]

theorem append?_eq_none {body addition : TypeBody} (h : addition.kind ≠ body.kind) :
    body.append? addition = none := by
  rw [← Option.not_isSome_iff_eq_none, append?_isSome_iff]
  exact fun same => h same.symm

end TypeBody

/-! ## Types with extensions -/

/-- The extension is of the name and the kind of the type. -/
def TypeExtension.ExtendsType (extension : TypeExtension) (type : TypeDefinition) : Prop :=
  extension.name = type.name ∧ extension.body.kind = type.kind

instance (extension : TypeExtension) (type : TypeDefinition) :
    Decidable (extension.ExtendsType type) :=
  inferInstanceAs (Decidable (_ ∧ _))

namespace TypeDefinition

/-- The type with the directives and the parts that extensions of it add, in their order. -/
def extendedBy (extensions : List TypeExtension) (type : TypeDefinition) : TypeDefinition :=
  let added := extensions.filter (·.ExtendsType type)
  { type with
    directives := type.directives ++ added.flatMap (·.directives)
    body := type.body.withParts (added.map (·.body)) }

variable {extensions : List TypeExtension} {extension : TypeExtension} {type : TypeDefinition}

@[simp] theorem name_extendedBy : (type.extendedBy extensions).name = type.name := rfl

@[simp] theorem kind_extendedBy : (type.extendedBy extensions).kind = type.kind :=
  TypeBody.kind_withParts _ _

@[simp] theorem extendedBy_nil : type.extendedBy [] = type := by
  simp [extendedBy]

theorem extendedBy_append_of_not (h : ¬extension.ExtendsType type) :
    type.extendedBy (extensions ++ [extension]) = type.extendedBy extensions := by
  simp [extendedBy, List.filter_append, h]

theorem extendedBy_append_of (h : extension.ExtendsType type) :
    type.extendedBy (extensions ++ [extension]) =
      { type.extendedBy extensions with
        directives := (type.extendedBy extensions).directives ++ extension.directives
        body := type.body.withParts
          ((extensions.filter (·.ExtendsType type)).map (·.body) ++ [extension.body]) } := by
  simp [extendedBy, List.filter_append, h]

end TypeDefinition

namespace Schema

variable {own : List SchemaDefinition} {passed : List TypeExtension} {extension : TypeExtension}
  {name : String}

/-! ## Definitions with extensions -/

/-- The definitions, with the last type of each name extended. -/
def withExtensions (added : List TypeExtension) : List SchemaDefinition → List SchemaDefinition
  | [] => []
  | .type type :: rest =>
    .type (if (lastType? type.name rest).isNone then type.extendedBy added else type) ::
      withExtensions added rest
  | other :: rest => other :: withExtensions added rest

theorem withExtensions_nil (own : List SchemaDefinition) : withExtensions [] own = own := by
  induction own with
  | nil => rfl
  | cons definition rest ih => cases definition <;> simp [withExtensions, ih]

theorem lastType?_withExtensions (added : List TypeExtension) (name : String)
    (own : List SchemaDefinition) :
    lastType? name (withExtensions added own) = (lastType? name own).map (·.extendedBy added) := by
  induction own with
  | nil => rfl
  | cons definition rest ih =>
    cases definition with
    | type type =>
      rw [withExtensions, lastType?, lastType?, ih]
      cases later : lastType? name rest with
      | some last => rfl
      | none =>
        by_cases hn : type.name = name
        · simp [hn, later]
        · simp only [Option.map_none, hn, if_false]
          split <;> simp [hn]
    | roots roots => exact ih
    | directive directive => exact ih

/-- An extension that is of no last type of its name changes nothing. -/
theorem withExtensions_append_of_not
    (h : ∀ type, lastType? extension.name own = some type → ¬extension.ExtendsType type) :
    withExtensions (passed ++ [extension]) own = withExtensions passed own := by
  induction own with
  | nil => rfl
  | cons definition rest ih =>
    cases definition with
    | type type =>
      have tail := ih fun later hl => h later (by rw [lastType?, hl])
      rw [withExtensions, withExtensions, tail]
      by_cases last : lastType? type.name rest = none
      · have apart : ¬extension.ExtendsType type := by
          intro he
          refine h type ?_ he
          simp [lastType?, he.1, last]
        rw [TypeDefinition.extendedBy_append_of_not apart]
      · simp [last]
    | roots roots => simp [withExtensions, ih h]
    | directive directive => simp [withExtensions, ih h]

/-- An extension of the last type of its name changes that type alone. -/
theorem modifyLast_withExtensions {type : TypeDefinition}
    {change : TypeDefinition → TypeDefinition}
    (last : lastType? extension.name own = some type)
    (changed : change (type.extendedBy passed) = type.extendedBy (passed ++ [extension])) :
    modifyLast extension.name change (withExtensions passed own) =
      withExtensions (passed ++ [extension]) own := by
  induction own with
  | nil => cases last
  | cons definition rest ih =>
    cases definition with
    | type first =>
      rw [lastType?] at last
      rw [withExtensions, withExtensions, modifyLast, lastType?_withExtensions]
      cases later : lastType? extension.name rest with
      | some other =>
        rw [later] at last
        have apart : (lastType? first.name rest).isNone = true →
            ¬extension.ExtendsType first := by
          intro hn he
          rw [← he.1, later] at hn
          cases hn
        rw [Option.map_some, Option.isNone_some, if_neg (by simp), ih (later.trans last)]
        split
        · rename_i hn
          rw [TypeDefinition.extendedBy_append_of_not (apart hn)]
        · rfl
      | none =>
        rw [later] at last
        dsimp only at last
        split at last
        · rename_i hn
          obtain rfl := Option.some.inj last
          have unchanged : withExtensions (passed ++ [extension]) rest =
              withExtensions passed rest :=
            withExtensions_append_of_not fun other ho => by simp [later] at ho
          simp [hn, later, changed, unchanged]
        · cases last
    | roots roots => simp [withExtensions, modifyLast, ih last]
    | directive directive => simp [withExtensions, modifyLast, ih last]

/-- The warning for an extension that adds nothing: it names no type, or one of another kind. -/
def omission? (own : List SchemaDefinition) (extension : TypeExtension) : Option Warning :=
  match lastType? extension.name own with
  | none => some (.extensionOfUndefined extension.name)
  | some type =>
    if extension.body.kind = type.kind then none else some (.extensionOfOtherKind extension.name)

/-- One more extension. -/
theorem extend_withExtensions (own : List SchemaDefinition) (passed : List TypeExtension)
    (extension : TypeExtension) :
    extend (withExtensions passed own) extension =
      ⟨withExtensions (passed ++ [extension]) own, (omission? own extension).toList⟩ := by
  unfold extend omission?
  rw [lastType?_withExtensions]
  cases last : lastType? extension.name own with
  | none =>
    rw [withExtensions_append_of_not fun type ht => by simp [last] at ht]
    rfl
  | some type =>
    have name := (mem_of_lastType? last).2
    dsimp only [Option.map_some]
    by_cases kind : extension.body.kind = type.kind
    · have joined : (type.extendedBy passed).body.append? extension.body = some _ :=
        TypeBody.append?_withParts kind
      have changed : type.extendedBy (passed ++ [extension]) = _ :=
        TypeDefinition.extendedBy_append_of ⟨name.symm, kind⟩
      rw [joined, if_pos kind]
      dsimp only
      rw [modifyLast_withExtensions last changed.symm]
      rfl
    · have apart : (type.extendedBy passed).body.append? extension.body = none :=
        TypeBody.append?_eq_none fun same => kind (same.trans TypeDefinition.kind_extendedBy)
      rw [apart, if_neg kind, withExtensions_append_of_not]
      · rfl
      · intro other ho extends_
        rw [last] at ho
        obtain rfl := Option.some.inj ho
        exact kind extends_.2

theorem foldlM_extend_withExtensions (own : List SchemaDefinition)
    (passed extensions : List TypeExtension) :
    extensions.foldlM extend (withExtensions passed own) =
      ⟨withExtensions (passed ++ extensions) own, extensions.filterMap (omission? own)⟩ := by
  induction extensions generalizing passed with
  | nil => simp; rfl
  | cons extension rest ih =>
    rw [List.foldlM_cons, extend_withExtensions]
    apply Logged.ext
    · rw [Logged.value_bind, ih]
      simp
    · rw [Logged.warnings_bind, ih]
      cases h : omission? own extension <;> simp [h]

/-! ## Places -/

/-- No type of the name is among the definitions. -/
def Lacks (definitions : List SchemaDefinition) (name : String) : Prop :=
  ∀ type, .type type ∈ definitions → type.name ≠ name

theorem lastType?_eq_none_iff : lastType? name own = none ↔ Lacks own name := by
  induction own with
  | nil => simp [lastType?, Lacks]
  | cons definition rest ih =>
    unfold Lacks at ih ⊢
    cases definition with
    | type type =>
      have here : (∀ other, .type other ∈ SchemaDefinition.type type :: rest → other.name ≠ name) ↔
          type.name ≠ name ∧ ∀ other, .type other ∈ rest → other.name ≠ name := by
        simp only [List.mem_cons, SchemaDefinition.type.injEq, forall_eq_or_imp]
      rw [here, ← ih, lastType?]
      cases lastType? name rest with
      | some later => simp
      | none => by_cases hn : type.name = name <;> simp [hn]
    | roots roots => simpa [lastType?] using ih
    | directive directive => simpa [lastType?] using ih

theorem lastType?_append {before after : List SchemaDefinition} {type : TypeDefinition}
    (h : Lacks after type.name) :
    lastType? type.name (before ++ .type type :: after) = some type := by
  induction before with
  | nil =>
    rw [List.nil_append, lastType?, lastType?_eq_none_iff.2 h]
    exact if_pos rfl
  | cons definition rest ih => cases definition <;> simp [lastType?, ih]

theorem length_withExtensions (added : List TypeExtension) (own : List SchemaDefinition) :
    (withExtensions added own).length = own.length := by
  induction own with
  | nil => rfl
  | cons definition rest ih => cases definition <;> simp [withExtensions, ih]

/-- What stands at a place depends only on the definition there and on those after it. -/
theorem getElem?_withExtensions (added : List TypeExtension)
    (before after : List SchemaDefinition) :
    (withExtensions added (before ++ after))[before.length]? =
      (withExtensions added after)[0]? := by
  induction before with
  | nil => rfl
  | cons definition rest ih => cases definition <;> simpa [withExtensions] using ih

/-! ## Root types -/

theorem lastRoots?_withExtensions (added : List TypeExtension) (own : List SchemaDefinition) :
    lastRoots? (withExtensions added own) = lastRoots? own := by
  unfold lastRoots?
  congr 1
  induction own with
  | nil => rfl
  | cons definition rest ih => cases definition <;> simp [withExtensions, ih]

theorem lastRoots?_eq_none (h : ∀ roots, .roots roots ∉ own) : lastRoots? own = none := by
  unfold lastRoots?
  rw [List.getLast?_eq_none_iff, List.filterMap_eq_nil_iff]
  intro definition hm
  cases definition with
  | roots roots => exact absurd hm (h roots)
  | type type => rfl
  | directive directive => rfl

theorem lastRoots?_append (before after : List SchemaDefinition) :
    lastRoots? (before ++ after) = (lastRoots? after).or (lastRoots? before) := by
  unfold lastRoots?
  rw [List.filterMap_append, List.getLast?_append]

theorem lastRoots?_of_last {before after : List SchemaDefinition} {roots : RootTypes}
    (h : ∀ later, .roots later ∉ after) :
    lastRoots? (before ++ .roots roots :: after) = some roots := by
  have first : lastRoots? (.roots roots :: after) = some roots := by
    rw [← List.singleton_append, lastRoots?_append, lastRoots?_eq_none h]
    rfl
  rw [lastRoots?_append, first, Option.some_or]

end Schema

/-- The root type that is chosen for a kind of operations. -/
def RootTypes.root? (roots : RootTypes) : OperationKind → Option String
  | .query => roots.query?
  | .mutation => roots.mutation?
  | .subscription => roots.subscription?

/-- The name of the root type where none is chosen. -/
def OperationKind.defaultRoot : OperationKind → String
  | query => "Query"
  | mutation => "Mutation"
  | subscription => "Subscription"

namespace Schema

variable {own : List SchemaDefinition}

theorem rootType?_of_lastRoots? {roots : RootTypes} (h : lastRoots? own = some roots)
    (kind : OperationKind) : (ofDefinitions own).rootType? kind = roots.root? kind := by
  unfold ofDefinitions
  rw [h]
  cases kind <;> rfl

theorem rootType?_of_lastRoots?_eq_none (h : lastRoots? own = none) (kind : OperationKind) :
    (ofDefinitions own).rootType? kind = objectNamed? own kind.defaultRoot := by
  unfold ofDefinitions
  rw [h]
  cases kind <;> rfl

theorem objectNamed?_eq_some_iff {name root : String} : objectNamed? own name = some root ↔
    root = name ∧ ∃ type, lastType? root own = some type ∧ type.kind = .object := by
  unfold objectNamed?
  cases h : lastType? name own with
  | none =>
    simp only [reduceCtorEq, false_iff, not_and]
    rintro rfl
    simp [h]
  | some type =>
    by_cases hk : type.kind = .object
    · simp only [hk, if_true, Option.some.injEq]
      constructor
      · rintro rfl
        exact ⟨rfl, type, h, hk⟩
      · exact fun found => found.1.symm
    · simp only [hk, if_false, reduceCtorEq, false_iff, not_and]
      rintro rfl
      simp [h, hk]

/-! ## What a schema holds -/

/-- A schema holds definitions with their extensions: each definition at its place, where the last
type of a name has what its extensions add and all else is unchanged. It finds by a name the last
type that has it, and takes its root types from the last choice of them, or else from the objects
that have the default names. -/
structure HoldsMerged (own : List SchemaDefinition) (added : List TypeExtension)
    (schema : Schema) : Prop where
  length : schema.definitions.length = own.length
  last : ∀ {before after : List SchemaDefinition} {type : TypeDefinition},
    own = before ++ .type type :: after → Lacks after type.name →
      schema.definitions[before.length]? = some (.type (type.extendedBy added)) ∧
        schema.type? type.name = some (type.extendedBy added)
  other : ∀ {before after : List SchemaDefinition} {definition : SchemaDefinition},
    own = before ++ definition :: after →
      (∀ type, definition = .type type → ¬Lacks after type.name) →
        schema.definitions[before.length]? = some definition
  absent : ∀ name, schema.type? name = none ↔ Lacks own name
  roots : ∀ {before after : List SchemaDefinition} {roots : RootTypes},
    own = before ++ .roots roots :: after → (∀ later, .roots later ∉ after) →
      ∀ kind, schema.rootType? kind = roots.root? kind
  defaultRoots : (∀ roots, .roots roots ∉ own) → ∀ kind root,
    schema.rootType? kind = some root ↔
      root = kind.defaultRoot ∧ ∃ type, schema.type? root = some type ∧ type.kind = .object

theorem holdsMerged_withExtensions (own : List SchemaDefinition) (added : List TypeExtension) :
    HoldsMerged own added (ofDefinitions (withExtensions added own)) where
  length := by rw [definitions_ofDefinitions, length_withExtensions]
  last := by
    rintro before after type rfl lacks
    constructor
    · rw [definitions_ofDefinitions, getElem?_withExtensions, withExtensions,
        lastType?_eq_none_iff.2 lacks]
      rfl
    · rw [type?, definitions_ofDefinitions, lastType?_withExtensions, lastType?_append lacks,
        Option.map_some]
  other := by
    rintro before after definition rfl apart
    rw [definitions_ofDefinitions, getElem?_withExtensions]
    cases definition with
    | type type =>
      have later := mt lastType?_eq_none_iff.1 (apart type rfl)
      rw [withExtensions, if_neg (by simpa using later)]
      rfl
    | roots roots => rfl
    | directive directive => rfl
  absent name := by
    rw [type?, definitions_ofDefinitions, lastType?_withExtensions, Option.map_eq_none_iff,
      lastType?_eq_none_iff]
  roots := by
    rintro before after roots rfl none kind
    exact rootType?_of_lastRoots? ((lastRoots?_withExtensions _ _).trans (lastRoots?_of_last none))
      kind
  defaultRoots none kind root := by
    rw [rootType?_of_lastRoots?_eq_none
      ((lastRoots?_withExtensions _ _).trans (lastRoots?_eq_none none)),
      objectNamed?_eq_some_iff, type?, definitions_ofDefinitions]

/-- The schema of documents holds their definitions with all extensions, in the order of the
documents, and each extension that adds nothing gives one warning. -/
theorem ofDocuments_holds_merged (documents : List SchemaDocument) :
    HoldsMerged (ownDefinitions documents.flatten) (extensions documents.flatten)
        (ofDocuments documents).value ∧
      (ofDocuments documents).warnings = (extensions documents.flatten).filterMap
        (omission? (ownDefinitions documents.flatten)) := by
  have run := foldlM_extend_withExtensions (ownDefinitions documents.flatten) []
    (extensions documents.flatten)
  rw [withExtensions_nil, List.nil_append] at run
  unfold ofDocuments ofDocument
  rw [run]
  constructor
  · exact holdsMerged_withExtensions _ _
  · rw [Logged.warnings_bind]
    simp

end Schema

end SchemaBindings
