import SchemaBindings.Proofs.OperationReferences
import SchemaBindings.Proofs.RepeatedSelections

/-!
# Failures of operations

When the output for operations cannot be made. A rendering fails for the undefined type condition
of an inline fragment that it comes to (`exists_undefined_of_rendering_eq_error`), and one that
succeeds comes to none (`Renders.not_rendersUndefined`). So a definition fails for an undefined type
that it names, or for a missing root type (`OperationGenerator.namesUndefined_of_eq_error`).

Where the selections are consistent, rendering comes to the conditions of the inline fragments that
stand in no skipped field (`Schema.MeetsUndefined`), so that failures are told without it
(`Definition.FailsWith`). The output fails with the error of the first definition that fails, and
otherwise has one text for each definition with a name (`Plugin.operations_fail_iff`).
-/

namespace SchemaBindings

/-! ## Undefined type conditions -/

namespace Schema

variable {schema : Schema}

/-- No type of the name is defined, and none is built in. -/
def IsUndefined (schema : Schema) (name : String) : Prop :=
  Lacks schema.definitions name ∧ name ∉ builtinScalars

theorem kind?_eq_none_iff {name : String} :
    schema.kind? name = none ↔ schema.IsUndefined name := by
  unfold kind? IsUndefined
  rw [← lastType?_eq_none_iff]
  show _ ↔ schema.type? name = none ∧ _
  cases schema.type? name with
  | some type => simp
  | none => simp

/-- Selections on a type hold an inline fragment with the type condition, which is undefined. Fields
that the type does not have and `__typename` are not looked into. -/
inductive MeetsUndefined (schema : Schema) (type : String) : String → List Selection → Prop
  | condition {parent : String} {selections inner : List Selection} {directives : List Directive}
      (mem : .inline (some type) directives inner ∈ selections)
      (undefined : schema.IsUndefined type) : MeetsUndefined schema type parent selections
  | inline {parent : String} {selections inner : List Selection} {condition? : Option String}
      {directives : List Directive} (mem : .inline condition? directives inner ∈ selections)
      (meets : MeetsUndefined schema type (condition?.getD parent) inner) :
      MeetsUndefined schema type parent selections
  | field {parent : String} {selections inner : List Selection} {call : FieldCall} {ref : TypeRef}
      (mem : .field call inner ∈ selections) (notTypename : call.name ≠ typenameField)
      (known : schema.fieldType? parent call.name = some ref)
      (meets : MeetsUndefined schema type ref.baseName inner) :
      MeetsUndefined schema type parent selections

namespace MeetsUndefined

variable {type parent : String} {selections more : List Selection}

theorem mono (h : schema.MeetsUndefined type parent selections) (hs : selections ⊆ more) :
    schema.MeetsUndefined type parent more := by
  cases h with
  | condition mem undefined => exact .condition (hs mem) undefined
  | inline mem meets => exact .inline (hs mem) meets
  | field mem notTypename known meets => exact .field (hs mem) notTypename known meets

theorem not_nil : ¬schema.MeetsUndefined type parent [] := by
  intro h
  cases h with
  | condition mem undefined => cases mem
  | inline mem meets => cases mem
  | field mem notTypename known meets => cases mem

theorem exists_of_flatMap {α : Type} {items : List α} {part : α → List Selection}
    (h : schema.MeetsUndefined type parent (items.flatMap part)) :
    ∃ item ∈ items, schema.MeetsUndefined type parent (part item) := by
  cases h with
  | condition mem undefined =>
    obtain ⟨item, hi, mem⟩ := List.mem_flatMap.1 mem
    exact ⟨item, hi, .condition mem undefined⟩
  | inline mem meets =>
    obtain ⟨item, hi, mem⟩ := List.mem_flatMap.1 mem
    exact ⟨item, hi, .inline mem meets⟩
  | field mem notTypename known meets =>
    obtain ⟨item, hi, mem⟩ := List.mem_flatMap.1 mem
    exact ⟨item, hi, .field mem notTypename known meets⟩

end MeetsUndefined

end Schema

/-! ## Selections -/

namespace SelectionContext

open Selection (heights)

variable {context : SelectionContext} {type parent : String} {selections : List Selection}

theorem collectInline_eq_error {nested : Nested} {collected : Collected}
    {condition? : Option String} {inner : List Selection} {error : GenerationError}
    (failed : (context.collectInline nested parent collected condition? inner).outcome =
      .error error) :
    (∃ type, condition? = some type ∧ context.schema.IsUndefined type ∧
        error = .unknownType type) ∨
      (nested (condition?.getD parent) (context.isBranch parent (condition?.getD parent))
        inner).outcome = .error error := by
  unfold collectInline at failed
  cases condition? with
  | none => exact .inr (Generation.eq_error_of_bind (fun _ => ⟨_, rfl⟩) failed)
  | some type =>
    cases hk : context.schema.kind? type with
    | none =>
      simp only [hk, Option.isNone_none, if_true] at failed
      exact .inl ⟨type, rfl, Schema.kind?_eq_none_iff.1 hk, (Except.error.inj failed).symm⟩
    | some kind =>
      simp only [hk, Option.isNone_some, Bool.false_eq_true, if_false] at failed
      exact .inr (Generation.eq_error_of_bind (fun _ => ⟨_, rfl⟩) failed)

/-- Collecting fails at an inline fragment. -/
theorem exists_inline_of_collect_eq_error {nested : Nested} {error : GenerationError}
    (failed : (context.collect nested parent selections).outcome = .error error) :
    ∃ condition? directives inner, .inline condition? directives inner ∈ selections ∧
      ((∃ type, condition? = some type ∧ context.schema.IsUndefined type ∧
          error = .unknownType type) ∨
        (nested (condition?.getD parent) (context.isBranch parent (condition?.getD parent))
          inner).outcome = .error error) := by
  obtain ⟨collected, selection, mem, failed⟩ := Generation.exists_of_foldlM_eq_error failed
  cases selection with
  | field call inner =>
    rw [collectOne, outcome_collectField] at failed
    cases failed
  | spread name directives =>
    rw [collectOne, outcome_collectSpread] at failed
    cases failed
  | inline condition? directives inner =>
    exact ⟨condition?, directives, inner, mem, collectInline_eq_error failed⟩

theorem exists_link_of_lines_eq_error {nested : Nested} {withTypename : Bool}
    {collected : Collected} {error : GenerationError}
    (failed : (context.lines nested parent withTypename collected).outcome = .error error) :
    ∃ key link, collected.links.find? key = some link ∧
      (nested link.type.baseName true link.selections).outcome = .error error := by
  unfold SelectionContext.lines at failed
  obtain ⟨before, ⟨key, link⟩, after, he, -, failed⟩ := Generation.outcome_mapM_eq_error
    (Generation.eq_error_of_bind (fun _ => ⟨_, rfl⟩) failed)
  have mem : (key, link) ∈ collected.links.entries := by
    rw [he]
    simp
  exact ⟨key, link, (OrderedMap.mem_entries_iff _ _ _).1 mem,
    Generation.eq_error_of_bind (fun _ => ⟨_, rfl⟩) failed⟩

/-- Rendering selections on a type comes to an inline fragment with the type condition, which is
undefined. It goes into inline fragments, and into all sub-selections under a key together. -/
inductive RendersUndefined (context : SelectionContext) (type : String) :
    String → List Selection → Prop
  | condition {parent : String} {selections inner : List Selection} {directives : List Directive}
      (mem : .inline (some type) directives inner ∈ selections)
      (undefined : context.schema.IsUndefined type) :
      RendersUndefined context type parent selections
  | inline {parent : String} {selections inner : List Selection} {condition? : Option String}
      {directives : List Directive} (mem : .inline condition? directives inner ∈ selections)
      (within : RendersUndefined context type (condition?.getD parent) inner) :
      RendersUndefined context type parent selections
  | link {parent key : String} {selections : List Selection} {link : Link}
      (under : DefinedField.link? (context.definedFields parent selections) key = some link)
      (within : RendersUndefined context type link.type.baseName link.selections) :
      RendersUndefined context type parent selections

theorem RendersUndefined.ne_nil (h : context.RendersUndefined type parent selections) :
    selections ≠ [] := by
  rintro rfl
  cases h with
  | condition mem undefined => cases mem
  | inline mem within => cases mem
  | link under within =>
    obtain ⟨⟨first, hf, -⟩, -⟩ := DefinedField.link?_eq_some under
    cases (DefinedField.mem_linksUnder.1 hf).1

theorem exists_undefined_of_rendering_eq_error {withTypename : Bool} {error : GenerationError}
    (failed : (context.rendering parent withTypename selections).outcome = .error error) :
    ∃ type, error = .unknownType type ∧ context.RendersUndefined type parent selections := by
  -- on the nesting depth, since the sub-selections of a link are put together from several fields
  induction hn : heights selections using Nat.strongRecOn
    generalizing parent withTypename selections with
  | ind n ih =>
    subst hn
    rw [rendering_eq] at failed
    rcases Generation.outcome_bind_eq_error.1 failed with failed | ⟨collected, made, failed⟩
    · obtain ⟨condition?, directives, inner, mem, failed⟩ :=
        exists_inline_of_collect_eq_error failed
      rcases failed with ⟨type, rfl, undefined, rfl⟩ | failed
      · exact ⟨type, rfl, .condition mem undefined⟩
      · obtain ⟨type, rfl, within⟩ := ih _ (Selection.heights_lt_of_inline mem) failed rfl
        exact ⟨type, rfl, .inline mem within⟩
    · obtain ⟨key, link, found, failed⟩ := exists_link_of_lines_eq_error
        (Generation.eq_error_of_bind (fun _ => ⟨_, rfl⟩) failed)
      have under := ((gathers_of_collect made).fields.links key).symm.trans found
      obtain ⟨type, rfl, within⟩ := ih _ (heights_link_lt under) failed rfl
      exact ⟨type, rfl, .link under within⟩

theorem Renders.not_isUndefined {withTypename : Bool} {lines : List StructLine}
    (renders : context.Renders parent withTypename selections lines) {directives : List Directive}
    {inner : List Selection} (mem : .inline (some type) directives inner ∈ selections) :
    ¬context.schema.IsUndefined type := by
  obtain ⟨queried, ok⟩ := renders
  obtain ⟨collected, links, rendered, -⟩ := exists_rendered ok
  have known := rendered.gathers.known type directives inner mem
  rw [← Schema.kind?_eq_none_iff]
  intro none
  rw [none] at known
  cases known

theorem Renders.not_rendersUndefined {withTypename : Bool} {lines : List StructLine}
    (renders : context.Renders parent withTypename selections lines) :
    ¬context.RendersUndefined type parent selections := by
  intro h
  induction h generalizing withTypename lines with
  | condition mem undefined => exact renders.not_isUndefined mem undefined
  | inline mem within ih =>
    obtain ⟨made, renders⟩ := renders.inline mem
    exact ih renders
  | link under within ih =>
    obtain ⟨queried, ok⟩ := renders
    obtain ⟨collected, links, rendered, -⟩ := exists_rendered ok
    obtain ⟨made, nested, -⟩ := rendered.exists_link_mem under
    exact ih nested

theorem exists_undefined_of_structText_eq_error {error : GenerationError}
    (failed : (context.structText parent selections).outcome = .error error) :
    ∃ type, error = .unknownType type ∧ context.RendersUndefined type parent selections := by
  unfold structText at failed
  split at failed
  · cases failed
  · have failed := Generation.eq_error_of_bind (fun _ => ⟨_, rfl⟩) failed
    unfold structLines at failed
    exact exists_undefined_of_rendering_eq_error
      (Generation.eq_error_of_bind (fun _ => ⟨_, rfl⟩) failed)

theorem not_rendersUndefined_of_structText_eq_ok {content : String}
    (ok : (context.structText parent selections).outcome = .ok content) :
    ¬context.RendersUndefined type parent selections := by
  intro h
  obtain ⟨lines, made, -⟩ := structText_eq_ok h.ne_nil ok
  exact Renders.not_rendersUndefined (structLines_eq_ok.1 made) h

/-! ### Consistent selections -/

theorem RendersUndefined.meets (h : context.RendersUndefined type parent selections)
    (consistent : Selection.Consistent selections) :
    context.schema.MeetsUndefined type parent selections := by
  induction h with
  | condition mem undefined => exact .condition mem undefined
  | inline mem within ih => exact .inline mem (ih (consistent.inline mem))
  | link under within ih =>
    obtain ⟨types, inner⟩ := consistent_link consistent under
    have meets := ih inner
    obtain ⟨-, hl⟩ := DefinedField.link?_eq_some under
    rw [hl] at meets
    obtain ⟨field, hf, meets⟩ := meets.exists_of_flatMap
    obtain ⟨field_mem, -, -⟩ := DefinedField.mem_linksUnder.1 hf
    obtain ⟨mem, notTypename, known⟩ := mem_definedFields.1 field_mem
    rw [← types field hf] at meets
    exact .field mem notTypename known meets

/-- Undefined conditions that stand in no skipped field are come to. -/
theorem rendersUndefined_of_meets (consistent : Selection.Consistent selections)
    (meets : context.schema.MeetsUndefined type parent selections) :
    context.RendersUndefined type parent selections := by
  -- on the nesting depth, since a link holds the sub-selections of more fields than the one met
  induction hn : heights selections using Nat.strongRecOn generalizing parent selections with
  | ind n ih =>
    subst hn
    cases meets with
    | condition mem undefined => exact .condition mem undefined
    | inline mem meets =>
      exact .inline mem
        (ih _ (Selection.heights_lt_of_inline mem) (consistent.inline mem) meets rfl)
    | @field _ _ inner call ref mem notTypename known meets =>
      have nonempty : inner ≠ [] := by
        rintro rfl
        exact meets.not_nil
      let field : DefinedField := ⟨call, ref, inner⟩
      have defined : field ∈ context.definedFields parent selections :=
        mem_definedFields.2 ⟨mem, notTypename, known⟩
      have isLink : field.isLink = true := by
        simp [field, DefinedField.isLink, nonempty]
      obtain ⟨link, under, -, subset⟩ := DefinedField.link?_of_mem defined isLink
      obtain ⟨types, consistent⟩ := consistent_link consistent under
      have meets : context.schema.MeetsUndefined type field.type.baseName inner := meets
      rw [types field (DefinedField.mem_linksUnder.2 ⟨defined, isLink, rfl⟩)] at meets
      exact .link under (ih _ (heights_link_lt under) consistent (meets.mono subset) rfl)

end SelectionContext

/-! ## Definitions -/

namespace Definition

/-- Whether the definition is a fragment or an operation with a name. -/
def isNamed : Definition → Bool
  | .fragment _ => true
  | .operation body => body.name?.isSome

/-- The definition fails with the error: its type condition is undefined, it is an operation with a
name and of a kind without a root type, or its selections hold an undefined type condition. -/
inductive FailsWith (schema : Schema) : Definition → GenerationError → Prop
  | fragmentType {fragment : Fragment} (undefined : schema.IsUndefined fragment.onType) :
      FailsWith schema (.fragment fragment) (.unknownType fragment.onType)
  | fragmentSelections {fragment : Fragment} {type : String}
      (defined : ¬schema.IsUndefined fragment.onType)
      (meets : schema.MeetsUndefined type fragment.onType fragment.selections) :
      FailsWith schema (.fragment fragment) (.unknownType type)
  | rootType {operation : Operation} {name : String} (named : operation.name? = some name)
      (missing : schema.rootType? operation.kind = none) :
      FailsWith schema (.operation operation) (.missingRootType operation.kind)
  | operationSelections {operation : Operation} {name root type : String}
      (named : operation.name? = some name) (rooted : schema.rootType? operation.kind = some root)
      (meets : schema.MeetsUndefined type root operation.selections) :
      FailsWith schema (.operation operation) (.unknownType type)

end Definition

namespace OperationGenerator

variable {generator : OperationGenerator} {definition : Definition} {type : String}

/-- The definition names an undefined type: it is a fragment on that type, or the rendering of its
selections comes to the type as a condition. -/
inductive NamesUndefined (generator : OperationGenerator) (type : String) : Definition → Prop
  | fragmentType {fragment : Fragment} (own : fragment.onType = type)
      (undefined : generator.schema.IsUndefined type) :
      NamesUndefined generator type (.fragment fragment)
  | fragmentSelections {fragment : Fragment}
      (within : generator.selectionContext.RendersUndefined type fragment.onType
        fragment.selections) :
      NamesUndefined generator type (.fragment fragment)
  | operationSelections {operation : Operation} {name root : String}
      (named : operation.name? = some name)
      (rooted : generator.schema.rootType? operation.kind = some root)
      (within : generator.selectionContext.RendersUndefined type root operation.selections) :
      NamesUndefined generator type (.operation operation)

theorem fragmentText_eq_error {fragment : Fragment} {error : GenerationError}
    (failed : (generator.fragmentText fragment).outcome = .error error) :
    (generator.schema.IsUndefined fragment.onType ∧ error = .unknownType fragment.onType) ∨
      (¬generator.schema.IsUndefined fragment.onType ∧
        (generator.selectionContext.structText fragment.onType fragment.selections).outcome =
          .error error) := by
  unfold fragmentText at failed
  cases kind : generator.schema.kind? fragment.onType with
  | none =>
    rw [kind] at failed
    exact .inl ⟨Schema.kind?_eq_none_iff.1 kind, (Except.error.inj failed).symm⟩
  | some known =>
    rw [kind] at failed
    have defined : ¬generator.schema.IsUndefined fragment.onType := by
      rw [← Schema.kind?_eq_none_iff, kind]
      exact Option.some_ne_none known
    exact .inr ⟨defined, Generation.eq_error_of_bind (fun _ => ⟨_, rfl⟩) failed⟩

theorem namedOperationText_eq_error {operation : Operation} {name : String}
    {error : GenerationError}
    (failed : (generator.namedOperationText operation name).outcome = .error error) :
    (generator.schema.rootType? operation.kind = none ∧
        error = .missingRootType operation.kind) ∨
      ∃ root, generator.schema.rootType? operation.kind = some root ∧
        (generator.selectionContext.structText root operation.selections).outcome =
          .error error := by
  unfold namedOperationText at failed
  cases rooted : generator.schema.rootType? operation.kind with
  | none =>
    rw [rooted] at failed
    exact .inl ⟨rfl, (Except.error.inj failed).symm⟩
  | some root =>
    rw [rooted] at failed
    exact .inr ⟨root, rfl, Generation.eq_error_of_bind (fun _ => ⟨_, rfl⟩) failed⟩

theorem definitionText?_fragment_eq_error {fragment : Fragment} {error : GenerationError}
    (failed : (generator.definitionText? (.fragment fragment)).outcome = .error error) :
    (generator.fragmentText fragment).outcome = .error error :=
  Generation.eq_error_of_bind (fun _ => ⟨_, rfl⟩) failed

theorem definitionText?_operation_eq_error {operation : Operation} {error : GenerationError}
    (failed : (generator.definitionText? (.operation operation)).outcome = .error error) :
    ∃ name, operation.name? = some name ∧
      (generator.namedOperationText operation name).outcome = .error error := by
  unfold definitionText? at failed
  dsimp only at failed
  cases named : operation.name? with
  | none =>
    rw [named] at failed
    cases failed
  | some name =>
    rw [named] at failed
    exact ⟨name, rfl, Generation.eq_error_of_bind (fun _ => ⟨_, rfl⟩) failed⟩

/-- A definition fails for an undefined type that it names, or for a missing root type. -/
theorem namesUndefined_of_eq_error {error : GenerationError}
    (failed : (generator.definitionText? definition).outcome = .error error) :
    (∃ type, generator.NamesUndefined type definition ∧ error = .unknownType type) ∨
      ∃ operation, definition = .operation operation ∧
        generator.schema.rootType? operation.kind = none ∧
        error = .missingRootType operation.kind := by
  cases definition with
  | fragment fragment =>
    rcases fragmentText_eq_error (definitionText?_fragment_eq_error failed) with
      ⟨undefined, rfl⟩ | ⟨-, failed⟩
    · exact .inl ⟨_, .fragmentType rfl undefined, rfl⟩
    · obtain ⟨type, rfl, within⟩ :=
        SelectionContext.exists_undefined_of_structText_eq_error failed
      exact .inl ⟨type, .fragmentSelections within, rfl⟩
  | operation operation =>
    obtain ⟨name, named, failed⟩ := definitionText?_operation_eq_error failed
    rcases namedOperationText_eq_error failed with missing | ⟨root, rooted, failed⟩
    · exact .inr ⟨operation, rfl, missing⟩
    · obtain ⟨type, rfl, within⟩ :=
        SelectionContext.exists_undefined_of_structText_eq_error failed
      exact .inl ⟨type, .operationSelections named rooted within, rfl⟩

theorem not_namesUndefined_of_eq_ok {text? : Option String}
    (ok : (generator.definitionText? definition).outcome = .ok text?) :
    ¬generator.NamesUndefined type definition := by
  intro names
  cases names with
  | @fragmentType fragment own undefined =>
    obtain ⟨text, ok, -⟩ := definitionText?_fragment_eq_ok.1 ok
    subst own
    unfold fragmentText at ok
    rw [Schema.kind?_eq_none_iff.2 undefined] at ok
    cases ok
  | fragmentSelections within =>
    obtain ⟨text, ok, -⟩ := definitionText?_fragment_eq_ok.1 ok
    obtain ⟨content, made, -⟩ := fragmentText_eq_ok ok
    exact SelectionContext.not_rendersUndefined_of_structText_eq_ok made within
  | operationSelections named rooted within =>
    rcases definitionText?_operation_eq_ok.1 ok with ⟨anonymous, -⟩ | ⟨name, text, -, ok, -⟩
    · rw [named] at anonymous
      cases anonymous
    · obtain ⟨root, content, present, made, -⟩ := namedOperationText_eq_ok ok
      rw [rooted, Option.some.injEq] at present
      subst present
      exact SelectionContext.not_rendersUndefined_of_structText_eq_ok made within

theorem failsWith_of_eq_error (consistent : Selection.Consistent definition.selections)
    {error : GenerationError}
    (failed : (generator.definitionText? definition).outcome = .error error) :
    definition.FailsWith generator.schema error := by
  cases definition with
  | fragment fragment =>
    rcases fragmentText_eq_error (definitionText?_fragment_eq_error failed) with
      ⟨undefined, rfl⟩ | ⟨defined, failed⟩
    · exact .fragmentType undefined
    · obtain ⟨type, rfl, within⟩ :=
        SelectionContext.exists_undefined_of_structText_eq_error failed
      exact .fragmentSelections defined (within.meets consistent)
  | operation operation =>
    obtain ⟨name, named, failed⟩ := definitionText?_operation_eq_error failed
    rcases namedOperationText_eq_error failed with ⟨missing, rfl⟩ | ⟨root, rooted, failed⟩
    · exact .rootType named missing
    · obtain ⟨type, rfl, within⟩ :=
        SelectionContext.exists_undefined_of_structText_eq_error failed
      exact .operationSelections named rooted (within.meets consistent)

/-- A definition gets a text exactly if it has a name. -/
theorem isSome_of_eq_ok {text? : Option String}
    (ok : (generator.definitionText? definition).outcome = .ok text?) :
    text?.isSome = definition.isNamed := by
  cases definition with
  | fragment fragment =>
    obtain ⟨text, -, rfl⟩ := definitionText?_fragment_eq_ok.1 ok
    rfl
  | operation operation =>
    show text?.isSome = operation.name?.isSome
    rcases definitionText?_operation_eq_ok.1 ok with ⟨named, rfl⟩ | ⟨name, text, named, -, rfl⟩
    · rw [named]
    · rw [named]
      rfl

theorem not_failsWith_of_eq_ok (consistent : Selection.Consistent definition.selections)
    {text? : Option String} (ok : (generator.definitionText? definition).outcome = .ok text?)
    (error : GenerationError) : ¬definition.FailsWith generator.schema error := by
  intro fails
  cases fails with
  | fragmentType undefined => exact not_namesUndefined_of_eq_ok ok (.fragmentType rfl undefined)
  | fragmentSelections defined meets =>
    exact not_namesUndefined_of_eq_ok ok
      (.fragmentSelections (SelectionContext.rendersUndefined_of_meets consistent meets))
  | rootType named missing =>
    rcases definitionText?_operation_eq_ok.1 ok with ⟨anonymous, -⟩ | ⟨other, text, -, ok, -⟩
    · rw [named] at anonymous
      cases anonymous
    · obtain ⟨root, content, rooted, -⟩ := namedOperationText_eq_ok ok
      rw [missing] at rooted
      cases rooted
  | operationSelections named rooted meets =>
    exact not_namesUndefined_of_eq_ok ok (.operationSelections named rooted
      (SelectionContext.rendersUndefined_of_meets consistent meets))

/-- What is made for definitions are the texts for those with a name, in order. -/
theorem forall₂_named {document : Document} {made : List (Option String)}
    (h : List.Forall₂ (fun definition text? =>
      (generator.definitionText? definition).outcome = .ok text?) document made) :
    List.Forall₂ (fun definition text =>
        (generator.definitionText? definition).outcome = .ok (some text))
      (document.filter (·.isNamed)) (made.filterMap id) := by
  induction h with
  | nil => exact .nil
  | @cons definition text? rest others ok run ih =>
    have named := isSome_of_eq_ok ok
    cases text? with
    | none =>
      rw [List.filter_cons_of_neg (by rw [← named]; exact Bool.false_ne_true)]
      exact ih
    | some text =>
      rw [List.filter_cons_of_pos (by rw [← named]; rfl)]
      exact .cons ok ih

end OperationGenerator

/-! ## Outputs -/

namespace Plugin

variable {schema : Schema} {files : List DocumentFile}

/-- The generator that makes the output for operations. -/
def operationGenerator (schema : Schema) (files : List DocumentFile) (options : Options)
    (info : PluginInfo) : OperationGenerator :=
  .ofSchema schema options (.ofDocument (DocumentFile.concat files) info.external)

/-- An output for operations consists of what is made for the definitions. -/
theorem exists_made_of_runOperations {options : Options} {info : PluginInfo} {output : PluginOutput}
    (ok : (runOperations schema files options info).outcome = .ok output) :
    ∃ made, output.content = "\n".intercalate (made.filterMap id) ∧
      List.Forall₂ (fun definition text? =>
          ((operationGenerator schema files options info).definitionText? definition).outcome =
            .ok text?)
        (DocumentFile.concat files) made := by
  obtain ⟨texts, ht, ok⟩ := Generation.outcome_bind_eq_ok.1 ok
  cases ok
  obtain ⟨made, hm, ok⟩ := Generation.outcome_bind_eq_ok.1 ht
  cases ok
  exact ⟨made, rfl, Generation.outcome_mapM_eq_ok.1 hm⟩

/-- The output for operations fails exactly if a definition does, with the error of the first one.
Otherwise each fragment and each named operation gets one text. -/
theorem operations_fail_iff
    (consistent : ∀ definition ∈ DocumentFile.concat files,
      Selection.Consistent definition.selections) (options : Options) (info : PluginInfo) :
    ((∃ error, (runOperations schema files options info).outcome = .error error) ↔
        ∃ definition ∈ DocumentFile.concat files, ∃ error, definition.FailsWith schema error) ∧
      (∀ error, (runOperations schema files options info).outcome = .error error →
        ∃ before definition after,
          DocumentFile.concat files = before ++ definition :: after ∧
          (∀ earlier ∈ before, ∀ other, ¬earlier.FailsWith schema other) ∧
          definition.FailsWith schema error) ∧
      ∀ output, (runOperations schema files options info).outcome = .ok output →
        ∃ texts, output.content = "\n".intercalate texts ∧
          List.Forall₂ (fun definition text =>
              ((operationGenerator schema files options info).definitionText?
                definition).outcome = .ok (some text))
            ((DocumentFile.concat files).filter (·.isNamed)) texts := by
  have first : ∀ error, (runOperations schema files options info).outcome = .error error →
      ∃ before definition after, DocumentFile.concat files = before ++ definition :: after ∧
        (∀ earlier ∈ before, ∀ other, ¬earlier.FailsWith schema other) ∧
        definition.FailsWith schema error := by
    intro error failed
    have failed := Generation.eq_error_of_bind (fun _ => ⟨_, rfl⟩) failed
    obtain ⟨before, definition, after, split, passed, failed⟩ :=
      Generation.outcome_mapM_eq_error (Generation.eq_error_of_bind (fun _ => ⟨_, rfl⟩) failed)
    rw [split, List.forall_mem_append, List.forall_mem_cons] at consistent
    refine ⟨before, definition, after, split, fun earlier he => ?_,
      OperationGenerator.failsWith_of_eq_error consistent.2.1 failed⟩
    obtain ⟨text?, ok⟩ := Generation.exists_eq_ok (passed earlier he)
    exact OperationGenerator.not_failsWith_of_eq_ok (consistent.1 earlier he) ok
  refine ⟨⟨?_, ?_⟩, first, ?_⟩
  · rintro ⟨error, failed⟩
    obtain ⟨before, definition, after, split, -, fails⟩ := first error failed
    rw [split]
    exact ⟨definition, by simp, error, fails⟩
  · rintro ⟨definition, hd, error, fails⟩
    cases outcome : (runOperations schema files options info).outcome with
    | error other => exact ⟨other, rfl⟩
    | ok output =>
      obtain ⟨made, -, run⟩ := exists_made_of_runOperations outcome
      obtain ⟨text?, -, ok⟩ := Generation.exists_made_of_mem run hd
      exact absurd fails
        (OperationGenerator.not_failsWith_of_eq_ok (consistent definition hd) ok error)
  · intro output ok
    obtain ⟨made, content, run⟩ := exists_made_of_runOperations ok
    exact ⟨made.filterMap id, content, OperationGenerator.forall₂_named run⟩

/-- The definitions `fragment Skipped on Cat { color { ... on Dog { id } } }` and
`query { pets { ... on Dog { id } } }`. Neither fails: there is no field `color`, and the query has
no name. -/
def passedDefinitions : List Definition := [
  .fragment {
    name := "Skipped"
    onType := "Cat"
    selections := [.field { name := "color" } [
      .inline (some "Dog") [] [.field { name := "id" } []]]] },
  .operation {
    kind := .query
    selections := [.field { name := "pets" } [
      .inline (some "Dog") [] [.field { name := "id" } []]]] }]

/-- The definitions `query Pets { ... { pets { kind ... on Dog { id } } } }` and
`mutation Add { pet }`, for a schema without mutations. -/
def failingDefinitions : List Definition := [
  .operation {
    kind := .query
    name? := some "Pets"
    selections := [.inline none [] [.field { name := "pets" } [
      .field { name := "kind" } [], .inline (some "Dog") [] [.field { name := "id" } []]]]] },
  .operation {
    kind := .mutation
    name? := some "Add"
    selections := [.field { name := "pet" } []] }]

/-- The files with the one document and then the other. -/
def failingFiles : List DocumentFile :=
  [{ document := passedDefinitions }, { document := failingDefinitions }]

theorem undefined_condition_fails_first :
    (∀ definition ∈ DocumentFile.concat failingFiles,
      Selection.Consistent definition.selections) ∧
    (runOperations kindSchema failingFiles {} {}).outcome = .error (.unknownType "Dog") ∧
    ∃ before definition after,
      DocumentFile.concat failingFiles = before ++ definition :: after ∧
      (∀ earlier ∈ before, ∀ other, ¬earlier.FailsWith kindSchema other) ∧
      definition.FailsWith kindSchema (.unknownType "Dog") := by
  have consistent : ∀ definition ∈ DocumentFile.concat failingFiles,
      Selection.Consistent definition.selections := by decide +kernel
  have failed : (runOperations kindSchema failingFiles {} {}).outcome =
      .error (.unknownType "Dog") := by decide +kernel
  exact ⟨consistent, failed, (operations_fail_iff consistent {} {}).2.1 _ failed⟩

end Plugin

end SchemaBindings
