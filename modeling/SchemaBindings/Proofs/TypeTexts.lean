import SchemaBindings.Generated.SchemaTypes
import SchemaBindings.Proofs.FieldPresence
import SchemaBindings.Proofs.OperationReferences

/-!
# How types are written

What is written for a reference to a type, told by the marks that the reference puts around the name
of the type: one pair of brackets for each list, and a star where the place has no other value for
absence. The rules for fields of the schema, for input and for selected fields are written down
apart (`TypeRef.outputText`, `TypeRef.inputText`, `TypeRef.selectionText`), and what is generated
follows them (`TypeResolver.types_written_by_marks`).
-/

namespace SchemaBindings

/-! ## Marks of a reference -/

/-- A mark of a reference to a type. -/
inductive TypeMark
  | list
  | nonNull
  deriving Repr, DecidableEq

namespace TypeRef

/-- The marks around the name of the type, the outermost first. -/
def marks : TypeRef → List TypeMark
  | named _ => []
  | list item => .list :: item.marks
  | nonNull inner => .nonNull :: inner.marks

theorem listDepth_eq_count (ref : TypeRef) : ref.listDepth = ref.marks.count .list := by
  induction ref with
  | named => rfl
  | list item ih => simp [listDepth, marks, ih]
  | nonNull inner ih => simp [listDepth, marks, ih]

theorem isList_iff_mem_marks (ref : TypeRef) : ref.isList = true ↔ .list ∈ ref.marks := by
  rw [isList_iff_listDepth_pos, listDepth_eq_count, List.count_pos_iff]

theorem isNonNull_iff_head? (ref : TypeRef) :
    ref.isNonNull = true ↔ ref.marks.head? = some .nonNull := by
  cases ref <;> simp [isNonNull, marks]

/-- The named type may be null unless the innermost mark says otherwise. -/
theorem isBaseNullable_iff_getLast? (ref : TypeRef) :
    ref.isBaseNullable = true ↔ ref.marks.getLast? ≠ some .nonNull := by
  induction ref with
  | named => simp [isBaseNullable, marks]
  | list item ih =>
    rw [isBaseNullable, ih, marks, List.getLast?_cons]
    cases item.marks.getLast? <;> simp
  | nonNull inner ih =>
    cases inner with
    | named => simp [isBaseNullable, marks]
    | list item => exact ih.trans (by simp [marks])
    | nonNull deep => exact ih.trans (by simp [marks])

/-! ## Rules -/

/-- A pair of brackets for each list. -/
def slices (ref : TypeRef) : String :=
  String.join (List.replicate (ref.marks.count .list) "[]")

/-- What is written for a field of the schema: a star where the named type may be null, unless
optionals are avoided. -/
def outputText (ref : TypeRef) (avoidOptionals : Bool) (base : String) : String :=
  ref.slices ++
    (if ref.marks.getLast? ≠ some .nonNull ∧ avoidOptionals = false then "*" else "") ++ base

/-- What is written for input: for a list what is written for a field of the schema, and else a star
where a value may be left out. -/
def inputText (ref : TypeRef) (hasDefault avoidOptionals : Bool) (base : String) : String :=
  if .list ∈ ref.marks then ref.outputText avoidOptionals base
  else
    (if ref.marks.head? ≠ some .nonNull ∧ hasDefault = false ∧ avoidOptionals = false then "*"
      else "") ++ base

/-- What is written for a selected field: what is written for it as a field of the schema, but with
a star where it is no list and a condition may leave it out. -/
def selectionText (ref : TypeRef) (conditional avoidOptionals : Bool) (base : String) : String :=
  if conditional = true ∧ .list ∉ ref.marks ∧ avoidOptionals = false then "*" ++ base
  else ref.outputText avoidOptionals base

end TypeRef

namespace GoType

theorem marks_eq (ref : TypeRef) (pointer : Bool) :
    marks ref.listDepth pointer = ref.slices ++ (if pointer then "*" else "") := by
  rw [marks, ref.listDepth_eq_count, TypeRef.slices]

theorem text_ofOutput (ref : TypeRef) (avoidOptionals : Bool) (base : String) :
    (ofOutput ref avoidOptionals base).text = ref.outputText avoidOptionals base := by
  unfold text ofOutput TypeRef.outputText
  dsimp only
  rw [marks_eq]
  congr 2
  exact if_congr (by simp [ref.isBaseNullable_iff_getLast?]) rfl rfl

theorem text_ofInput (ref : TypeRef) (hasDefault avoidOptionals : Bool) (base : String) :
    (ofInput ref hasDefault avoidOptionals base).text =
      ref.inputText hasDefault avoidOptionals base := by
  unfold ofInput TypeRef.inputText
  by_cases list : .list ∈ ref.marks
  · rw [if_pos list, if_pos (ref.isList_iff_mem_marks.2 list), text_ofOutput]
  · rw [if_neg list, if_neg (ref.isList_iff_mem_marks.not.2 list)]
    unfold text marks
    dsimp only
    rw [List.replicate_zero, String.join_nil, String.empty_append]
    congr 1
    refine if_congr ?_ rfl rfl
    rw [Ne, ← ref.isNonNull_iff_head?]
    simp [and_assoc]

theorem text_ofSelection (ref : TypeRef) (conditional avoidOptionals : Bool) (base : String) :
    (ofSelection ref conditional avoidOptionals base).text =
      ref.selectionText conditional avoidOptionals base := by
  unfold TypeRef.selectionText
  split
  · rename_i pointed
    obtain ⟨rfl, noList, rfl⟩ := pointed
    have single : ref.isList = false := by simpa using ref.isList_iff_mem_marks.not.2 noList
    simp [text, ofSelection, marks, single, ref.isList_eq_false_iff.1 single]
  · rename_i plain
    rw [← ref.isList_iff_mem_marks] at plain
    rw [← text_ofOutput, ofSelection, ofOutput]
    cases conditional <;> cases list : ref.isList <;> cases avoidOptionals <;> simp_all

end GoType

/-! ## Selected fields -/

namespace SelectionContext

variable {context : SelectionContext} {parent : String}

/-- The type in each line of a field without sub-selections is written for one that is selected
under the key. -/
def HasSelectedTypes (context : SelectionContext) (parent : String)
    (lists : List (List Selection)) (lines : List StructLine) : Prop :=
  ∀ line ∈ lines, ∀ type, line.leafType? = some type →
    ∃ onType list, context.FlattenedInto parent lists onType list ∧
      ∃ field ∈ context.definedFields onType list, line.fieldKey? = some field.key ∧
        type.text = field.type.selectionText field.call.isConditional
          context.options.avoidOptionals (context.resolver.resolve field.type.baseName)

theorem IsStruct.hasSelectedTypes {lists : List (List Selection)} {lines : List StructLine}
    (struct : context.IsStruct parent lists lines) :
    context.HasSelectedTypes parent lists lines := by
  intro line hm type ht
  have keyed : line.fieldKey?.isSome = true := by
    cases line <;> first | rfl | cases ht
  obtain ⟨list, hl, onType, inner, hf, made⟩ := struct.exists_fieldLine hm keyed
  obtain ⟨field, hd, hk, rfl⟩ := made.exists_leafField ht
  exact ⟨onType, inner, FlattenedInto.iff_exists.2 ⟨list, hl, hf⟩, field, hd, hk,
    GoType.text_ofSelection ..⟩

theorem structLines_leaf {call : FieldCall} {ref : TypeRef}
    (field : call.name ≠ Schema.typenameField)
    (defined : context.schema.fieldType? parent call.name = some ref) :
    let type := context.leafType { call, type := ref, selections := [] }
    (context.structLines parent [.field call []]).outcome =
      .ok ((context.typenameLine? parent false).toList ++
        [if call.responseName = call.name then .leaf call.responseName type
          else .aliased call.responseName call.name type]) := by
  intro type
  have collected : context.collect context.rendering parent [.field call []] =
      pure (Collected.addLeaf {} call type) := by
    rw [collect]
    simp only [List.foldlM_cons, List.foldlM_nil, bind_pure, collectOne, collectField, field,
      if_false, defined]
    rfl
  refine structLines_eq_ok.2 ⟨false, ?_⟩
  rw [rendering_eq, collected, pure_bind]
  by_cases own : call.responseName = call.name
  · have added : Collected.addLeaf {} call type =
        { leaves := OrderedMap.insertNew ∅ call.responseName type } := if_pos own
    rw [added, if_pos own]
    refine Generation.outcome_bind_eq_ok.2 ⟨_, Generation.outcome_bind_eq_ok.2 ⟨[], rfl, rfl⟩, ?_⟩
    show Except.ok (false, (context.typenameLine? parent false).toList ++
      [.leaf call.responseName type] ++ [] ++ [] ++ []) = _
    simp only [List.append_nil]
  · have added : Collected.addLeaf {} call type =
        { aliased := OrderedMap.insertNew ∅ call.responseName (call.name, type) } := if_neg own
    rw [added, if_neg own]
    refine Generation.outcome_bind_eq_ok.2 ⟨_, Generation.outcome_bind_eq_ok.2 ⟨[], rfl, rfl⟩, ?_⟩
    show Except.ok (false, (context.typenameLine? parent false).toList ++ [] ++
      [.aliased call.responseName call.name type] ++ [] ++ []) = _
    simp only [List.append_nil]

/-- A field without sub-selections that is selected alone gets the type of its selection. -/
theorem exists_leaf_line {call : FieldCall} {ref : TypeRef}
    (field : call.name ≠ Schema.typenameField)
    (defined : context.schema.fieldType? parent call.name = some ref) :
    ∃ type : GoType,
      type.text = ref.selectionText call.isConditional context.options.avoidOptionals
        (context.resolver.resolve ref.baseName) ∧
      (context.structLines parent [.field call []]).outcome =
        .ok ((context.typenameLine? parent false).toList ++
          [if call.responseName = call.name then .leaf call.responseName type
            else .aliased call.responseName call.name type]) :=
  ⟨_, GoType.text_ofSelection .., structLines_leaf field defined⟩

theorem everyStruct_hasSelectedTypes {selections : List Selection} {lines : List StructLine}
    (ok : (context.structLines parent selections).outcome = .ok lines) :
    context.EveryStruct context.HasSelectedTypes parent [selections] lines :=
  everyStruct_of_isStruct (fun struct => struct.hasSelectedTypes) ok

end SelectionContext

/-! ## All places of a type -/

namespace TypeResolver

open SelectionContext

/-- Fields of the schema, input and selected fields get the types that the marks of their references
ask for, in every struct. -/
theorem types_written_by_marks (resolver : TypeResolver) (avoidOptionals : Bool) :
    (∀ ref : TypeRef, (resolver.outputType ref avoidOptionals).text =
      ref.outputText avoidOptionals (resolver.resolve ref.baseName)) ∧
    (∀ generator : TypeGenerator, generator.resolver = resolver →
      generator.options.avoidOptionals = avoidOptionals → ∀ field : FieldDefinition,
        (generator.outputField field).type.text =
          field.type.outputText avoidOptionals (resolver.resolve field.type.baseName)) ∧
    (∀ slot : InputSlot, (slot.field resolver avoidOptionals).type.text =
      slot.type.inputText slot.hasDefault avoidOptionals (resolver.resolve slot.type.baseName)) ∧
    ∀ context : SelectionContext, context.resolver = resolver →
      context.options.avoidOptionals = avoidOptionals → ∀ parent : String,
        (∀ (call : FieldCall) (ref : TypeRef), call.name ≠ Schema.typenameField →
          context.schema.fieldType? parent call.name = some ref →
          ∃ type : GoType,
            type.text = ref.selectionText call.isConditional avoidOptionals
              (resolver.resolve ref.baseName) ∧
            (context.structLines parent [.field call []]).outcome =
              .ok ((context.typenameLine? parent false).toList ++
                [if call.responseName = call.name then .leaf call.responseName type
                  else .aliased call.responseName call.name type])) ∧
        ∀ (selections : List Selection) (lines : List StructLine),
          (context.structLines parent selections).outcome = .ok lines →
          context.EveryStruct context.HasSelectedTypes parent [selections] lines := by
  refine ⟨fun ref => GoType.text_ofOutput .., ?_, fun slot => GoType.text_ofInput .., ?_⟩
  · rintro generator rfl rfl field
    exact GoType.text_ofOutput ..
  · rintro context rfl rfl parent
    exact ⟨fun _ _ => exists_leaf_line, fun _ _ => everyStruct_hasSelectedTypes⟩

theorem owner_types_written_by_marks :
    let resolver := ownerContext.resolver
    let ids := TypeRef.nonNull (.list (.named "ID"))
    (resolver.outputType ids false).text = "[]*string" ∧
      (InputSlot.field resolver false
        { name := "first", type := .named "Int", hasDefault := true }).type.text = "int" ∧
      (∃ type : GoType, type.text = "*string" ∧
        (ownerContext.structLines "Owner"
          [.field { name := "id", directives := [includeShown] } []]).outcome =
            .ok [.leaf "id" type]) ∧
      ∃ lines, (ownerContext.structLines "Query" ownerSelections).outcome = .ok lines ∧
        ownerContext.EveryStruct ownerContext.HasSelectedTypes "Query" [ownerSelections] lines := by
  intro resolver ids
  obtain ⟨output, -, input, selected⟩ := types_written_by_marks resolver false
  have field : "id" ≠ Schema.typenameField := by decide
  have defined : ownerContext.schema.fieldType? "Owner" "id" = some (.nonNull (.named "ID")) := by
    decide +kernel
  obtain ⟨alone, -⟩ := selected ownerContext rfl rfl "Owner"
  obtain ⟨type, ht, hl⟩ := alone { name := "id", directives := [includeShown] } _ field defined
  obtain ⟨lines, ok⟩ := Generation.exists_eq_ok
    (x := ownerContext.structLines "Query" ownerSelections) (by decide +kernel)
  refine ⟨(output ids).trans (by decide +kernel), (input _).trans (by decide +kernel),
    ⟨type, ht.trans (by decide +kernel), hl.trans rfl⟩, lines, ok, ?_⟩
  exact (selected ownerContext rfl rfl "Query").2 _ _ ok

end TypeResolver

end SchemaBindings
