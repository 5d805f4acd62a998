import Mathlib.Data.List.Lattice
import Mathlib.Data.List.Nodup
import Mathlib.Data.List.Pairwise
import SchemaBindings.Proofs.OperationFailures

/-!
# Names of operation types

The types that the code for operations declares: that of each fragment, and those of the variables
and of the result of each operation with a name (`OperationGenerator.typeNames`). Where names are
kept, each of these is the name of a definition behind the prefix and before one of seven endings,
none of which ends in another one, so that the ending and what stands before it can be read off it
(`TypeEnding.append_text_inj`). Under distinct names, two definitions then have types of one name
only where doubled endings are avoided and an operation is called like another one with the ending
of their kind (`Plugin.runOperations_typeNames_nodup_iff`).
-/

namespace SchemaBindings

/-! ## Endings -/

/-- What is put behind the name of a definition in the names of its types. -/
inductive TypeEnding
  | fragment
  | result (kind : OperationKind)
  | input (kind : OperationKind)

namespace TypeEnding

/-- The ending as it is written. -/
def text : TypeEnding → String
  | fragment => "Fragment"
  | result kind => kind.typeSuffix
  | input kind => kind.typeSuffix ++ "Variables"

/-- No ending ends in another one. -/
theorem eq_of_isSuffix {first second : TypeEnding}
    (h : first.text.toList <:+ second.text.toList) : first = second := by
  revert h
  rcases first with _ | (_ | _ | _) | (_ | _ | _) <;>
    rcases second with _ | (_ | _ | _) | (_ | _ | _) <;>
    first
      | exact fun _ => rfl
      | exact fun h => absurd h (by decide)

/-- The ending of a text and what stands before it can be read off the text. -/
theorem append_text_inj {front front' : String} {first second : TypeEnding}
    (same : front ++ first.text = front' ++ second.text) : front = front' ∧ first = second := by
  have one : first.text.toList <:+ (front ++ first.text).toList :=
    ⟨front.toList, String.toList_append.symm⟩
  have other : second.text.toList <:+ (front ++ first.text).toList :=
    same ▸ ⟨front'.toList, String.toList_append.symm⟩
  have endings : first = second := by
    rcases List.suffix_or_suffix_of_suffix one other with h | h
    · exact eq_of_isSuffix h
    · exact (eq_of_isSuffix h).symm
  subst endings
  exact ⟨(String.append_left_inj _).1 same, rfl⟩

end TypeEnding

/-! ## Names -/

theorem OperationKind.typeSuffix_ne_empty (kind : OperationKind) : kind.typeSuffix ≠ "" := by
  cases kind <;> decide

namespace Operation

/-- The operation is of the kind of another one and called like it with the ending of the kind,
which the name of the other one does not have. -/
def IsNamedAfter (operation other : Operation) : Prop :=
  operation.kind = other.kind ∧ ∃ name, other.name? = some name ∧
    operation.name? = some (name ++ other.kind.typeSuffix) ∧
    ¬other.kind.typeSuffix.toList <:+ name.toList

instance (operation other : Operation) : Decidable (operation.IsNamedAfter other) :=
  match named : other.name? with
  | none => .isFalse fun ⟨_, name, found, _⟩ => Option.some_ne_none name (found.symm.trans named)
  | some name =>
    decidable_of_iff (operation.kind = other.kind ∧
        operation.name? = some (name ++ other.kind.typeSuffix) ∧
        ¬other.kind.typeSuffix.toList <:+ name.toList) (by simp [IsNamedAfter, named])

theorem isNamedAfter_iff {operation other : Operation} {name first : String}
    (named : operation.name? = some name) (other_named : other.name? = some first) :
    operation.IsNamedAfter other ↔ operation.kind = other.kind ∧
      name = first ++ other.kind.typeSuffix ∧ ¬other.kind.typeSuffix.toList <:+ first.toList := by
  simp [IsNamedAfter, named, other_named]

theorem irrefl_isNamedAfter (operation : Operation) : ¬operation.IsNamedAfter operation := by
  rintro ⟨-, name, named, longer, -⟩
  have same : name ++ operation.kind.typeSuffix = name ++ "" := by
    rw [String.append_empty]
    exact Option.some.inj (longer.symm.trans named)
  exact operation.kind.typeSuffix_ne_empty ((String.append_right_inj name).1 same)

end Operation

/-- The operations that a document defines, in order. -/
def Document.operations (document : Document) : List Operation :=
  document.filterMap fun
    | .operation operation => some operation
    | .fragment _ => none

theorem Document.mem_operations {document : Document} {operation : Operation} :
    operation ∈ document.operations ↔ .operation operation ∈ document := by
  unfold operations
  rw [List.mem_filterMap]
  constructor
  · rintro ⟨definition, mem, same⟩
    cases definition with
    | operation own => exact Option.some.inj same ▸ mem
    | fragment own => cases same
  · exact fun mem => ⟨_, mem, rfl⟩

/-- No two operations and no two fragments of the document have one name. -/
structure Document.HasDistinctNames (document : Document) : Prop where
  operations : (document.operations.filterMap (·.name?)).Nodup
  fragments : (document.fragments.map (·.name)).Nodup

instance (document : Document) : Decidable document.HasDistinctNames :=
  decidable_of_iff
    ((document.operations.filterMap (·.name?)).Nodup ∧ (document.fragments.map (·.name)).Nodup)
    ⟨fun ⟨operations, fragments⟩ => { operations, fragments },
      fun h => ⟨h.operations, h.fragments⟩⟩

namespace Definition

/-- The definitions are fragments of one name or operations of one name. -/
def SharesName : Definition → Definition → Prop
  | .fragment first, .fragment second => first.name = second.name
  | .operation first, .operation second =>
    ∃ name, first.name? = some name ∧ second.name? = some name
  | _, _ => False

/-- The definitions are operations of which one is named after the other. -/
def NamesClash : Definition → Definition → Prop
  | .operation first, .operation second =>
    second.IsNamedAfter first ∨ first.IsNamedAfter second
  | _, _ => False

theorem NamesClash.symm {first second : Definition} (clash : first.NamesClash second) :
    second.NamesClash first := by
  cases first <;> cases second
  · exact clash.elim .inr .inl
  · exact clash
  · exact clash
  · exact clash

theorem not_namesClash_self (definition : Definition) : ¬definition.NamesClash definition := by
  cases definition with
  | operation operation => exact fun clash => operation.irrefl_isNamedAfter (or_self_iff.1 clash)
  | fragment fragment => exact id

end Definition

theorem Document.HasDistinctNames.pairwise {document : Document}
    (names : document.HasDistinctNames) :
    document.Pairwise fun first second => ¬first.SharesName second := by
  obtain ⟨operations, fragments⟩ := names
  unfold Document.operations at operations
  unfold Document.fragments at fragments
  rw [List.filterMap_filterMap, List.Nodup, List.pairwise_filterMap] at operations
  rw [List.map_filterMap, List.Nodup, List.pairwise_filterMap] at fragments
  refine (operations.and fragments).imp fun {first second} ⟨apart, apart'⟩ shared => ?_
  cases first <;> cases second
  · obtain ⟨name, one, other⟩ := shared
    exact apart name one name other rfl
  · exact shared
  · exact shared
  · exact apart' _ rfl _ rfl shared

namespace OperationGenerator

variable {generator : OperationGenerator}

/-- The names of the types that are declared for a definition. -/
def typeNames (generator : OperationGenerator) : Definition → List String
  | .fragment fragment => [generator.fragmentTypeName fragment.name]
  | .operation operation =>
    match operation.name? with
    | some name =>
      [generator.variablesTypeName name operation.kind,
        generator.resultTypeName name operation.kind]
    | none => []

theorem variablesTypeName_eq (name : String) (kind : OperationKind) :
    generator.variablesTypeName name kind = generator.resultTypeName name kind ++ "Variables" :=
  (String.append_assoc ..).symm

theorem suffix_eq (name : String) (kind : OperationKind) :
    generator.suffix name kind =
      if generator.options.dedupeOperationSuffix = true ∧
        kind.typeSuffix.toList <:+ name.toList then "" else kind.typeSuffix := by
  simp only [suffix, operationSuffix, Bool.and_eq_true, List.isSuffixOf_iff_suffix]

theorem nodup_typeNames (generator : OperationGenerator) (definition : Definition) :
    (generator.typeNames definition).Nodup := by
  cases definition with
  | fragment fragment => exact List.nodup_singleton _
  | operation operation =>
    rw [typeNames]
    cases operation.name? with
    | none => exact List.nodup_nil
    | some name =>
      refine List.nodup_cons.2 ⟨fun mem => ?_, List.nodup_singleton _⟩
      rw [List.mem_singleton, variablesTypeName_eq, String.append_eq_left_iff] at mem
      exact absurd mem (by decide)

section Kept

variable (keep : generator.options.namingConvention = .keep)
include keep

theorem convertWith_of_keep (options : NameOptions) (prefixed : options.usesTypesPrefix = true)
    (name : String) : generator.options.names.convertWith options name =
      generator.options.typesPrefix ++ name ++ options.suffix := by
  have convention : generator.options.names.convention = .keep := keep
  unfold NameStyle.convertWith NameStyle.core
  rw [prefixed, if_pos rfl, convention]
  rfl

theorem fragmentTypeName_of_keep (name : String) :
    generator.fragmentTypeName name =
      generator.options.typesPrefix ++ name ++ TypeEnding.fragment.text := by
  unfold fragmentTypeName SchemaBindings.fragmentTypeName
  rw [convertWith_of_keep keep _ rfl]
  cases generator.options.qualifier? <;> rfl

theorem resultTypeName_of_keep (name : String) (kind : OperationKind) :
    generator.resultTypeName name kind =
      generator.options.typesPrefix ++ (name ++ generator.suffix name kind) := by
  unfold resultTypeName
  rw [convertWith_of_keep keep _ rfl, String.append_assoc]

/-- Also where no ending is added, the name of an operation has it. -/
theorem exists_resultTypeName_eq (name : String) (kind : OperationKind) :
    ∃ front, generator.resultTypeName name kind = front ++ (TypeEnding.result kind).text := by
  rw [resultTypeName_of_keep keep, suffix_eq]
  split
  · rename_i deduped
    obtain ⟨front, split⟩ := deduped.2
    refine ⟨generator.options.typesPrefix ++ .ofList front, ?_⟩
    rw [String.append_empty, String.append_assoc]
    congr 1
    apply String.toList_inj.1
    rw [String.toList_append, String.toList_ofList]
    exact split.symm
  · exact ⟨_, (String.append_assoc ..).symm⟩

/-- Operations of one kind share their result type if their names are the same, or endings are not
doubled and one name is the other with the ending. -/
theorem resultTypeName_eq_iff {first second : String} {kind : OperationKind} :
    generator.resultTypeName first kind = generator.resultTypeName second kind ↔
      first = second ∨ generator.options.dedupeOperationSuffix = true ∧
        (second = first ++ kind.typeSuffix ∧ ¬kind.typeSuffix.toList <:+ first.toList ∨
          first = second ++ kind.typeSuffix ∧ ¬kind.typeSuffix.toList <:+ second.toList) := by
  have ends : ∀ name : String, kind.typeSuffix.toList <:+ (name ++ kind.typeSuffix).toList :=
    fun name => ⟨name.toList, String.toList_append.symm⟩
  rw [resultTypeName_of_keep keep, resultTypeName_of_keep keep, String.append_right_inj, suffix_eq,
    suffix_eq]
  by_cases dedupe : generator.options.dedupeOperationSuffix = true
  · by_cases one : kind.typeSuffix.toList <:+ first.toList <;>
      by_cases other : kind.typeSuffix.toList <:+ second.toList
    · simp [dedupe, one, other]
    · have apart : first ≠ second := fun same => other (same ▸ one)
      simp [dedupe, one, other, apart]
    · have apart : first ≠ second := fun same => one (same ▸ other)
      simp [dedupe, one, other, apart, eq_comm]
    · have after : second ≠ first ++ kind.typeSuffix := fun same => other (same ▸ ends first)
      have before : first ≠ second ++ kind.typeSuffix := fun same => one (same ▸ ends second)
      simp [dedupe, one, other, after, before]
  · simp [dedupe]

theorem disjoint_operationTypeNames_iff {first second : String} {kind other : OperationKind} :
    List.Disjoint
        [generator.variablesTypeName first kind, generator.resultTypeName first kind]
        [generator.variablesTypeName second other, generator.resultTypeName second other] ↔
      ¬(kind = other ∧
        generator.resultTypeName first kind = generator.resultTypeName second kind) := by
  obtain ⟨front, one⟩ := exists_resultTypeName_eq keep first kind
  obtain ⟨back, two⟩ := exists_resultTypeName_eq keep second other
  have input : ∀ (front : String) (kind : OperationKind),
      front ++ (TypeEnding.result kind).text ++ "Variables" =
        front ++ (TypeEnding.input kind).text := fun _ _ => String.append_assoc ..
  rw [variablesTypeName_eq, variablesTypeName_eq, one, two, input, input, List.disjoint_left]
  constructor
  · rintro disjoint ⟨rfl, same⟩
    rw [two] at same
    refine disjoint (List.mem_cons_of_mem _ List.mem_cons_self) ?_
    rw [same]
    exact List.mem_cons_of_mem _ List.mem_cons_self
  · intro apart name mem mem'
    simp only [List.mem_cons, List.not_mem_nil, or_false] at mem mem'
    rcases mem with rfl | rfl <;> rcases mem' with same | same <;>
      obtain ⟨rfl, ending⟩ := TypeEnding.append_text_inj same <;> cases ending
    · exact apart ⟨rfl, two.symm⟩
    · exact apart ⟨rfl, two.symm⟩

theorem fragmentTypeName_not_mem_typeNames (name : String) (operation : Operation) :
    generator.fragmentTypeName name ∉ generator.typeNames (.operation operation) := by
  rw [fragmentTypeName_of_keep keep, typeNames]
  cases operation.name? with
  | none => exact List.not_mem_nil
  | some own =>
    obtain ⟨front, result⟩ := exists_resultTypeName_eq keep own operation.kind
    have input : generator.variablesTypeName own operation.kind =
        front ++ (TypeEnding.input operation.kind).text := by
      rw [variablesTypeName_eq, result]
      exact String.append_assoc ..
    dsimp only
    rw [input, result, List.mem_cons, List.mem_singleton]
    rintro (same | same) <;> cases (TypeEnding.append_text_inj same).2

theorem disjoint_typeNames_iff {first second : Definition} (apart : ¬first.SharesName second) :
    (generator.typeNames first).Disjoint (generator.typeNames second) ↔
      ¬(generator.options.dedupeOperationSuffix = true ∧ first.NamesClash second) := by
  have foreign : ∀ (fragment : Fragment) (operation : Operation),
      (generator.typeNames (.fragment fragment)).Disjoint
        (generator.typeNames (.operation operation)) := fun fragment operation =>
    List.singleton_disjoint.2 (fragmentTypeName_not_mem_typeNames keep fragment.name operation)
  cases first with
  | fragment first =>
    refine iff_of_true ?_ fun clash => clash.2
    cases second with
    | fragment second =>
      refine List.singleton_disjoint.2 fun mem => apart ?_
      have same := List.mem_singleton.1 mem
      rw [fragmentTypeName_of_keep keep, fragmentTypeName_of_keep keep] at same
      exact (String.append_right_inj _).1 (TypeEnding.append_text_inj same).1
    | operation second => exact foreign first second
  | operation first =>
    cases second with
    | fragment second =>
      exact iff_of_true (List.Disjoint.symm (foreign second first)) fun clash => clash.2
    | operation second =>
      cases one : first.name? with
      | none => simp [typeNames, one, Definition.NamesClash, Operation.IsNamedAfter]
      | some name =>
        cases other : second.name? with
        | none => simp [typeNames, other, Definition.NamesClash, Operation.IsNamedAfter]
        | some longer =>
          have different : name ≠ longer := fun same => apart ⟨name, one, same ▸ other⟩
          rw [typeNames, typeNames, one, other]
          dsimp only
          rw [disjoint_operationTypeNames_iff keep, resultTypeName_eq_iff keep,
            Definition.NamesClash, Operation.isNamedAfter_iff other one,
            Operation.isNamedAfter_iff one other]
          by_cases kinds : first.kind = second.kind
          · simp [kinds, different]
          · simp [kinds, Ne.symm kinds]

theorem nodup_typeNames_iff {document : Document} (names : document.HasDistinctNames) :
    (document.flatMap generator.typeNames).Nodup ↔
      (generator.options.dedupeOperationSuffix = true →
        ∀ first ∈ document.operations, ∀ second ∈ document.operations,
          ¬second.IsNamedAfter first) := by
  have own : ∀ definition ∈ document, (generator.typeNames definition).Nodup :=
    fun definition _ => generator.nodup_typeNames definition
  rw [List.nodup_flatMap, and_iff_right own]
  have clashes : document.Pairwise (Function.onFun List.Disjoint generator.typeNames) ↔
      document.Pairwise fun first second =>
        ¬(generator.options.dedupeOperationSuffix = true ∧ first.NamesClash second) :=
    ⟨fun h => (names.pairwise.and h).imp fun ⟨apart, disjoint⟩ =>
        (disjoint_typeNames_iff keep apart).1 disjoint,
      fun h => (names.pairwise.and h).imp fun ⟨apart, clash⟩ =>
        (disjoint_typeNames_iff keep apart).2 clash⟩
  rw [clashes]
  constructor
  · intro pairs dedupe first first_mem second second_mem after
    have symmetric : Std.Symm fun first second : Definition =>
        ¬(generator.options.dedupeOperationSuffix = true ∧ first.NamesClash second) :=
      ⟨fun _ _ apart clash => apart ⟨clash.1, clash.2.symm⟩⟩
    have every := pairs.forall_of_forall
      fun definition _ clash => definition.not_namesClash_self clash.2
    exact every (Document.mem_operations.1 first_mem) (Document.mem_operations.1 second_mem)
      ⟨dedupe, .inl after⟩
  · intro none
    refine List.pairwise_of_forall_mem_list fun first first_mem second second_mem clash => ?_
    obtain ⟨dedupe, clash⟩ := clash
    cases first with
    | fragment first => exact clash
    | operation first =>
      cases second with
      | fragment second => exact clash
      | operation second =>
        have first_mem := Document.mem_operations.2 first_mem
        have second_mem := Document.mem_operations.2 second_mem
        rcases clash with after | after
        · exact none dedupe first first_mem second second_mem after
        · exact none dedupe second second_mem first first_mem after

end Kept

/-! ## Declarations -/

theorem exists_declarations {definition : Definition} {text : String}
    (ok : (generator.definitionText? definition).outcome = .ok (some text)) :
    ∃ declarations : List Declaration, declarations ≠ [] ∧
      declarations.map (·.name) = generator.typeNames definition ∧
      text = "\n".intercalate (declarations.map (·.text generator.style)) := by
  cases definition with
  | fragment fragment =>
    obtain ⟨made, hm, he⟩ := definitionText?_fragment_eq_ok.1 ok
    cases he
    obtain ⟨content, -, rfl⟩ := fragmentText_eq_ok hm
    refine ⟨[generator.fragmentDeclaration fragment.name content], List.cons_ne_nil _ _, rfl, ?_⟩
    exact String.intercalate_singleton.symm
  | operation operation =>
    rcases definitionText?_operation_eq_ok.1 ok with ⟨-, nothing⟩ | ⟨name, made, named, hm, he⟩
    · cases nothing
    · cases he
      obtain ⟨root, content, -, -, rfl⟩ := namedOperationText_eq_ok hm
      refine ⟨[generator.variablesDeclaration operation name,
        generator.resultDeclaration operation name content], List.cons_ne_nil _ _, ?_, ?_⟩
      · rw [typeNames, named]
        rfl
      · rw [List.map_cons, List.map_singleton, String.intercalate_cons_cons,
          String.intercalate_singleton]

theorem flatMap_typeNames_named (generator : OperationGenerator) (document : Document) :
    (document.filter (·.isNamed)).flatMap generator.typeNames =
      document.flatMap generator.typeNames := by
  induction document with
  | nil => rfl
  | cons definition rest ih =>
    by_cases named : definition.isNamed = true
    · rw [List.filter_cons_of_pos named, List.flatMap_cons, List.flatMap_cons, ih]
    · have nothing : generator.typeNames definition = [] := by
        cases definition with
        | fragment fragment => exact absurd rfl named
        | operation operation =>
          rw [typeNames, Option.not_isSome_iff_eq_none.1 named]
      rw [List.filter_cons_of_neg named, List.flatMap_cons, nothing, ih, List.nil_append]

theorem exists_declarations_of_texts {definitions : List Definition} {texts : List String}
    (run : List.Forall₂ (fun definition text =>
      (generator.definitionText? definition).outcome = .ok (some text)) definitions texts) :
    ∃ declarations : List Declaration,
      declarations.map (·.name) = definitions.flatMap generator.typeNames ∧
      "\n".intercalate texts = "\n".intercalate (declarations.map (·.text generator.style)) ∧
      (texts = [] ↔ declarations = []) := by
  induction run with
  | nil => exact ⟨[], rfl, rfl, fun _ => rfl, fun _ => rfl⟩
  | @cons definition text rest texts ok run ih =>
    obtain ⟨declarations, nonempty, names, rfl⟩ := exists_declarations ok
    obtain ⟨others, other_names, joined, empty⟩ := ih
    refine ⟨declarations ++ others, ?_, ?_, by simp [nonempty]⟩
    · rw [List.map_append, List.flatMap_cons, names, other_names]
    · by_cases last : texts = []
      · rw [last, empty.1 last, List.append_nil, String.intercalate_singleton]
      · rw [String.intercalate_cons_of_ne_nil last, joined, List.map_append,
          String.intercalate_append_of_ne_nil]
        · simpa using nonempty
        · simpa using empty.not.1 last

end OperationGenerator

/-! ## Outputs -/

namespace Plugin

/-- Where names are kept and distinct, those of types are distinct exactly if endings are doubled or
no operation is named after another one. -/
theorem runOperations_typeNames_nodup_iff {schema : Schema} {files : List DocumentFile}
    {options : Options} {info : PluginInfo} (keep : options.namingConvention = .keep)
    (names : (DocumentFile.concat files).HasDistinctNames) {output : PluginOutput}
    (ok : (runOperations schema files options info).outcome = .ok output) :
    ∃ declarations : List Declaration,
      output.content = "\n".intercalate (declarations.map (·.text {})) ∧
      declarations.map (·.name) =
        (DocumentFile.concat files).flatMap
          (operationGenerator schema files options info).typeNames ∧
      ((declarations.map (·.name)).Nodup ↔
        (options.dedupeOperationSuffix = true →
          ∀ first ∈ (DocumentFile.concat files).operations,
            ∀ second ∈ (DocumentFile.concat files).operations, ¬second.IsNamedAfter first)) := by
  obtain ⟨made, content, run⟩ := exists_made_of_runOperations ok
  obtain ⟨declarations, named, joined, -⟩ :=
    OperationGenerator.exists_declarations_of_texts (OperationGenerator.forall₂_named run)
  rw [OperationGenerator.flatMap_typeNames_named] at named
  refine ⟨declarations, content.trans joined, named, ?_⟩
  rw [named]
  exact OperationGenerator.nodup_typeNames_iff keep names

/-- The document `query Pets { pets { ...Pets } } query CatsQuery { pets { kind } }
fragment Pets on Pet { kind }`. -/
def petsFiles : List DocumentFile := [{
  document := [
    .operation {
      kind := .query
      name? := some "Pets"
      selections := [.field { name := "pets" } [.spread "Pets" []]] },
    .operation {
      kind := .query
      name? := some "CatsQuery"
      selections := [.field { name := "pets" } [.field { name := "kind" } []]] },
    .fragment { name := "Pets", onType := "Pet", selections := [.field { name := "kind" } []] }] }]

/-- Options that keep names, give types a prefix and do not double endings. -/
def dedupingOptions (typesPrefix : String) : Options where
  dedupeOperationSuffix := true
  namingConvention := .keep
  typesPrefix := typesPrefix

theorem pets_typeNames_distinct :
    (dedupingOptions "Api").namingConvention = .keep ∧
    (DocumentFile.concat petsFiles).HasDistinctNames ∧
    ∃ output, (runOperations kindSchema petsFiles (dedupingOptions "Api") {}).outcome =
        .ok output ∧
      ∃ declarations : List Declaration,
        output.content = "\n".intercalate (declarations.map (·.text {})) ∧
        declarations.map (·.name) =
          ["ApiPetsQueryVariables", "ApiPetsQuery", "ApiCatsQueryVariables", "ApiCatsQuery",
            "ApiPetsFragment"] ∧
        (declarations.map (·.name)).Nodup := by
  have names : (DocumentFile.concat petsFiles).HasDistinctNames := by decide +kernel
  obtain ⟨output, ok⟩ := Generation.exists_eq_ok
    (x := runOperations kindSchema petsFiles (dedupingOptions "Api") {}) (by decide +kernel)
  obtain ⟨declarations, content, named, distinct⟩ :=
    runOperations_typeNames_nodup_iff rfl names ok
  exact ⟨rfl, names, output, ok, declarations, content, named.trans (by decide +kernel),
    distinct.2 fun _ => by decide +kernel⟩

/-- The document `query A { a } query AQuery { a }`. -/
def doubledFiles : List DocumentFile := [{
  document := ["A", "AQuery"].map fun name =>
    .operation { kind := .query, name? := some name, selections := [.field { name := "a" } []] } }]

/-- The types that are declared for either of the operations. -/
def doubledText : String :=
  "type AQueryVariables struct \x7b\x7d\n\ntype AQuery struct \x7b\n\tA *int `json:\"a\"`\n\x7d\n"

/-- Operations can have different names where their types have not. -/
theorem doubled_typeNames_repeated :
    (DocumentFile.concat doubledFiles).HasDistinctNames ∧
    ∃ output, (runOperations
          (.ofDefinitions [.type
            { name := "Query", body := .object [] [{ name := "a", type := .named "Int" }] }])
          doubledFiles (dedupingOptions "") {}).outcome = .ok output ∧
      output.content = doubledText ++ "\n" ++ doubledText := by
  refine ⟨by decide +kernel,
    { content := doubledText ++ "\n" ++ doubledText, header := ["package main"] }, ?_, rfl⟩
  decide +kernel

end Plugin

end SchemaBindings
