import SchemaBindings.Proofs.CodeWithoutComments
import SchemaBindings.Proofs.FirstOccurrences

/-!
# The table of scalars

Three sources write to the table: the built-in scalars, the schema, and the options. The first of
them that names a scalar decides its position (`ScalarTable.namesFor`), and the options, if they
name it, decide its type (`ScalarTable.typeFor`). The output for the types of a schema declares what
is in the table, in its order (`Plugin.scalars_declared_in_order`).
-/

namespace SchemaBindings

open Text

/-! ## Writing many associations -/

namespace OrderedMap

variable {α β γ : Type}

theorem entries_eq_map_keys [DecidableEq α] {map : OrderedMap α β} {value : α → β}
    (h : ∀ key ∈ map.keys, map.find? key = some (value key)) :
    map.entries = map.keys.map fun key => (key, value key) := by
  unfold keys
  rw [List.map_map]
  refine (List.map_id _).symm.trans (List.map_congr_left fun (key, found) mem => ?_)
  have hf := (map.mem_entries_iff key found).1 mem
  rw [h key (List.mem_map_of_mem mem), Option.some.injEq] at hf
  rw [← hf]
  rfl

theorem keys_foldl_upsert [DecidableEq α] (key : γ → α) (f : γ → Option β → β) (items : List γ)
    (map : OrderedMap α β) :
    (items.foldl (fun map item => map.upsert (key item) (f item)) map).keys =
      (items.map key).foldl (addNew id) map.keys := by
  induction items generalizing map with
  | nil => rfl
  | cons item rest ih =>
    rw [List.foldl_cons, ih, keys_upsert, List.map_cons, List.foldl_cons, addNew, List.map_id]
    rfl

end OrderedMap

namespace ScalarTable

/-! ## Names and types -/

/-- The names in the table: the built-in scalars, then the others that the schema defines, in the
order of their first definitions, then the others that the options name. -/
def namesFor (schema? : Option Schema) (overrides : OrderedMap String String) : List String :=
  let custom := customNames schema?
  builtin.keys ++ (firsts id custom).filter (fun name => decide (name ∉ builtin.keys)) ++
    overrides.keys.filter fun name => decide (name ∉ builtin.keys ∧ name ∉ custom)

/-- The type of a scalar: what the options say, or else the built-in type, or else one that stands
for every type. -/
def typeFor (overrides : OrderedMap String String) (name : String) : String :=
  match overrides.find? name, builtin.find? name with
  | some type, _ => type
  | none, some type => type
  | none, none => unknownType

theorem keys_addCustom (table : ScalarTable) (names : List String) :
    (table.addCustom names).keys =
      table.keys ++ (firsts id names).filter (fun name => decide (name ∉ table.keys)) := by
  unfold addCustom
  refine (OrderedMap.keys_foldl_upsert id (fun _ value? => value?.getD unknownType) ..).trans ?_
  rw [foldl_addNew_eq_append, List.map_id, List.map_id]
  rfl

theorem keys_override (table : ScalarTable) (overrides : OrderedMap String String) :
    (table.override overrides).keys =
      table.keys ++ overrides.keys.filter (fun name => decide (name ∉ table.keys)) := by
  unfold override
  refine (OrderedMap.keys_foldl_upsert Prod.fst (fun entry _ => entry.2) ..).trans ?_
  have nodup : (overrides.keys.map id).Nodup := by
    rw [List.map_id]
    exact overrides.nodup_keys
  rw [foldl_addNew_eq_append, List.map_id]
  show _ ++ (firsts id overrides.keys).filter _ = _
  rw [firsts_eq_self nodup]
  rfl

theorem keys_build (schema? : Option Schema) (overrides : OrderedMap String String) :
    (build schema? overrides).keys = namesFor schema? overrides := by
  have later : ∀ name, name ∉ (builtin.addCustom (customNames schema?)).keys ↔
      name ∉ builtin.keys ∧ name ∉ customNames schema? := by
    intro name
    rw [keys_addCustom, List.mem_append, not_or, List.mem_filter, decide_eq_true_eq]
    refine and_congr_right fun new => ?_
    have first : name ∈ firsts id (customNames schema?) ↔ name ∈ customNames schema? := by
      refine ⟨fun mem => firsts_subset _ mem, fun mem => ?_⟩
      have covered : ∃ other ∈ firsts id (customNames schema?), id other = id name :=
        exists_mem_firsts mem
      obtain ⟨other, ho, rfl⟩ := covered
      exact ho
    rw [first]
    exact not_congr (and_iff_left new)
  rw [build_eq, keys_override]
  simp only [later]
  rw [keys_addCustom]
  rfl

theorem find?_build {schema? : Option Schema} {overrides : OrderedMap String String}
    {name : String} (present : name ∈ (build schema? overrides).keys) :
    (build schema? overrides).find? name = some (typeFor overrides name) := by
  rw [← OrderedMap.contains_iff_mem_keys, OrderedMap.contains] at present
  revert present
  rw [build_eq, find?_override, find?_addCustom, typeFor]
  cases overrides.find? name with
  | some type => exact fun _ => rfl
  | none =>
    cases builtin.find? name with
    | some type => exact fun _ => rfl
    | none =>
      by_cases custom : name ∈ customNames schema?
      · rw [if_pos custom]
        exact fun _ => rfl
      · rw [if_neg custom]
        exact fun h => by cases h

theorem entries_build (schema? : Option Schema) (overrides : OrderedMap String String) :
    (build schema? overrides).entries =
      (namesFor schema? overrides).map fun name => (name, typeFor overrides name) := by
  rw [← keys_build]
  exact OrderedMap.entries_eq_map_keys fun _ => find?_build

end ScalarTable

/-! ## Declarations -/

namespace Text

/-- Of lines one below the other those that are no comments are found again. -/
theorem codeLines_intercalate {lines : List String} (ne : lines ≠ [])
    (unbroken : ∀ line ∈ lines, '\n' ∉ line.toList)
    (code : ∀ line ∈ lines, isCommentLine line.toList = false) :
    codeLines ("\n".intercalate lines) = lines.map (·.toList) := by
  unfold codeLines
  rw [splitChars_intercalate_of_not_mem rfl ne unbroken]
  refine List.filter_eq_self.2 fun characters mem => ?_
  obtain ⟨line, hl, rfl⟩ := List.mem_map.1 mem
  rw [code line hl]
  rfl

end Text

namespace ScalarTable

/-- The declaration of a scalar in a line. -/
def declaration (overrides : OrderedMap String String) (name : String) : String :=
  "type " ++ name ++ " " ++ typeFor overrides name

theorem isCommentLine_declaration (overrides : OrderedMap String String) (name : String) :
    isCommentLine (declaration overrides name).toList = false := by
  have start : (declaration overrides name).toList =
      't' :: ("ype ".toList ++ name.toList ++ " ".toList ++ (typeFor overrides name).toList) := by
    simp [declaration]
  rw [start]
  rfl

end ScalarTable

open ScalarTable

theorem TypeGenerator.sameCode_scalarsText_declarations (schema : Schema) (options : Options) :
    SameCode ((ofSchema schema options).scalarsText schema)
      ("\n".intercalate
        ((namesFor (some schema) options.scalars).map (declaration options.scalars))) := by
  have table : (ofSchema schema options).scalars.entries =
      (namesFor (some schema) options.scalars).map
        fun name => (name, typeFor options.scalars name) := entries_build ..
  unfold scalarsText
  rw [table, List.map_map]
  refine .intercalate_map fun name => ?_
  show SameCode (scalarText schema name (typeFor options.scalars name)) _
  have comment := (SameCode.commentText (schema.description? name) 0).append
    (declaration options.scalars name)
  rw [String.empty_append] at comment
  unfold scalarText
  unfold declaration at comment ⊢
  simpa only [String.append_assoc] using comment

/-- The output for types begins with one declaration for each scalar of the table, in the order of
its sources, and with nothing else but comments. -/
theorem Plugin.scalars_declared_in_order :
    (∀ (schema? : Option Schema) (overrides : OrderedMap String String),
      (namesFor schema? overrides).Nodup ∧
        (ScalarTable.build schema? overrides).entries =
          (namesFor schema? overrides).map fun name => (name, typeFor overrides name)) ∧
    ∀ (schema : Schema) (options : Options) (info : PluginInfo),
      let generator := TypeGenerator.ofSchema schema options
      let declarations :=
        (namesFor (some schema) options.scalars).map (declaration options.scalars)
      (runTypes schema options info).content =
          "\n".intercalate ((generator.scalarsText schema ++ "\n") :: generator.texts schema) ∧
        SameCode (generator.scalarsText schema) ("\n".intercalate declarations) ∧
        ((∀ line ∈ declarations, '\n' ∉ line.toList) →
          codeLines (generator.scalarsText schema) = declarations.map (·.toList)) := by
  refine ⟨fun schema? overrides => ⟨?_, entries_build schema? overrides⟩, ?_⟩
  · rw [← keys_build]
    exact OrderedMap.nodup_keys _
  · intro schema options info generator declarations
    have same := TypeGenerator.sameCode_scalarsText_declarations schema options
    refine ⟨rfl, same, fun unbroken => ?_⟩
    have ne : declarations ≠ [] := List.cons_ne_nil _ _
    have lines := same ""
    rw [String.append_empty, String.append_empty] at lines
    refine lines.trans (codeLines_intercalate ne unbroken fun line mem => ?_)
    obtain ⟨name, -, rfl⟩ := List.mem_map.1 mem
    exact isCommentLine_declaration options.scalars name

/-- A schema with two scalars, of which one is defined twice, and a built-in one. -/
def dateSchema : Schema := .ofDefinitions [
  .type { name := "Date", description? := some "A day.", body := .scalar },
  .type { name := "ID", body := .scalar },
  .type { name := "Url", body := .scalar },
  .type { name := "Date", body := .scalar }]

/-- Options with types for a scalar of no schema, a built-in one and a scalar of the schema. -/
def dateOptions : Options where
  scalars := .ofList [("Money", "int64"), ("ID", "uuid.UUID"), ("Date", "time.Time")]

theorem Plugin.date_scalars_declared :
    let header := (TypeGenerator.ofSchema dateSchema dateOptions).scalarsText dateSchema
    let declarations := ["type ID uuid.UUID", "type String string", "type Boolean bool",
      "type Int int", "type Float float64", "type Date time.Time", "type Url any",
      "type Money int64"]
    (∀ line ∈ declarations, '\n' ∉ line.toList) ∧
      codeLines header = declarations.map (·.toList) := by
  intro header declarations
  have declared : (namesFor (some dateSchema) dateOptions.scalars).map
      (declaration dateOptions.scalars) = declarations := by decide +kernel
  have unbroken : ∀ line ∈ declarations, '\n' ∉ line.toList := by decide
  have lines := (scalars_declared_in_order.2 dateSchema dateOptions {}).2.2
  rw [declared] at lines
  exact ⟨unbroken, lines unbroken⟩

end SchemaBindings
