import SchemaBindings.Options

/-!
# Reading options

What a mapping says about each option (`Options.settings`), told without the order of its entries: a
key that names the option is there at most once and its value is read as the option has it, or no
key names it and it has its default (`Setting.GivenBy`). Options are read from a mapping exactly if
this holds of each of them and every key is a text (`Options.ofEntries?_eq_some_iff`).
-/

namespace SchemaBindings

/-! ## Options one by one -/

/-- One of the options: its key, how its value is read, what it is where no value is given, and
where it is found among the options. -/
structure Setting where
  {Value : Type}
  key : String
  read? : Data → Option Value
  default : Value
  get : Options → Value

namespace Setting

/-- An option that is on or off, and off by default. -/
def flag (key : String) (get : Options → Bool) : Setting where
  key := key
  read? := Data.bool?
  default := false
  get := get

/-- An option that is a text or none, and none by default. -/
def optionalText (key : String) (get : Options → Option String) : Setting where
  key := key
  read? := Data.optionalString?
  default := none
  get := get

/-- An option that is a mapping, and empty by default. -/
def mapping {α : Type} (key : String) (read? : Data → Option α)
    (get : Options → OrderedMap String α) : Setting where
  key := key
  read? := Data.mapping? read?
  default := ∅
  get := get

/-- What a mapping, told as a relation between keys and values, says about an option. Two keys name
the same option if they differ in tags alone; then nothing is said. -/
structure GivenBy (setting : Setting) (holds : DataKey → Data → Prop) (value : setting.Value) :
    Prop where
  read : ∀ key data, holds key data → key.text? = some setting.key →
    setting.read? data = some value
  once : ∀ key data other otherData, holds key data → holds other otherData →
    key.text? = some setting.key → other.text? = some setting.key → key = other
  default : (∀ key data, holds key data → key.text? ≠ some setting.key) → value = setting.default

end Setting

namespace Options

/-- All options. -/
def settings : List Setting := [
  .flag "addTypename" (·.addTypename),
  .flag "avoidOptionals" (·.avoidOptionals),
  .flag "constEnums" (·.constEnums),
  .flag "dedupeOperationSuffix" (·.dedupeOperationSuffix),
  .mapping "enumValues" enumMapping? (·.enumValues),
  .flag "enumsAsTypes" (·.enumsAsTypes),
  { key := "imports", read? := Data.strings?, default := [], get := (·.imports) },
  .optionalText "namespacedImportName" (·.namespacedImportName?),
  { key := "namingConvention", read? := namingConvention?, default := .pascalCase,
    get := (·.namingConvention) },
  .flag "nonOptionalTypename" (·.nonOptionalTypename),
  .optionalText "package" (·.package?),
  .mapping "scalars" Data.string? (·.scalars),
  { key := "typesPrefix", read? := Data.string?, default := "", get := (·.typesPrefix) }]

/-- What a mapping, told as a relation between keys and values, says about all options. Keys that
name no option may have any values, but must be texts as well. -/
structure GivenBy (holds : DataKey → Data → Prop) (options : Options) : Prop where
  texts : ∀ key data, holds key data → ∃ text, key.text? = some text
  settings : ∀ setting ∈ settings, setting.GivenBy holds (setting.get options)

end Options

/-! ## Fields of a mapping -/

theorem exists_mapM_eq_some_iff {α β : Type} {f : α → Option β} {items : List α} :
    (∃ made, items.mapM f = some made) ↔ ∀ a ∈ items, ∃ b, f a = some b := by
  induction items with
  | nil => simp
  | cons a rest ih =>
    rw [List.forall_mem_cons, ← ih, List.mapM_cons]
    simp only [Option.bind_eq_bind, Option.bind_eq_some_iff]
    constructor
    · rintro ⟨_, b, first, made, others, -⟩
      exact ⟨⟨b, first⟩, made, others⟩
    · rintro ⟨⟨b, first⟩, made, others⟩
      exact ⟨_, b, first, made, others, rfl⟩

theorem Setting.readField_eq_some_iff {entries : List (DataKey × Data)}
    (nodup : (entries.map Prod.fst).Nodup) (setting : Setting) (value : setting.Value) :
    Data.readField entries setting.key setting.read? setting.default = some value ↔
      setting.GivenBy (fun key data => (key, data) ∈ entries) value := by
  have mem_named : ∀ key data, (key, data) ∈ entries ∧ key.text? = some setting.key ↔
      (key, data) ∈ entries.filter (·.1.text? = some setting.key) := fun key data => by
    rw [List.mem_filter, decide_eq_true_eq]
  have distinct : ((entries.filter (·.1.text? = some setting.key)).map Prod.fst).Nodup :=
    nodup.sublist (List.filter_sublist.map _)
  unfold Data.readField
  generalize entries.filter (·.1.text? = some setting.key) = named at mem_named distinct
  match named with
  | [] =>
    have absent : ∀ key data, (key, data) ∈ entries → key.text? ≠ some setting.key :=
      fun key data mem text => absurd ((mem_named key data).1 ⟨mem, text⟩) List.not_mem_nil
    constructor
    · intro h
      cases h
      exact ⟨fun key data mem text => absurd text (absent key data mem),
        fun key data _ _ mem _ text => absurd text (absent key data mem), fun _ => rfl⟩
    · exact fun given => congrArg some (given.default absent).symm
  | [(key, data)] =>
    have only : ∀ other otherData, (other, otherData) ∈ entries → other.text? = some setting.key →
        other = key ∧ otherData = data := fun other otherData mem text => by
      simpa using (mem_named other otherData).1 ⟨mem, text⟩
    obtain ⟨mem, text⟩ := (mem_named key data).2 (List.mem_singleton_self _)
    constructor
    · intro read
      refine ⟨fun other otherData mem text => ?_, fun one _ other _ mem other_mem text other_text =>
        (only _ _ mem text).1.trans (only _ _ other_mem other_text).1.symm,
        fun absent => absurd text (absent key data mem)⟩
      rw [(only other otherData mem text).2]
      exact read
    · exact fun given => given.read key data mem text
  | (key, data) :: (other, otherData) :: rest =>
    obtain ⟨mem, text⟩ := (mem_named key data).2 (by simp)
    obtain ⟨other_mem, other_text⟩ := (mem_named other otherData).2 (by simp)
    have apart : key ≠ other := by
      rintro rfl
      simp at distinct
    constructor
    · intro h
      cases h
    · exact fun given => absurd (given.once _ _ _ _ mem other_mem text other_text) apart

namespace Options

/-- Options are read one by one, once all keys have been found to be texts. -/
theorem ofEntries?_eq_some_iff_fields {entries : List (DataKey × Data)} {options : Options} :
    ofEntries? entries = some options ↔
      (∃ texts, entries.mapM (fun entry => entry.1.text?) = some texts) ∧
        ∀ setting ∈ settings, Data.readField entries setting.key setting.read? setting.default =
          some (setting.get options) := by
  constructor
  · intro read
    unfold ofEntries? at read
    obtain ⟨texts, all, read⟩ := Option.bind_eq_some_iff.1 read
    -- One step for each option, in the order in which they are read.
    obtain ⟨_, h₁, read⟩ := Option.bind_eq_some_iff.1 read
    obtain ⟨_, h₂, read⟩ := Option.bind_eq_some_iff.1 read
    obtain ⟨_, h₃, read⟩ := Option.bind_eq_some_iff.1 read
    obtain ⟨_, h₄, read⟩ := Option.bind_eq_some_iff.1 read
    obtain ⟨_, h₅, read⟩ := Option.bind_eq_some_iff.1 read
    obtain ⟨_, h₆, read⟩ := Option.bind_eq_some_iff.1 read
    obtain ⟨_, h₇, read⟩ := Option.bind_eq_some_iff.1 read
    obtain ⟨_, h₈, read⟩ := Option.bind_eq_some_iff.1 read
    obtain ⟨_, h₉, read⟩ := Option.bind_eq_some_iff.1 read
    obtain ⟨_, h₁₀, read⟩ := Option.bind_eq_some_iff.1 read
    obtain ⟨_, h₁₁, read⟩ := Option.bind_eq_some_iff.1 read
    obtain ⟨_, h₁₂, read⟩ := Option.bind_eq_some_iff.1 read
    obtain ⟨_, h₁₃, read⟩ := Option.bind_eq_some_iff.1 read
    cases read
    refine ⟨⟨texts, all⟩, ?_⟩
    simp only [settings, List.forall_mem_cons]
    exact ⟨h₁, h₂, h₃, h₄, h₅, h₆, h₇, h₈, h₉, h₁₀, h₁₁, h₁₂, h₁₃,
      fun setting mem => absurd mem List.not_mem_nil⟩
  · rintro ⟨⟨texts, all⟩, fields⟩
    simp only [settings, List.forall_mem_cons, Setting.flag, Setting.mapping, Setting.optionalText]
      at fields
    obtain ⟨h₁, h₂, h₃, h₄, h₅, h₆, h₇, h₈, h₉, h₁₀, h₁₁, h₁₂, h₁₃, -⟩ := fields
    simp only [ofEntries?, Option.bind_eq_bind, Option.bind_some, Option.pure_def, all, h₁, h₂, h₃,
      h₄, h₅, h₆, h₇, h₈, h₉, h₁₀, h₁₁, h₁₂, h₁₃]

theorem ofEntries?_eq_some_iff {entries : List (DataKey × Data)}
    (nodup : (entries.map Prod.fst).Nodup) {options : Options} :
    ofEntries? entries = some options ↔
      GivenBy (fun key data => (key, data) ∈ entries) options := by
  rw [ofEntries?_eq_some_iff_fields, exists_mapM_eq_some_iff]
  constructor
  · rintro ⟨texts, fields⟩
    exact ⟨fun key data mem => texts (key, data) mem,
      fun setting mem => (setting.readField_eq_some_iff nodup _).1 (fields setting mem)⟩
  · rintro ⟨texts, given⟩
    exact ⟨fun entry mem => texts entry.1 entry.2 mem,
      fun setting mem => (setting.readField_eq_some_iff nodup _).2 (given setting mem)⟩

end Options

end SchemaBindings
