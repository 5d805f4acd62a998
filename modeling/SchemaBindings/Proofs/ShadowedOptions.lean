import SchemaBindings.Proofs.ConfigMappings
import SchemaBindings.Proofs.OptionReading

/-!
# Shadowed options

The options for a file come from its own entries, and from those shared entries whose keys it does
not set (`InForce`): the options are what these entries say, or there are none
(`ProjectConfig.optionsFor_eq_ok_iff`). So what is shared under a key that a file sets has no
influence, neither on the options nor on whether there are any
(`ProjectConfig.own_options_shadow`).
-/

namespace SchemaBindings

variable {own shared other : List (DataKey × Data)} {key : DataKey} {data : Data}

/-! ## Entries in force -/

/-- The entries that count for a file: its own, and the shared ones under keys that it does not
set. -/
def InForce (shared own : List (DataKey × Data)) (key : DataKey) (data : Data) : Prop :=
  (key, data) ∈ own ∨ key ∉ own.map Prod.fst ∧ (key, data) ∈ shared

/-- Two mappings have the same entries under all keys but some. -/
def AgreeOutside (keys : List DataKey) (shared other : List (DataKey × Data)) : Prop :=
  ∀ key ∉ keys, ∀ data, (key, data) ∈ shared ↔ (key, data) ∈ other

theorem inForce_congr (agree : AgreeOutside (own.map Prod.fst) shared other) :
    InForce shared own = InForce other own := by
  funext key data
  exact propext (or_congr_right (and_congr_right fun absent => agree key absent data))

theorem Data.mergeEntries_entries (map : OrderedMap DataKey Data)
    (overriding : List (DataKey × Data)) :
    mergeEntries map.entries overriding =
      (overriding.foldl (fun map (key, data) => map.insert key data) map).entries := by
  induction overriding generalizing map with
  | nil => rfl
  | cons entry rest ih => exact ih (map.insert entry.1 entry.2)

theorem IsMapping.mergeEntries (shared_mapping : IsMapping shared)
    (overriding : List (DataKey × Data)) : IsMapping (Data.mergeEntries shared overriding) := by
  have merged := Data.mergeEntries_entries ⟨shared, shared_mapping⟩ overriding
  rw [IsMapping, merged]
  exact OrderedMap.nodup_keys _

theorem mem_mergeEntries_iff (shared_mapping : IsMapping shared) (own_mapping : IsMapping own) :
    (key, data) ∈ Data.mergeEntries shared own ↔ InForce shared own key data := by
  rw [Data.mergeEntries_entries ⟨shared, shared_mapping⟩ own, OrderedMap.mem_entries_iff,
    OrderedMap.find?_foldl_insert own_mapping, InForce, OrderedMap.mem_iff_lookup own_mapping,
    ← OrderedMap.lookup_eq_none_iff, OrderedMap.mem_iff_lookup shared_mapping]
  cases OrderedMap.lookup key own with
  | none => simp [OrderedMap.find?]
  | some value => simp

/-! ## Options for a file -/

namespace ProjectConfig

variable {config : ProjectConfig} {path : String} {output : OutputConfig}

theorem optionsFor_eq_ok_iff (shared : IsMapping config.options) (own : IsMapping output.options)
    {options : Options} :
    config.optionsFor path output = .ok options ↔
      options.GivenBy (InForce config.options output.options) := by
  have entries : (fun key data => (key, data) ∈ Data.mergeEntries config.options output.options) =
      InForce config.options output.options := by
    funext key data
    exact propext (mem_mergeEntries_iff shared own)
  rw [← entries, ← Options.ofEntries?_eq_some_iff (shared.mergeEntries _), optionsFor]
  cases Options.ofEntries? (Data.mergeEntries config.options output.options) <;> simp

theorem optionsFor_eq_error {error : ConfigError}
    (failed : config.optionsFor path output = .error error) : error = .invalidOptions path := by
  unfold optionsFor at failed
  split at failed
  · cases failed
  · exact (Except.error.inj failed).symm

theorem optionsFor_congr {other : ProjectConfig} (shared : IsMapping config.options)
    (other_shared : IsMapping other.options) (own : IsMapping output.options)
    (same : InForce config.options output.options = InForce other.options output.options) :
    config.optionsFor path output = other.optionsFor path output := by
  have oks : ∀ options, config.optionsFor path output = .ok options ↔
      other.optionsFor path output = .ok options := fun options => by
    rw [optionsFor_eq_ok_iff shared own, optionsFor_eq_ok_iff other_shared own, same]
  cases made : config.optionsFor path output with
  | ok options => exact ((oks options).1 made).symm
  | error error =>
    cases other_made : other.optionsFor path output with
    | ok options =>
      rw [(oks options).2 other_made] at made
      cases made
    | error other_error =>
      rw [optionsFor_eq_error made, optionsFor_eq_error other_made]

/-- The configuration without what is shared under keys that a file sets. -/
def withoutShadowed (config : ProjectConfig) (output : OutputConfig) : ProjectConfig :=
  { config with
    options := config.options.filter fun entry => entry.1 ∉ output.options.map Prod.fst }

/-- The options that a file sets hide the shared ones, key by key: shared mappings that agree under
the other keys give the same options, or none in either case, and an option that the file sets is
read from its own value. -/
theorem own_options_shadow :
    (∀ (file? : Option String) (text : String) (config : ProjectConfig),
      parse file? text = .ok config →
        config.HasMappings ∧ ∀ base, (config.resolve base).HasMappings) ∧
    ∀ (path : String) (output : OutputConfig), IsMapping output.options →
      (∀ config other : ProjectConfig, IsMapping config.options → IsMapping other.options →
        AgreeOutside (output.options.map Prod.fst) config.options other.options →
        config.optionsFor path output = other.optionsFor path output) ∧
      ∀ config : ProjectConfig, IsMapping config.options →
        config.optionsFor path output = (config.withoutShadowed output).optionsFor path output ∧
        ∀ options : Options,
          (config.optionsFor path output = .ok options ↔
            options.GivenBy (InForce config.options output.options)) ∧
          (config.optionsFor path output = .ok options →
            ∀ setting ∈ Options.settings, ∀ key data, (key, data) ∈ output.options →
              key.text? = some setting.key → setting.read? data = some (setting.get options)) := by
  refine ⟨fun file? text config parsed => ?_, fun path output own => ⟨?_, fun config shared => ?_⟩⟩
  · have mappings := hasMappings_of_parse parsed
    exact ⟨mappings, mappings.resolve⟩
  · intro config other shared other_shared agree
    exact optionsFor_congr shared other_shared own (inForce_congr agree)
  · have left : IsMapping (config.withoutShadowed output).options :=
      shared.sublist (List.filter_sublist.map _)
    have agree : AgreeOutside (output.options.map Prod.fst) config.options
        (config.withoutShadowed output).options := fun key absent data => by
      simp only [withoutShadowed, List.mem_filter, decide_eq_true_eq]
      exact (and_iff_left absent).symm
    refine ⟨optionsFor_congr shared left own (inForce_congr agree), fun options =>
      ⟨optionsFor_eq_ok_iff shared own, fun made setting mem key data set names => ?_⟩⟩
    have given := (optionsFor_eq_ok_iff shared own).1 made
    exact (given.settings setting mem).read key data (.inl set) names

/-- A configuration whose shared type of scalars is no mapping, with a file that sets its own. -/
def dateText : String := "schema: a.graphql
config:
  scalars: 5
  package: api
generates:
  a.go:
    plugins: [go]
    config:
      scalars:
        Date: time.Time
"

/-- What the text says about the file. -/
def dateOutput : OutputConfig where
  plugins := [.types]
  options := [(.string "scalars", .mapping [(.string "Date", .string "time.Time")])]

/-- The configuration with some shared options. -/
def dateConfig (shared : List (DataKey × Data)) : ProjectConfig where
  schema := .one "a.graphql"
  outputs := [("a.go", dateOutput)]
  options := shared

theorem date_options_shadow :
    let strict := dateConfig [(.string "scalars", .number (.int 5)),
      (.string "package", .string "api")]
    let loose := dateConfig [(.string "package", .string "api")]
    let options : Options := { package? := some "api", scalars := .ofList [("Date", "time.Time")] }
    (∃ config, parse none dateText = .ok config ∧
      config.HasMappings ∧ (config.resolve "project").HasMappings) ∧
    IsMapping dateOutput.options ∧ IsMapping strict.options ∧ IsMapping loose.options ∧
    AgreeOutside (dateOutput.options.map Prod.fst) strict.options loose.options ∧
    Options.ofEntries? strict.options = none ∧
    strict.optionsFor "a.go" dateOutput = .ok options ∧
    strict.optionsFor "a.go" dateOutput = loose.optionsFor "a.go" dateOutput ∧
    Data.mapping? Data.string? (.mapping [(.string "Date", .string "time.Time")]) =
      some options.scalars := by
  intro strict loose options
  have parsed : ∃ config, parse none dateText = .ok config := by
    have ok : (parse none dateText).isOk = true := by decide +kernel
    cases read : parse none dateText with
    | error error =>
      rw [read] at ok
      cases ok
    | ok config => exact ⟨config, rfl⟩
  obtain ⟨config, parsed⟩ := parsed
  have own : IsMapping dateOutput.options := by decide
  have strict_mapping : IsMapping strict.options := by decide
  have loose_mapping : IsMapping loose.options := by decide
  have agree : AgreeOutside (dateOutput.options.map Prod.fst) strict.options loose.options := by
    intro key absent data
    have ne : key ≠ .string "scalars" := by simpa [dateOutput] using absent
    simp [strict, loose, dateConfig, ne]
  have made : strict.optionsFor "a.go" dateOutput = .ok options := rfl
  have shadow := own_options_shadow.2 "a.go" dateOutput own
  refine ⟨⟨config, parsed, (own_options_shadow.1 none dateText config parsed).1,
    (own_options_shadow.1 none dateText config parsed).2 "project"⟩, own, strict_mapping,
    loose_mapping, agree, rfl, made, shadow.1 strict loose strict_mapping loose_mapping agree, ?_⟩
  exact ((shadow.2 strict strict_mapping).2 options).2 made
    (.mapping "scalars" Data.string? (·.scalars)) (by simp [Options.settings]) _ _
    (List.mem_singleton_self _) rfl

end ProjectConfig

end SchemaBindings
