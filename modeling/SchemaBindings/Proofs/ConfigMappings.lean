import SchemaBindings.Proofs.OutputPaths

/-!
# Mappings in configurations

What is read from nodes of a document is told by a condition on results (`Gives`), with a rule for
each way to put readings together. Options are read from mappings, in which no key is repeated, so
the options for all files and those for each file are mappings whenever a configuration is read
(`ProjectConfig.hasMappings_of_parse`).
-/

namespace SchemaBindings

namespace Yaml

variable {α β : Type} {P : α → Prop} {Q : β → Prop}

/-! ## Rules for readings -/

/-- Whatever is read is as said. -/
def Gives (reading : Reading α) (P : α → Prop) : Prop :=
  ∀ document steps value rest, reading document steps = some (value, rest) → P value

theorem reading_bind_eq_some {x : Reading α} {f : α → Reading β} {document : Document}
    {steps rest : Nat} {b : β} :
    (x >>= f) document steps = some (b, rest) ↔ ∃ a between,
      x document steps = some (a, between) ∧ f a document between = some (b, rest) := by
  show ((x document steps).bind fun made => f made.1 document made.2) = some (b, rest) ↔ _
  rw [Option.bind_eq_some_iff, Prod.exists]

theorem gives_pure {a : α} (h : P a) : Gives (pure a) P := by
  intro document steps value rest ok
  cases ok
  exact h

theorem gives_failure : Gives failure P := by
  intro document steps value rest ok
  cases ok

theorem gives_anything (reading : Reading α) : Gives reading fun _ => True :=
  fun _ _ _ _ _ => trivial

theorem Gives.bind {x : Reading α} {f : α → Reading β} (hx : Gives x P)
    (hf : ∀ a, P a → Gives (f a) Q) : Gives (x >>= f) Q := by
  intro document steps value rest ok
  obtain ⟨a, between, ha, hb⟩ := reading_bind_eq_some.1 ok
  exact hf a (hx document steps a between ha) document between value rest hb

/-- Whatever is read first, what is read in the end is as said. -/
theorem gives_of_forall {x : Reading α} {f : α → Reading β} (hf : ∀ a, Gives (f a) Q) :
    Gives (x >>= f) Q :=
  (gives_anything x).bind fun a _ => hf a

theorem gives_mapM {f : α → Reading β} (each : ∀ a, Gives (f a) Q) (items : List α) :
    Gives (items.mapM f) fun made => ∀ b ∈ made, Q b := by
  induction items with
  | nil => exact gives_pure fun b mem => absurd mem List.not_mem_nil
  | cons a rest ih =>
    rw [List.mapM_cons]
    exact (each a).bind fun b hb => ih.bind fun others ho =>
      gives_pure (List.forall_mem_cons.2 ⟨hb, ho⟩)

theorem gives_readField {fields : List (String × Node)} {name : String} {read : Node → Reading α}
    {default : Reading α} (given : ∀ node, Gives (read node) P) (missing : Gives default P) :
    Gives (readField fields name read default) P := by
  unfold readField
  split
  · exact missing
  · exact given _
  · exact gives_failure

/-! ## Mappings -/

theorem nodup_of_allDistinct [DecidableEq α] {xs : List α} (h : allDistinct xs = true) :
    xs.Nodup := by
  induction xs with
  | nil => exact List.nodup_nil
  | cons x xs ih =>
    rw [allDistinct, Bool.and_eq_true, Bool.not_eq_true', ← Bool.not_eq_true,
      List.contains_iff_mem] at h
    exact List.nodup_cons.2 ⟨h.1, ih h.2⟩

/-- `readData` calls itself inside of a computation, so that it is not opened by its equations. -/
theorem readData_succ_mapping (depth : Nat) (tag? : Option Tag) (nodes : List (Node × Node)) :
    readData (depth + 1) (.mapping tag? nodes) = do
      let entries ← nodes.mapM fun (key, value) => do
        return ((← readData depth key).toKey, ← readData depth value)
      if !allDistinct (entries.map (·.1)) then failure
      return tagData tag? (.mapping entries) := by
  delta readData
  rfl

theorem readData_zero_mapping (tag? : Option Tag) (nodes : List (Node × Node)) :
    readData 0 (.mapping tag? nodes) = failure := by
  delta readData
  rfl

end Yaml

open Yaml

/-- No key is repeated. -/
def IsMapping (entries : List (DataKey × Data)) : Prop := (entries.map Prod.fst).Nodup

instance (entries : List (DataKey × Data)) : Decidable (IsMapping entries) :=
  inferInstanceAs (Decidable (entries.map Prod.fst).Nodup)

theorem isMapping_nil : IsMapping [] := List.nodup_nil

theorem gives_readData_mapping (depth : Nat) (nodes : List (Node × Node)) :
    Gives (readData depth (.mapping none nodes)) fun data =>
      ∀ entries, data = .mapping entries → IsMapping entries := by
  cases depth with
  | zero =>
    rw [readData_zero_mapping]
    exact gives_failure
  | succ depth =>
    rw [readData_succ_mapping]
    refine gives_of_forall fun entries => ?_
    split
    · exact gives_failure
    · rename_i distinct
      refine gives_pure fun others same => ?_
      cases same
      exact nodup_of_allDistinct (by simpa using distinct)

theorem gives_readOptions (around : Nat) (node : Node) :
    Gives (readOptions around node) IsMapping := by
  unfold readOptions
  refine gives_of_forall fun nodes => (gives_readData_mapping _ nodes).bind fun data mapping => ?_
  split
  · exact gives_pure (mapping _ rfl)
  · exact gives_failure

/-! ## Configurations -/

theorem OutputConfig.gives_readNode (node : Node) :
    Gives (OutputConfig.readNode node) fun output => IsMapping output.options := by
  unfold OutputConfig.readNode
  exact gives_of_forall fun fields => gives_of_forall fun plugins => gives_of_forall fun external =>
    (gives_readField (gives_readOptions 3) (gives_pure isMapping_nil)).bind fun options mapping =>
      gives_pure mapping

theorem gives_readOutputs (node : Node) :
    Gives (readOutputs node) fun outputs => ∀ output ∈ outputs, IsMapping output.2.options := by
  have entry : ∀ field : String × Node,
      Gives (do return (field.1, ← OutputConfig.readNode field.2))
        fun output : String × OutputConfig => IsMapping output.2.options := fun field =>
    (OutputConfig.gives_readNode field.2).bind fun output mapping => gives_pure mapping
  unfold readOutputs
  refine gives_of_forall fun fields => (gives_mapM entry fields).bind fun outputs mappings =>
    gives_pure fun output mem => ?_
  obtain ⟨-, path, source⟩ := mem_distinctOutputs mem
  exact mappings (path, output.2) source

namespace ProjectConfig

/-- The options for all files, and those for each file, are mappings. -/
structure HasMappings (config : ProjectConfig) : Prop where
  shared : IsMapping config.options
  own : ∀ output ∈ config.outputs, IsMapping output.2.options

theorem gives_readNode (node : Node) : Gives (readNode node) HasMappings := by
  unfold readNode
  exact gives_of_forall fun fields => gives_of_forall fun schema => gives_of_forall fun documents =>
    (gives_readField gives_readOutputs gives_failure).bind fun outputs own =>
      (gives_readField (gives_readOptions 1) (gives_pure isMapping_nil)).bind fun options shared =>
        gives_pure ⟨shared, own⟩

/-- The options in a configuration that is read are mappings. -/
theorem hasMappings_of_parse {file? : Option String} {text : String} {config : ProjectConfig}
    (parsed : parse file? text = .ok config) : config.HasMappings := by
  unfold parse at parsed
  split at parsed
  · cases parsed
  · rename_i found read
    have same : found = config := by
      split at parsed
      · cases parsed
      split at parsed
      · cases parsed
      · exact Except.ok.inj parsed
    subst same
    obtain ⟨document, -, read⟩ := Option.bind_eq_some_iff.1 read
    obtain ⟨⟨_, rest⟩, made, rfl⟩ := Option.map_eq_some_iff.1 read
    exact gives_readNode document.root document _ _ rest made

theorem HasMappings.resolve {config : ProjectConfig} (mappings : config.HasMappings)
    (base : String) : (config.resolve base).HasMappings where
  shared := mappings.shared
  own output mem := by
    obtain ⟨-, path, source⟩ := mem_distinctOutputs mem
    obtain ⟨written, written_mem, same⟩ := List.mem_map.1 source
    rw [← (Prod.mk.inj same).2]
    exact mappings.own written written_mem

end ProjectConfig

end SchemaBindings
