import SchemaBindings.Project.Config
import SchemaBindings.Proofs.LoadingElsewhere

/-!
# Paths of outputs

Where the paths in a configuration lead, read from the directory of its file: outputs stand at
different places (`nodup_parts_of_distinctOutputs`), and none among external fragments if the
configuration keeps them apart (`ProjectConfig.Separate.fits`).
-/

namespace SchemaBindings

open FileTree

/-! ## Distinct outputs -/

/-- The outputs by the parts of their paths, which are made distinct by being written there. -/
def outputsByParts (outputs : List (String × OutputConfig)) :
    OrderedMap (List String) (String × OutputConfig) :=
  outputs.foldl (fun map (path, output) =>
    map.upsert (Path.parts path) fun present? => ((present?.map (·.1)).getD path, output)) ∅

theorem distinctOutputs_eq (outputs : List (String × OutputConfig)) :
    distinctOutputs outputs = (outputsByParts outputs).values := rfl

/-- An output that is kept is found by the parts of its path, perhaps in different entries. -/
theorem outputsByParts_spec {outputs : List (String × OutputConfig)} {key : List String}
    {output : String × OutputConfig} (found : (outputsByParts outputs).find? key = some output) :
    Path.parts output.1 = key ∧ (∃ settings, (output.1, settings) ∈ outputs) ∧
      ∃ path, (path, output.2) ∈ outputs := by
  suffices run : ∀ (rest : List (String × OutputConfig))
      (map : OrderedMap (List String) (String × OutputConfig)), rest ⊆ outputs →
      (∀ key output, map.find? key = some output → Path.parts output.1 = key ∧
        (∃ settings, (output.1, settings) ∈ outputs) ∧ ∃ path, (path, output.2) ∈ outputs) →
      ∀ key output, (rest.foldl (fun map (path, output) =>
          map.upsert (Path.parts path) fun present? => ((present?.map (·.1)).getD path, output))
          map).find? key = some output →
        Path.parts output.1 = key ∧ (∃ settings, (output.1, settings) ∈ outputs) ∧
          ∃ path, (path, output.2) ∈ outputs from
    run outputs ∅ (List.Subset.refl _) (fun key output h => by simp at h) key output found
  intro rest
  induction rest with
  | nil => exact fun map _ sound => sound
  | cons first rest ih =>
    obtain ⟨path, settings⟩ := first
    intro map among sound
    obtain ⟨first_mem, rest_among⟩ := List.cons_subset.1 among
    refine ih _ rest_among fun key output found => ?_
    rw [OrderedMap.find?_upsert] at found
    split at found
    · rename_i same
      subst same
      cases found
      cases present : map.find? (Path.parts path) with
      | none => exact ⟨rfl, ⟨settings, first_mem⟩, path, first_mem⟩
      | some earlier =>
        obtain ⟨parts, written, -⟩ := sound _ _ present
        exact ⟨parts, written, path, first_mem⟩
    · exact sound key output found

/-- Outputs have different paths. -/
theorem nodup_parts_of_distinctOutputs (outputs : List (String × OutputConfig)) :
    ((distinctOutputs outputs).map fun output => Path.parts output.1).Nodup := by
  have keys : (distinctOutputs outputs).map (fun output => Path.parts output.1) =
      (outputsByParts outputs).keys := by
    rw [distinctOutputs_eq, OrderedMap.values, OrderedMap.keys, List.map_map]
    refine List.map_congr_left fun entry mem => ?_
    exact (outputsByParts_spec ((OrderedMap.mem_entries_iff _ _ _).1 mem)).1
  rw [keys]
  exact OrderedMap.nodup_keys _

theorem mem_distinctOutputs {outputs : List (String × OutputConfig)}
    {output : String × OutputConfig} (mem : output ∈ distinctOutputs outputs) :
    (∃ settings, (output.1, settings) ∈ outputs) ∧ ∃ path, (path, output.2) ∈ outputs := by
  obtain ⟨key, found⟩ := (OrderedMap.mem_values_iff _ _).1 mem
  exact (outputsByParts_spec found).2

/-! ## Paths read from a directory -/

theorem goesOn_join {base path : String} (base_relative : Path.isAbsolute base = false)
    (relative : Path.isAbsolute path = false) (dotless : Path.Dotless path) :
    GoesOn (Path.parts base) (Path.parts path) (Path.join base path) where
  relative := Path.isAbsolute_join base_relative relative
  parts := Path.parts_join base_relative relative dotless
  names _ mem := Path.isName_of_mem_parts relative dotless mem

/-- A file that is read stands in the directory that its parent path leads to. -/
theorem exists_leadsTo_of_readText {tree : FileTree} {path text : String}
    (read : tree.readText path = .ok text) :
    Path.isAbsolute ((Path.parent? path).getD "") = false ∧
      ∃ place, tree.LeadsTo (Path.parts ((Path.parent? path).getD "")) place := by
  cases parent : Path.parent? path with
  | none => exact ⟨rfl, [], rfl, rfl⟩
  | some directory =>
    obtain ⟨bytes, present⟩ : ∃ bytes, tree.content? path = some bytes := by
      unfold readText at read
      cases present : tree.content? path with
      | none =>
        rw [present] at read
        cases read
      | some bytes => exact ⟨bytes, rfl⟩
    obtain ⟨place, reached⟩ := exists_place?_of_content? present
    unfold place? at reached
    split at reached
    · cases reached
    · rename_i usable
      have relative : Path.isAbsolute path = false := by simp at usable; exact usable.1.2
      obtain ⟨directory_relative, last, parts⟩ := Path.parts_of_parent? relative parent
      rw [parts, List.foldlM_append] at reached
      obtain ⟨place, walk, reached⟩ := Option.bind_eq_some_iff.1 reached
      rw [List.foldlM_cons] at reached
      obtain ⟨next, step, -⟩ := Option.bind_eq_some_iff.1 reached
      exact ⟨directory_relative, place, walk, (step?_eq_some step).1⟩

/-! ## Outputs and external fragments -/

/-- An output whose file, if its path leads anywhere, stands at one of the targets, and whose
external fragments stand elsewhere. -/
structure Fits (way : List String) (base : Place) (targets : List Place)
    (output : String × OutputConfig) : Prop where
  path : Path.isAbsolute output.1 = true ∨
    ∃ names, GoesOn way names output.1 ∧ base ++ names ∈ targets
  external : ∀ path ∈ output.2.externalFragments.paths, Aside way base targets path

/-- The paths of a configuration are without dots, and no output stands at or under the path of
external fragments. -/
structure ProjectConfig.Separate (config : ProjectConfig) : Prop where
  dotless : ∀ output ∈ config.outputs, Path.Dotless output.1
  externalDotless : ∀ output ∈ config.outputs, ∀ path ∈ output.2.externalFragments.paths,
    Path.Dotless path
  apart : ∀ output ∈ config.outputs, ∀ other ∈ config.outputs,
    ∀ path ∈ other.2.externalFragments.paths, ¬Path.parts path <+: Path.parts output.1

instance (config : ProjectConfig) : Decidable config.Separate :=
  decidable_of_iff ((∀ output ∈ config.outputs, Path.Dotless output.1) ∧
      (∀ output ∈ config.outputs, ∀ path ∈ output.2.externalFragments.paths, Path.Dotless path) ∧
      ∀ output ∈ config.outputs, ∀ other ∈ config.outputs,
        ∀ path ∈ other.2.externalFragments.paths, ¬Path.parts path <+: Path.parts output.1)
    ⟨fun ⟨dotless, externalDotless, apart⟩ => ⟨dotless, externalDotless, apart⟩,
      fun separate => ⟨separate.dotless, separate.externalDotless, separate.apart⟩⟩

theorem PathList.paths_resolve (base : String) (list : PathList) :
    (list.resolve base).paths = list.paths.map (Path.join base) := by
  cases list <;> rfl

theorem ProjectConfig.Separate.fits {config : ProjectConfig} (separate : config.Separate)
    {base : String} (base_relative : Path.isAbsolute base = false) (place : Place) :
    ∀ output ∈ (config.resolve base).outputs, Fits (Path.parts base) place
      (config.outputs.map fun other => place ++ Path.parts other.1) output := by
  intro output mem
  obtain ⟨⟨settings, named⟩, path, set⟩ := mem_distinctOutputs mem
  constructor
  · obtain ⟨source, source_mem, source_eq⟩ := List.mem_map.1 named
    obtain ⟨path_eq, -⟩ := Prod.mk.inj source_eq
    rw [← path_eq]
    cases relative : Path.isAbsolute source.1 with
    | true => exact .inl (by rwa [Path.join_of_isAbsolute relative])
    | false => exact .inr ⟨Path.parts source.1,
        goesOn_join base_relative relative (separate.dotless source source_mem),
        List.mem_map.2 ⟨source, source_mem, rfl⟩⟩
  · obtain ⟨source, source_mem, source_eq⟩ := List.mem_map.1 set
    obtain ⟨-, settings_eq⟩ := Prod.mk.inj source_eq
    intro external external_mem
    rw [← settings_eq] at external_mem
    obtain ⟨written, written_mem, rfl⟩ := List.mem_map.1
      ((PathList.paths_resolve base source.2.externalFragments) ▸ external_mem)
    cases relative : Path.isAbsolute written with
    | true => exact .inl (by rwa [Path.join_of_isAbsolute relative])
    | false =>
      refine .inr ⟨Path.parts written, goesOn_join base_relative relative
        (separate.externalDotless source source_mem written written_mem), ?_⟩
      intro target target_mem inside
      obtain ⟨other, other_mem, rfl⟩ := List.mem_map.1 target_mem
      exact separate.apart other other_mem source source_mem written written_mem
        ((List.prefix_append_right_inj place).1 inside)

end SchemaBindings
