import SchemaBindings.Proofs.OutputPaths
import SchemaBindings.Proofs.RunSteps

/-!
# Dry runs

A dry run changes nothing, and shows what is written without it. What is written up to an error are
the files that a dry run shows for the outputs before it (`writes_what_dry_run_shows`): as no output
stands among external fragments, what is made of an output does not depend on those before it.
-/

namespace SchemaBindings

open FileTree

namespace GenerateCommand

variable {command : GenerateCommand} {inputs : RunInputs} {tree : FileTree}

/-! ## Single outputs -/

/-- The text of an output on a tree. -/
def outputText (inputs : RunInputs) (tree : FileTree) (output : String × OutputConfig) :
    Except RunError String :=
  renderedText inputs output.1 output.2
    (tree.loadExternal inputs.extensions output.2.externalFragments.paths)

theorem onTree_makeOutput_of_dry (dry : command.dryRun = true) (summary : RunSummary)
    (output : String × OutputConfig) :
    onTree (command.makeOutput inputs summary output) tree =
      ((outputText inputs tree output).map fun text =>
        { summary with
          outputs := summary.outputs ++ [output.1]
          shown := summary.shown ++ [(output.1, text)] }, tree) := by
  unfold makeOutput outputText
  dsimp only
  rw [onTree_bind, onTree_renderOutput, dry]
  cases renderedText inputs output.1 output.2
    (tree.loadExternal inputs.extensions output.2.externalFragments.paths) <;> rfl

/-- A run that is not dry writes the text of an output. -/
theorem onTree_makeOutput_of_not_dry (wet : command.dryRun = false) (inputs : RunInputs)
    (tree : FileTree) (summary : RunSummary) (output : String × OutputConfig) :
    onTree (command.makeOutput inputs summary output) tree =
      match outputText inputs tree output with
      | .error error => (.error error, tree)
      | .ok text =>
        ((onTree (writeOutput output.1 text) tree).1.map fun _ =>
          { summary with outputs := summary.outputs ++ [output.1] },
        (onTree (writeOutput output.1 text) tree).2) := by
  unfold makeOutput outputText
  dsimp only
  rw [onTree_bind, onTree_renderOutput, wet]
  cases renderedText inputs output.1 output.2
      (tree.loadExternal inputs.extensions output.2.externalFragments.paths) with
  | error error => rfl
  | ok text =>
    show onTree (writeOutput output.1 text >>= _) tree = _
    rw [onTree_bind]
    dsimp only
    rcases onTree (writeOutput output.1 text) tree with ⟨error | _, next⟩ <;> rfl

/-- A dry run makes outputs without changing the tree. -/
theorem onTree_foldlM_of_dry (dry : command.dryRun = true) (outputs : List (String × OutputConfig))
    (summary : RunSummary) :
    (onTree (outputs.foldlM (command.makeOutput inputs) summary) tree).2 = tree := by
  induction outputs generalizing summary with
  | nil => rfl
  | cons output rest ih =>
    rw [List.foldlM_cons, onTree_bind, onTree_makeOutput_of_dry dry]
    cases outputText inputs tree output with
    | error error => rfl
    | ok text => exact ih _

/-! ## Runs -/

/-- Makes all files from what has been loaded. -/
def makeOutputs (command : GenerateCommand) (inputs : RunInputs) : Run RunSummary :=
  inputs.config.outputs.foldlM (command.makeOutput inputs)
    { documentCount := inputs.documents.length }

theorem run_eq (command : GenerateCommand) :
    command.run = command.load >>= command.makeOutputs := rfl

/-- How many outputs are completed, one after the other, before the first error. -/
def completed (command : GenerateCommand) (inputs : RunInputs) (summary : RunSummary) :
    List (String × OutputConfig) → FileTree → Nat
  | [], _ => 0
  | output :: rest, tree =>
    match onTree (command.makeOutput inputs summary output) tree with
    | (.ok next, changed) => command.completed inputs next rest changed + 1
    | (.error _, _) => 0

/-- Where the files of outputs stand. -/
def destinations (outputs : List (String × OutputConfig)) : List Place :=
  outputs.map fun output => destination output.1

/-- What a run leaves that writes outputs to a tree, compared to a dry run on the tree at the start:
`count` outputs are completed, with `files` as their contents. -/
structure Agrees (command : GenerateCommand) (inputs : RunInputs) (start tree : FileTree)
    (outputs : List (String × OutputConfig)) (count : Nat)
    (ending : Except RunError RunSummary × FileTree) (files : List (String × String)) : Prop where
  paths : files.map (·.1) = (outputs.take count).map (·.1)
  /-- A dry run over these outputs shows the files. -/
  dry : ∀ summary : RunSummary,
    onTree ((outputs.take count).foldlM ({ command with dryRun := true }.makeOutput inputs) summary)
        start =
      (.ok { summary with
        outputs := summary.outputs ++ files.map (·.1)
        shown := summary.shown ++ files }, start)
  content : ∀ file ∈ files, ending.2.content? file.1 = some file.2.toUTF8
  changes : Changes (destinations (outputs.take count)) (destinations (outputs.take (count + 1)))
    tree ending.2
  finished : ending.1.isOk = true ↔ count = outputs.length

variable {way : List String} {base : Place} {targets done : List Place} {start : FileTree}

/-- Outputs that have been written elsewhere do not change the text of an output. -/
theorem outputText_eq (inputs : RunInputs) (named : start.Named) (leads : start.LeadsTo way base)
    (since : Changes done done start tree) (among : done ⊆ targets)
    {output : String × OutputConfig} (fits : Fits way base targets output) :
    outputText inputs tree output = outputText inputs start output := by
  have loaded := since.loadExternal_eq leads named inputs.extensions fun path mem => by
    rcases fits.external path mem with absolute | ⟨names, on, outside⟩
    · exact .inl absolute
    · exact .inr ⟨names, on, fun target mem => outside target (among (by simpa using mem))⟩
  unfold outputText
  rw [loaded]

/-- Nothing is completed where the first output fails. -/
theorem agrees_of_error {output : String × OutputConfig} {rest : List (String × OutputConfig)}
    {changed : FileTree} {error : RunError}
    (changes : Changes [] [destination output.1] tree changed) :
    Agrees command inputs start tree (output :: rest) 0 (.error error, changed) [] where
  paths := rfl
  dry _ := by simp
  content _ mem := absurd mem List.not_mem_nil
  changes := changes
  finished := by simp [Except.isOk, Except.toBool]

theorem Agrees.isAbsolute_eq {outputs : List (String × OutputConfig)} {count : Nat}
    {ending : Except RunError RunSummary × FileTree} {files : List (String × String)}
    (agrees : Agrees command inputs start tree outputs count ending files)
    {output : String × OutputConfig} (mem : output ∈ outputs.take count) :
    Path.isAbsolute output.1 = false := by
  have listed : output.1 ∈ files.map (·.1) := agrees.paths ▸ List.mem_map_of_mem mem
  obtain ⟨file, file_mem, same⟩ := List.mem_map.1 listed
  obtain ⟨place, reached⟩ := exists_place?_of_content? (agrees.content file file_mem)
  refine Bool.eq_false_iff.2 fun absolute => ?_
  rw [same, place?_of_isAbsolute absolute] at reached
  cases reached

/-- A file is not written again by outputs with other paths. -/
theorem Agrees.not_mem_destinations {outputs : List (String × OutputConfig)} {count : Nat}
    {ending : Except RunError RunSummary × FileTree} {files : List (String × String)}
    (agrees : Agrees command inputs start tree outputs count ending files)
    (leads : start.LeadsTo way base) (fits : ∀ other ∈ outputs, Fits way base targets other)
    {path : String} {names : List String} (on : GoesOn way names path)
    (apart : Path.parts path ∉ outputs.map fun other => Path.parts other.1) :
    destination path ∉ destinations (outputs.take count) := by
  intro mem
  obtain ⟨other, other_mem, same⟩ := List.mem_map.1 mem
  have listed := List.mem_of_mem_take other_mem
  rcases (fits other listed).path with absolute | ⟨others, other_on, -⟩
  · rw [agrees.isAbsolute_eq other_mem] at absolute
    cases absolute
  · rw [on.destination_eq leads, other_on.destination_eq leads] at same
    refine apart (List.mem_map.2 ⟨other, listed, ?_⟩)
    rw [on.parts, other_on.parts, List.append_cancel_left same]

theorem Agrees.cons {output : String × OutputConfig} {rest : List (String × OutputConfig)}
    {changed : FileTree} {count : Nat} {ending : Except RunError RunSummary × FileTree}
    {files : List (String × String)} {text : String}
    (agrees : Agrees command inputs start changed rest count ending files)
    (made : outputText inputs start output = .ok text)
    (first : Changes [destination output.1] [destination output.1] tree changed)
    (present : changed.content? output.1 = some text.toUTF8)
    (apart : destination output.1 ∉ destinations (rest.take count)) :
    Agrees command inputs start tree (output :: rest) (count + 1) ending
      ((output.1, text) :: files) where
  paths := congrArg _ agrees.paths
  dry := by
    intro summary
    rw [List.take_succ_cons, List.foldlM_cons, onTree_bind, onTree_makeOutput_of_dry rfl, made]
    refine (agrees.dry _).trans ?_
    simp
  content := List.forall_mem_cons.2 ⟨agrees.changes.content?_eq present apart, agrees.content⟩
  changes := first.trans agrees.changes
  finished := agrees.finished.trans (Nat.succ_inj).symm

theorem agrees_of_foldlM (inputs : RunInputs) (wet : command.dryRun = false) (named : start.Named)
    (leads : start.LeadsTo way base) (outputs : List (String × OutputConfig))
    (fits : ∀ output ∈ outputs, Fits way base targets output)
    (distinct : (outputs.map fun output => Path.parts output.1).Nodup)
    (since : Changes done done start tree) (among : done ⊆ targets) (summary : RunSummary) :
    ∃ files, Agrees command inputs start tree outputs
      (command.completed inputs summary outputs tree)
      (onTree (outputs.foldlM (command.makeOutput inputs) summary) tree) files := by
  induction outputs generalizing tree done summary with
  | nil =>
    exact ⟨[], {
      paths := rfl
      dry := fun _ => by simp
      content := fun _ mem => absurd mem List.not_mem_nil
      changes := .refl _ _
      finished := by simp [completed, Except.isOk, Except.toBool] }⟩
  | cons output rest ih =>
    obtain ⟨first_fits, rest_fits⟩ := List.forall_mem_cons.1 fits
    rw [List.map_cons, List.nodup_cons] at distinct
    have same_text := outputText_eq inputs named leads since among first_fits
    have made := onTree_makeOutput_of_not_dry wet inputs tree summary output
    rw [List.foldlM_cons, onTree_bind, completed]
    rw [made]
    cases text_eq : outputText inputs tree output with
    | error error => exact ⟨[], agrees_of_error (.refl _ _)⟩
    | ok text =>
      dsimp only
      rcases first_fits.path with absolute | ⟨names, on, target⟩
      · obtain ⟨error, ends⟩ := onTree_writeOutput_of_isAbsolute text absolute tree
        rw [ends]
        exact ⟨[], agrees_of_error (.refl _ _)⟩
      · have writes := writes_writeOutput text (since.leadsTo leads) on
        generalize onTree (writeOutput output.1 text) tree = ending at writes ⊢
        rcases ending with ⟨error | _, changed⟩
        · exact ⟨[], agrees_of_error writes⟩
        · obtain ⟨changes, present⟩ := writes
          have among' : done ++ [destination output.1] ⊆ targets := by
            refine List.append_subset.2 ⟨among, List.cons_subset.2 ⟨?_, List.nil_subset _⟩⟩
            rwa [on.destination_eq leads]
          obtain ⟨files, agrees⟩ := ih rest_fits distinct.2 (since.trans changes) among'
            { summary with outputs := summary.outputs ++ [output.1] }
          have apart := agrees.not_mem_destinations leads rest_fits on distinct.1
          exact ⟨(output.1, text) :: files,
            agrees.cons (same_text.symm.trans text_eq) changes present apart⟩

/-! ## Whole runs -/

theorem runOn_tree (command : GenerateCommand) (tree : FileTree) :
    (command.runOn tree).tree = (onTree command.run tree).2 := rfl

theorem runOn_result (command : GenerateCommand) (tree : FileTree) :
    (command.runOn tree).result = (onTree command.run tree).1 := rfl

theorem onTree_run (command : GenerateCommand) (tree : FileTree) :
    onTree command.run tree =
      match (onTree command.load tree).1 with
      | .ok inputs => onTree (command.makeOutputs inputs) tree
      | .error error => (.error error, tree) := by
  have unchanged : onTree command.load tree = ((onTree command.load tree).1, tree) :=
    Prod.ext rfl (onTree_load_snd command tree)
  rw [run_eq, onTree_bind, unchanged]
  cases (onTree command.load tree).1 <;> rfl

/-- The inputs with their first outputs alone. -/
def cutTo (count : Nat) (inputs : RunInputs) : RunInputs :=
  { inputs with config := { inputs.config with outputs := inputs.config.outputs.take count } }

/-- How many outputs a run on a tree completes before its first error. -/
def completedOn (command : GenerateCommand) (inputs : RunInputs) (tree : FileTree) : Nat :=
  command.completed inputs { documentCount := inputs.documents.length } inputs.config.outputs tree

/-- What a run leaves of a tree whose first `count` outputs it completes. -/
structure WritesAsShown (command : GenerateCommand) (inputs : RunInputs) (tree : FileTree)
    (count : Nat) (outcome : RunOutcome) : Prop where
  /-- All outputs are completed exactly if the run succeeds. -/
  finished : outcome.result.isOk = true ↔ count = inputs.config.outputs.length
  /-- Their files hold the texts that a dry run shows for them. -/
  shown : ∃ summary,
    onTree ({ command with dryRun := true }.makeOutputs (cutTo count inputs)) tree =
      (.ok summary, tree) ∧
    summary.shown.map (·.1) = (inputs.config.outputs.take count).map (·.1) ∧
    ∀ file ∈ summary.shown, outcome.tree.content? file.1 = some file.2.toUTF8
  /-- Any other place is as before, or a directory that was made above an output. -/
  others : ∀ place ∉ destinations (inputs.config.outputs.take count),
    outcome.tree.entry? place = tree.entry? place ∨
    tree.entry? place = none ∧ outcome.tree.entry? place = some .directory ∧
      ∃ target ∈ destinations (inputs.config.outputs.take (count + 1)),
        isBelow place target = true

/-- What a run leaves after its inputs have been loaded. -/
theorem writesAsShown_of_load {inputs : RunInputs} (wet : command.dryRun = false)
    (named : tree.Named) (separate : ∀ config, command.Reads tree config → config.Separate)
    (loaded : (onTree command.load tree).1 = .ok inputs) :
    command.WritesAsShown inputs tree (command.completedOn inputs tree) (command.runOn tree) := by
  obtain ⟨config, reads, resolved, -, -⟩ := exists_loadsFrom loaded
  obtain ⟨text, read, -⟩ := id reads
  obtain ⟨base_relative, place, leads⟩ := exists_leadsTo_of_readText read
  have fits := (separate config reads).fits base_relative place
  rw [← resolved] at fits
  have distinct : (inputs.config.outputs.map fun output => Path.parts output.1).Nodup := by
    rw [resolved]
    exact nodup_parts_of_distinctOutputs _
  obtain ⟨files, agrees⟩ := agrees_of_foldlM inputs wet named leads inputs.config.outputs fits
    distinct (.refl [] tree) (List.nil_subset _) { documentCount := inputs.documents.length }
  have ends : onTree command.run tree = onTree (command.makeOutputs inputs) tree := by
    rw [onTree_run, loaded]
  constructor
  · rw [runOn_result, ends]
    exact agrees.finished
  · refine ⟨_, agrees.dry _, agrees.paths, ?_⟩
    rw [runOn_tree, ends]
    exact agrees.content
  · rw [runOn_tree, ends]
    exact agrees.changes.entry

/-- A configuration with two outputs, the second with external fragments that are missing. -/
def partialConfig : String :=
  "schema: s.graphql\n" ++
  "generates:\n" ++
  "  gen/a.go: \x7bplugins: [go]\x7d\n" ++
  "  b.go: \x7bplugins: [go], externalFragments: lost\x7d\n"

/-- A tree with a configuration and a schema. -/
def partialTree : FileTree where
  entries := [
    (["codegen.yml"], .file partialConfig.toUTF8),
    (["s.graphql"], .file "type Query \x7b a: Int \x7d".toUTF8)]

end GenerateCommand

end SchemaBindings
