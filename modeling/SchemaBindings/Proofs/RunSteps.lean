import SchemaBindings.Project.Run
import SchemaBindings.Proofs.LoadingElsewhere

/-!
# Steps of runs

What the steps of a run make of a tree. Only writing changes it (`writes_writeOutput`); the text of
a generated file depends on it only by the external fragments (`onTree_renderOutput`).
-/

namespace SchemaBindings

namespace GenerateCommand

variable {α β : Type} {tree : FileTree}

/-! ## Steps on trees -/

/-- How a step ends on a tree: its result or its error, and the tree that it leaves. -/
def onTree (step : Run α) (tree : FileTree) : Except RunError α × FileTree :=
  (step.run.run tree).value

@[simp] theorem onTree_pure (a : α) : onTree (pure a) tree = (.ok a, tree) := rfl

@[simp] theorem onTree_throw (error : RunError) :
    onTree (throw error : Run α) tree = (.error error, tree) := rfl

@[simp] theorem onTree_get : onTree get tree = (.ok tree, tree) := rfl

theorem onTree_bind (x : Run α) (f : α → Run β) : onTree (x >>= f) tree =
    match onTree x tree with
    | (.ok a, next) => onTree (f a) next
    | (.error error, next) => (.error error, next) := by
  unfold onTree
  rw [ExceptT.run_bind, StateT.run_bind, Logged.value_bind]
  rcases (x.run.run tree).value with ⟨error | a, next⟩ <;> rfl

theorem onTree_bind_eq_ok {x : Run α} {f : α → Run β} {b : β} {last : FileTree} :
    onTree (x >>= f) tree = (.ok b, last) ↔
      ∃ a next, onTree x tree = (.ok a, next) ∧ onTree (f a) next = (.ok b, last) := by
  rw [onTree_bind]
  rcases onTree x tree with ⟨error | a, next⟩
  · simp
  · simp

/-- A step that neither reads nor changes the tree. -/
def Treeless (step : Run α) : Prop := ∃ result, ∀ tree, onTree step tree = (result, tree)

namespace Treeless

theorem pure (a : α) : Treeless (Pure.pure a) := ⟨_, fun _ => rfl⟩

theorem throw (error : RunError) : Treeless (throw error : Run α) := ⟨_, fun _ => rfl⟩

theorem ofExcept {ε : Type} (wrap : ε → RunError) (result : Except ε α) :
    Treeless (GenerateCommand.ofExcept wrap result) := by
  cases result with
  | error error => exact .throw _
  | ok a => exact .pure a

theorem ofLogged (logged : Logged α) : Treeless (GenerateCommand.ofLogged logged) :=
  ⟨.ok logged.value, fun _ => rfl⟩

theorem bind {x : Run α} {f : α → Run β} (first : Treeless x) (later : ∀ a, Treeless (f a)) :
    Treeless (x >>= f) := by
  obtain ⟨result, ends⟩ := first
  cases result with
  | error error =>
    refine ⟨.error error, fun tree => ?_⟩
    rw [onTree_bind, ends]
  | ok a =>
    obtain ⟨result, later_ends⟩ := later a
    refine ⟨result, fun tree => ?_⟩
    rw [onTree_bind, ends]
    exact later_ends tree

theorem mapM {f : α → Run β} (each : ∀ a, Treeless (f a)) (items : List α) :
    Treeless (items.mapM f) := by
  induction items with
  | nil => exact .pure []
  | cons a rest ih =>
    rw [List.mapM_cons]
    exact (each a).bind fun b => ih.bind fun others => .pure (b :: others)

/-- What a step that does not read the tree ends with is the same on any tree. -/
theorem onTree_eq {step : Run α} (h : Treeless step) (tree : FileTree) :
    onTree step tree = ((onTree step {}).1, tree) := by
  obtain ⟨result, ends⟩ := h
  rw [ends tree, ends {}]

end Treeless

theorem onTree_ofExcept_eq_ok {ε : Type} {wrap : ε → RunError} {result : Except ε α} {a : α}
    {next : FileTree} :
    onTree (ofExcept wrap result) tree = (.ok a, next) ↔ result = .ok a ∧ next = tree := by
  cases result <;> simp [ofExcept, eq_comm]

/-! ## Loading -/

/-- The configuration that a command reads. -/
def Reads (command : GenerateCommand) (tree : FileTree) (config : ProjectConfig) : Prop :=
  ∃ text, tree.readText command.config = .ok text ∧
    ProjectConfig.parse (some command.config) text = .ok config

/-- Loading does not change the tree. -/
theorem onTree_load_snd (command : GenerateCommand) (tree : FileTree) :
    (onTree command.load tree).2 = tree := by
  unfold load
  rw [onTree_bind, onTree_get]
  refine congrArg Prod.snd (Treeless.onTree_eq ?_ tree)
  exact .bind (.ofExcept _ _) fun text => .bind (.ofExcept _ _) fun config =>
    .bind (.ofExcept _ _) fun logged => .bind (.ofLogged logged) fun schema =>
      .bind (.ofExcept _ _) fun documents => .pure _

/-- The inputs of a run: the configuration that is read, with its paths read from the directory of
its file, and the schema and the documents in the files that it names. -/
structure LoadsFrom (command : GenerateCommand) (tree : FileTree) (config : ProjectConfig)
    (inputs : RunInputs) : Prop where
  reads : command.Reads tree config
  resolved : inputs.config = config.resolve ((Path.parent? command.config).getD "")
  schema : ∃ logged,
    tree.loadSchema inputs.extensions inputs.config.schema.paths = .ok logged ∧
      inputs.schema = logged.value
  documents :
    tree.loadDocuments inputs.extensions inputs.config.documents.paths = .ok inputs.documents

theorem exists_loadsFrom {command : GenerateCommand} {inputs : RunInputs}
    (loaded : (onTree command.load tree).1 = .ok inputs) :
    ∃ config, command.LoadsFrom tree config inputs := by
  have ends : onTree command.load tree = (.ok inputs, tree) :=
    Prod.ext loaded (onTree_load_snd command tree)
  unfold load at ends
  rw [onTree_bind, onTree_get] at ends
  obtain ⟨text, _, first, ends⟩ := onTree_bind_eq_ok.1 ends
  obtain ⟨read, rfl⟩ := onTree_ofExcept_eq_ok.1 first
  obtain ⟨config, _, second, ends⟩ := onTree_bind_eq_ok.1 ends
  obtain ⟨parsed, rfl⟩ := onTree_ofExcept_eq_ok.1 second
  obtain ⟨logged, _, third, ends⟩ := onTree_bind_eq_ok.1 ends
  obtain ⟨schema, rfl⟩ := onTree_ofExcept_eq_ok.1 third
  obtain ⟨_, _, same, ends⟩ := onTree_bind_eq_ok.1 ends
  cases same
  obtain ⟨documents, _, fourth, ends⟩ := onTree_bind_eq_ok.1 ends
  obtain ⟨found, rfl⟩ := onTree_ofExcept_eq_ok.1 fourth
  cases ends
  exact ⟨config, ⟨text, read, parsed⟩, rfl, ⟨logged, schema, rfl⟩, found⟩

/-! ## Texts -/

/-- Makes the text of a generated file from external fragments that have been loaded. -/
def renderLoaded (inputs : RunInputs) (path : String) (output : OutputConfig)
    (loaded : Except LoadError (List LoadedFragment)) : Run String := do
  let options ← ofExcept .config (inputs.config.optionsFor path output)
  let external ← ofExcept (.external path) loaded
  let info : PluginInfo := { external, outputFile? := some path }
  let outputs ← output.plugins.mapM fun plugin => do
    let result ← ofLogged (plugin.run inputs.schema inputs.documents options info).run
    ofExcept (.plugin plugin path) result
  return (PluginOutput.merge outputs).render

/-- The text of a generated file, or the error that is met in making it, for external fragments. -/
def renderedText (inputs : RunInputs) (path : String) (output : OutputConfig)
    (loaded : Except LoadError (List LoadedFragment)) : Except RunError String :=
  (onTree (renderLoaded inputs path output loaded) {}).1

/-- Making a generated file changes nothing, and depends on the tree only by the external fragments.
-/
theorem onTree_renderOutput (inputs : RunInputs) (path : String) (output : OutputConfig) :
    onTree (renderOutput inputs path output) tree =
      (renderedText inputs path output
        (tree.loadExternal inputs.extensions output.externalFragments.paths), tree) := by
  have treeless : ∀ loaded, Treeless (renderLoaded inputs path output loaded) := fun loaded =>
    .bind (.ofExcept _ _) fun options => .bind (.ofExcept _ _) fun external =>
      .bind (.mapM (fun plugin => .bind (.ofLogged _) fun result => .ofExcept _ _) _) fun outputs =>
        .pure _
  unfold renderedText
  rw [← (treeless _).onTree_eq tree]
  unfold renderOutput renderLoaded
  rw [onTree_bind, onTree_bind]
  cases inputs.config.optionsFor path output <;> rfl

/-! ## Writing -/

section

open FileTree

variable {way names : List String} {base : Place} {path : String}

/-- Writing a text at a path ends with the file there, or with an error. At most directories on the
way to it are made besides. -/
def Writes (path text : String) (tree : FileTree) : Except RunError Unit × FileTree → Prop
  | (.ok _, changed) => Changes [destination path] [destination path] tree changed ∧
      changed.content? path = some text.toUTF8
  | (.error _, changed) => Changes [] [destination path] tree changed

theorem Writes.of_changes {text : String} {made : FileTree}
    {ending : Except RunError Unit × FileTree} (first : Changes [] [destination path] tree made)
    (writes : Writes path text made ending) : Writes path text tree ending := by
  have both : [destination path] ++ [destination path] ⊆ [destination path] :=
    List.append_subset.2 ⟨.refl _, .refl _⟩
  rcases ending with ⟨error | _, changed⟩
  · exact (first.trans writes).of_subset both
  · exact ⟨(first.trans writes.1).of_subset both, writes.2⟩

/-- How writing a file ends where its directory is there. -/
def writeEnd (path text : String) (tree : FileTree) : Except RunError Unit × FileTree :=
  match tree.write? path text.toUTF8 with
  | some written => (.ok (), written)
  | none => (.error (.writeFile path), tree)

theorem onTree_writeOutput_eq (path text : String) :
    onTree (writeOutput path text) tree =
      match (Path.parent? path).filter (!·.isEmpty) with
      | none => writeEnd path text tree
      | some directory =>
        match tree.makeDirectory? directory with
        | some made => writeEnd path text made
        | none => (.error (.createDirectory directory), tree) := by
  have write : ∀ tree : FileTree, onTree (do
      match (← get).write? path text.toUTF8 with
      | some tree => set tree
      | none => throw (.writeFile path) : Run Unit) tree = writeEnd path text tree := by
    intro tree
    rw [onTree_bind, onTree_get]
    unfold writeEnd
    dsimp only
    cases tree.write? path text.toUTF8 <;> rfl
  unfold writeOutput
  cases (Path.parent? path).filter (!·.isEmpty) with
  | none => exact write tree
  | some directory =>
    dsimp only
    rw [onTree_bind, onTree_get]
    dsimp only
    cases tree.makeDirectory? directory with
    | none => rfl
    | some made => exact write made

theorem writes_writeEnd (text : String) (leads : tree.LeadsTo way base)
    (on : GoesOn way names path) : Writes path text tree (writeEnd path text tree) := by
  unfold writeEnd
  cases written : tree.write? path text.toUTF8 with
  | none => exact Changes.refl _ _
  | some changed => exact changes_of_write? leads on written

theorem writes_writeOutput (text : String) (leads : tree.LeadsTo way base)
    (on : GoesOn way names path) :
    Writes path text tree (onTree (writeOutput path text) tree) := by
  rw [onTree_writeOutput_eq]
  cases parent : (Path.parent? path).filter (!·.isEmpty) with
  | none => exact writes_writeEnd text leads on
  | some directory =>
    obtain ⟨parent, -⟩ := Option.filter_eq_some_iff.1 parent
    dsimp only
    cases makes : tree.makeDirectory? directory with
    | none => exact Changes.refl _ _
    | some made =>
      have first := changes_of_makeDirectory? leads on parent makes
      exact (writes_writeEnd text (first.leadsTo leads) on).of_changes first

/-- Nothing is written where an absolute path leads. -/
theorem onTree_writeOutput_of_isAbsolute (text : String) (absolute : Path.isAbsolute path = true)
    (tree : FileTree) :
    ∃ error, onTree (writeOutput path text) tree = (.error error, tree) := by
  rw [onTree_writeOutput_eq]
  cases parent : (Path.parent? path).filter (!·.isEmpty) with
  | none =>
    refine ⟨.writeFile path, ?_⟩
    unfold writeEnd write?
    rw [place?_of_isAbsolute absolute]
    rfl
  | some directory =>
    obtain ⟨parent, -⟩ := Option.filter_eq_some_iff.1 parent
    have outside : tree.makeDirectory? directory = none := by
      unfold makeDirectory?
      simp [Path.isAbsolute_of_parent? absolute parent]
    dsimp only
    rw [outside]
    exact ⟨_, rfl⟩

end

end GenerateCommand

end SchemaBindings
