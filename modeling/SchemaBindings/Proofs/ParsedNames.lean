import SchemaBindings.Generated.OperationTypes
import SchemaBindings.Proofs.MarkedTypes
import SchemaBindings.Proofs.NameCase
import SchemaBindings.Proofs.ReaderRules
import SchemaBindings.Proofs.UnquotedNames

/-!
# Parsed names

Name tokens are made of letters, digits and underscores (`hasNameChars_of_scanFor`), and names that
are read are tokens (`nameChars_schema`, `nameChars_fragments`, `nameChars_of_read`). So schemas and
documents that have been read from texts meet the conditions on names under which lines are told by
their texts: that on the schema and the fragments (`allUnquoted_selectionContext`) and that on the
selections of each definition (`namesUnquoted_of_read`).
-/

namespace SchemaBindings

open Text (NameChars Unquoted)

/-- The names in a definition: those in its selections, and that of the type a fragment is on. -/
def Definition.names : Definition → List String
  | .operation body => Selection.namesOf body.selections
  | .fragment body => body.onType :: Selection.namesOf body.selections

/-- The name of a definition, and the names in it. -/
def Definition.allNames : Definition → List String
  | .operation body => body.name?.toList ++ (Definition.operation body).names
  | .fragment body => body.name :: (Definition.fragment body).names

theorem Definition.names_subset_allNames (definition : Definition) :
    definition.names ⊆ definition.allNames := by
  cases definition with
  | operation body => exact List.subset_append_right _ _
  | fragment body => exact List.subset_cons_self _ _

/-- The names of types in a part of a schema document. -/
def SchemaItem.typeNames : SchemaItem → List String
  | .definition body => body.typeNames
  | .extension body => body.body.fieldTypes

/-! ## Tokens -/

theorem Text.NameChars.unquoted {name : String} (chars : NameChars name.toList) :
    Unquoted name := fun quote => absurd (chars _ quote) (by decide)

namespace Source

/-- The token is no name, or one of letters, digits and underscores. -/
def Token.HasNameChars (token : Token) : Prop :=
  ∀ text, token = .name text → NameChars text.toList

theorem nameChar_of_isNameChar {c : Char} (h : isNameChar c = true) :
    c = '_' ∨ c.isAlphanum = true := by
  simpa [isNameChar] using h

theorem isNameChar_of_isNameStart {c : Char} (h : isNameStart c = true) : isNameChar c = true := by
  unfold isNameStart at h
  unfold isNameChar Char.isAlphanum
  rw [← Bool.or_assoc, h, Bool.true_or]

theorem hasNameChars_of_readToken {cs rest : List Char} {token : Token}
    (h : readToken cs = some (token, rest)) : token.HasNameChars := by
  rintro text rfl
  unfold readToken at h
  split at h
  · cases h
  · obtain ⟨_, _, h⟩ := Option.map_eq_some_iff.1 h
    cases h
  · obtain ⟨_, _, h⟩ := Option.map_eq_some_iff.1 h
    cases h
  · cases h
  · split at h
    · cases h
    split at h
    · rename_i starts
      cases h
      rw [String.toList_ofList]
      refine List.forall_mem_cons.2 ⟨nameChar_of_isNameChar (isNameChar_of_isNameStart starts), ?_⟩
      exact fun c hm => nameChar_of_isNameChar (List.all_eq_true.1 List.all_takeWhile c hm)
    split at h
    · cases h
    · cases h

theorem hasNameChars_of_scanFor {fuel : Nat} {cs : List Char} {tokens : List Token}
    (h : scanFor fuel cs = some tokens) : ∀ token ∈ tokens, token.HasNameChars := by
  induction fuel generalizing cs tokens with
  | zero =>
    cases cs with
    | nil =>
      cases h
      exact fun token hm => absurd hm List.not_mem_nil
    | cons c cs => cases h
  | succ fuel ih =>
    cases cs with
    | nil =>
      cases h
      exact fun token hm => absurd hm List.not_mem_nil
    | cons c cs =>
      unfold scanFor at h
      split at h
      · exact ih h
      split at h
      · exact ih h
      · obtain ⟨⟨token, rest⟩, ht, h⟩ := Option.bind_eq_some_iff.1 h
        obtain ⟨others, ho, h⟩ := Option.bind_eq_some_iff.1 h
        cases h
        exact List.forall_mem_cons.2 ⟨hasNameChars_of_readToken ht, ih ho⟩

/-- What a reader says of each item holds of all items of a text. -/
theorem of_parseWhole {α : Type} {item : Nat → Parse α} {P : α → Prop}
    (h : ∀ bound, Reads Token.HasNameChars (item bound) P) {text : String} {items : List α}
    (ok : parseWhole item text = some items) : ∀ a ∈ items, P a := by
  unfold parseWhole at ok
  obtain ⟨tokens, scanned, ok⟩ := Option.bind_eq_some_iff.1 ok
  obtain ⟨⟨_, rest⟩, made, ok⟩ := Option.map_eq_some_iff.1 ok
  cases ok
  unfold scan at scanned
  obtain ⟨others, scanned, he⟩ := Option.bind_eq_some_iff.1 scanned
  split at he
  · cases he
    exact (reads_readAll (h _) _ _ _ _ (hasNameChars_of_scanFor scanned) made).2
  · cases he

/-! ## Executable documents -/

variable {Kept : Token → Prop}

/-- The names in selections that are read are tokens. -/
theorem reads_readSelections (bound : Nat) : Reads Kept (readSelections bound) fun selections =>
    ∀ name ∈ Selection.namesOf selections, Kept (.name name) := by
  induction bound with
  | zero => exact reads_failure
  | succ bound ih =>
    have field : ∀ (alias? : Option String) (name : String), Kept (.name (alias?.getD name)) →
        Kept (.name name) → Reads Kept (do
          let arguments ← readArguments bound
          let directives ← readDirectives bound
          let selections ←
            if (← peek?) = some (.mark '\x7b') then readSelections bound else pure []
          return Selection.field { alias?, name, arguments, directives } selections)
            fun selection => ∀ name ∈ selection.names, Kept (.name name) := by
      intro alias? name ha hn
      refine (leaves_readArguments _).bind fun arguments _ =>
        (leaves_readDirectives _).bind fun directives _ => leaves_peek?.bind fun next _ => ?_
      split
      · refine ih.bind fun inner hi => reads_pure ?_
        simpa [Selection.names] using ⟨ha, hn, hi⟩
      · refine reads_pure ?_
        simpa [Selection.names, Selection.namesOf] using ⟨ha, hn⟩
    have inline : ∀ condition? : Option String, (∀ name ∈ condition?, Kept (.name name)) →
        Reads Kept (do
          let directives ← readDirectives bound
          return Selection.inline condition? directives (← readSelections bound))
            fun selection => ∀ name ∈ selection.names, Kept (.name name) := by
      intro condition? hc
      refine (leaves_readDirectives _).bind fun directives _ => ih.bind fun inner hi =>
        reads_pure ?_
      simpa [Selection.names, or_imp, forall_and] using ⟨hc, hi⟩
    unfold readSelections
    dsimp only
    refine (leaves_expectMark _).bind fun _ _ => ?_
    refine (reads_readSome (P := fun selection =>
      ∀ name ∈ selection.names, Kept (.name name)) ?_ _ _).mono fun selections all => ?_
    · refine (leaves_accept _).bind fun dots _ => ?_
      split
      · refine (leaves_accept _).bind fun conditional _ => ?_
        split
        · exact reads_readName.bind fun condition hc => inline (some condition) (by simpa using hc)
        · refine reads_readName?.bind fun fragment? hf => ?_
          cases fragment? with
          | none => exact inline none (by simp)
          | some fragment =>
            refine (leaves_readDirectives _).bind fun directives _ => reads_pure ?_
            simpa [Selection.names] using hf
      · refine reads_readName.bind fun first hf => (leaves_accept _).bind fun aliased _ => ?_
        split
        · exact reads_readName.bind fun name hn => field (some first) name hf hn
        · exact field none first hf hf
    · intro name hn
      obtain ⟨selection, hs, hn⟩ := Selection.mem_namesOf.1 hn
      exact all selection hs name hn

theorem reads_readOperation (kind : OperationKind) (bound : Nat) :
    Reads Kept (readOperation kind bound) fun definition =>
      ∀ name ∈ definition.allNames, Kept (.name name) := by
  refine reads_readName?.bind fun name? hn => ?_
  refine (reads_readGroup (P := fun _ => True) ?_ _ _ _).bind fun inputs _ => ?_
  · refine (leaves_expectMark _).bind fun _ _ => reads_readName.bind fun name _ => ?_
    refine (leaves_expectMark _).bind fun _ _ => (reads_readType bound).bind fun type _ => ?_
    exact (leaves_readDefault? bound).bind fun default? _ => reads_pure trivial
  · refine (leaves_readDirectives bound).bind fun directives _ => ?_
    refine (reads_readSelections bound).bind fun selections hs => reads_pure ?_
    exact List.forall_mem_append.2 ⟨fun name hm => hn name (Option.mem_toList.1 hm), hs⟩

theorem reads_readFragment (bound : Nat) : Reads Kept (readFragment bound) fun definition =>
    ∀ name ∈ definition.allNames, Kept (.name name) := by
  refine reads_readName.bind fun name hn => (leaves_expect _).bind fun _ _ => ?_
  refine reads_readName.bind fun onType ht => (leaves_readDirectives bound).bind fun _ _ => ?_
  refine (reads_readSelections bound).bind fun selections hs => reads_pure ?_
  exact List.forall_mem_cons.2 ⟨hn, List.forall_mem_cons.2 ⟨ht, hs⟩⟩

theorem reads_readDefinition (bound : Nat) : Reads Kept (readDefinition bound) fun definition =>
    ∀ name ∈ definition.allNames, Kept (.name name) := by
  refine reads_readName?.bind fun name? _ => ?_
  split
  · exact reads_readOperation .query bound
  · exact reads_readOperation .mutation bound
  · exact reads_readOperation .subscription bound
  · exact reads_readFragment bound
  · exact reads_failure
  · exact (reads_readSelections bound).bind fun selections hs => reads_pure hs

/-! ## Schema documents -/

theorem leaves_readDescription? : Leaves Kept readDescription? := by
  refine reads_get fun tokens kept => ?_
  split
  · rw [List.forall_mem_cons] at kept
    refine reads_set kept.2 ?_
    split
    · exact reads_pure trivial
    · exact reads_failure
  · rw [List.forall_mem_cons] at kept
    exact reads_set kept.2 (reads_pure trivial)
  · exact reads_pure trivial

theorem leaves_readInputValue (bound : Nat) : Leaves Kept (readInputValue bound) := by
  refine leaves_readDescription?.bind fun _ _ => reads_readName.bind fun _ _ => ?_
  refine (leaves_expectMark _).bind fun _ _ => (reads_readType bound).bind fun _ _ => ?_
  refine (leaves_readDefault? bound).bind fun _ _ => ?_
  exact (leaves_readDirectives bound).bind fun _ _ => reads_pure trivial

theorem reads_readField (bound : Nat) :
    Reads Kept (readField bound) fun field => Kept (.name field.type.baseName) := by
  refine leaves_readDescription?.bind fun _ _ => reads_readName.bind fun _ _ => ?_
  refine (reads_readGroup (leaves_readInputValue bound) _ _ _).bind fun _ _ => ?_
  refine (leaves_expectMark _).bind fun _ _ => (reads_readType bound).bind fun type ht => ?_
  exact (leaves_readDirectives bound).bind fun _ _ => reads_pure ht

theorem leaves_readEnumValue (bound : Nat) : Leaves Kept (readEnumValue bound) := by
  refine leaves_readDescription?.bind fun _ _ => reads_readName.bind fun _ _ => ?_
  exact (leaves_readDirectives bound).bind fun _ _ => reads_pure trivial

/-- Names after a mark or a word, with a mark between neighbours that may also lead them. -/
theorem leaves_readListed (word : Token) (separator : Char) (bound : Nat) : Leaves Kept (do
    if ← accept word then
      let _ ← accept (.mark separator)
      readSeparated separator readName bound
    else return []) := by
  refine (leaves_accept _).bind fun accepted _ => ?_
  split
  · refine (leaves_accept _).bind fun _ _ => ?_
    exact (reads_readSeparated reads_readName _ _).mono fun _ _ => trivial
  · exact reads_pure trivial

theorem reads_readBody (kind : TypeKind) (bound : Nat) : Reads Kept (readBody kind bound)
    fun read => ∀ name ∈ read.2.fieldTypes, Kept (.name name) := by
  have fields : ∀ {fields : List FieldDefinition},
      (∀ field ∈ fields, Kept (.name field.type.baseName)) →
        ∀ name ∈ fields.map (·.type.baseName), Kept (.name name) := by
    intro fields h name hn
    obtain ⟨field, hf, rfl⟩ := List.mem_map.1 hn
    exact h field hf
  cases kind with
  | enum =>
    refine (leaves_readDirectives bound).bind fun _ _ => ?_
    refine (reads_readGroup (leaves_readEnumValue bound) _ _ _).bind fun _ _ => reads_pure ?_
    exact fun _ hn => absurd hn List.not_mem_nil
  | inputObject =>
    refine (leaves_readDirectives bound).bind fun _ _ => ?_
    refine (reads_readGroup (leaves_readInputValue bound) _ _ _).bind fun _ _ => reads_pure ?_
    exact fun _ hn => absurd hn List.not_mem_nil
  | interface =>
    refine (leaves_readListed _ _ bound).bind fun _ _ => ?_
    refine (leaves_readDirectives bound).bind fun _ _ => ?_
    exact (reads_readGroup (reads_readField bound) _ _ _).bind fun _ hf => reads_pure (fields hf)
  | object =>
    refine (leaves_readListed _ _ bound).bind fun _ _ => ?_
    refine (leaves_readDirectives bound).bind fun _ _ => ?_
    exact (reads_readGroup (reads_readField bound) _ _ _).bind fun _ hf => reads_pure (fields hf)
  | scalar =>
    refine (leaves_readDirectives bound).bind fun _ _ => reads_pure ?_
    exact fun _ hn => absurd hn List.not_mem_nil
  | union =>
    refine (leaves_readDirectives bound).bind fun _ _ => ?_
    refine (leaves_readListed _ _ bound).bind fun _ _ => reads_pure ?_
    exact fun _ hn => absurd hn List.not_mem_nil

theorem mem_names_addRoot {roots chosen : RootTypes} {key type : String}
    (h : addRoot roots key type = some chosen) {name : String} (hn : name ∈ chosen.names) :
    name ∈ roots.names ∨ name = type := by
  unfold RootTypes.names at *
  simp only [List.mem_append, Option.mem_toList] at *
  unfold addRoot at h
  split at h
  · split at h
    · cases h
      rcases hn with (hn | hn) | hn
      · exact .inr (Option.some.inj hn).symm
      · exact .inl (.inl (.inr hn))
      · exact .inl (.inr hn)
    · cases h
  · split at h
    · cases h
      rcases hn with (hn | hn) | hn
      · exact .inl (.inl (.inl hn))
      · exact .inr (Option.some.inj hn).symm
      · exact .inl (.inr hn)
    · cases h
  · split at h
    · cases h
      rcases hn with (hn | hn) | hn
      · exact .inl (.inl (.inl hn))
      · exact .inl (.inl (.inr hn))
      · exact .inr (Option.some.inj hn).symm
    · cases h
  · cases h

theorem forall_names_foldlM_addRoot {entries : List (String × String)} {roots chosen : RootTypes}
    (hs : ∀ name ∈ roots.names, Kept (.name name)) (he : ∀ entry ∈ entries, Kept (.name entry.2))
    (h : entries.foldlM (fun roots (key, type) => addRoot roots key type) roots = some chosen) :
    ∀ name ∈ chosen.names, Kept (.name name) := by
  induction entries generalizing roots with
  | nil =>
    cases h
    exact hs
  | cons entry rest ih =>
    rw [List.forall_mem_cons] at he
    rw [List.foldlM_cons] at h
    obtain ⟨next, hn, h⟩ := Option.bind_eq_some_iff.1 h
    refine ih (fun name hm => ?_) he.2 h
    rcases mem_names_addRoot hn hm with hm | rfl
    · exact hs name hm
    · exact he.1

theorem reads_readRoots (bound : Nat) : Reads Kept (readRoots bound) fun roots =>
    ∀ name ∈ roots.names, Kept (.name name) := by
  unfold readRoots
  dsimp only
  refine (leaves_readDirectives bound).bind fun directives _ => (leaves_expectMark _).bind
    fun _ _ => ?_
  refine (reads_readUntil (P := fun entry => Kept (.name entry.2)) ?_ _ _).bind fun entries he => ?_
  · refine reads_readName.bind fun key _ => (leaves_expectMark _).bind fun _ _ => ?_
    exact reads_readName.bind fun type ht => reads_pure ht
  · split
    · rename_i chosen
      exact reads_pure (forall_names_foldlM_addRoot (by simp [RootTypes.names]) he chosen)
    · exact reads_failure

theorem leaves_readDirectiveDefinition (description? : Option String) (bound : Nat) :
    Leaves Kept (readDirectiveDefinition description? bound) := by
  have location : Leaves Kept readLocation := by
    refine reads_readName.bind fun name _ => ?_
    split
    · exact reads_pure trivial
    · exact reads_failure
  have locations := (reads_readSeparated (h := location) '|' bound).mono fun _ _ => trivial
  refine (leaves_expectMark _).bind fun _ _ => reads_readName.bind fun name _ => ?_
  refine (reads_readGroup (leaves_readInputValue bound) _ _ _).bind fun _ _ => ?_
  refine (leaves_accept _).bind fun _ _ => (leaves_expect _).bind fun _ _ => ?_
  refine (leaves_accept _).bind fun led _ => leaves_peek?.bind fun next _ => ?_
  split
  · exact locations.bind fun _ _ => reads_pure trivial
  · exact locations.bind fun _ _ => reads_pure trivial
  · exact reads_pure trivial

theorem reads_readDescribed (description? : Option String) (word : String) (bound : Nat) :
    Reads Kept (readDescribed description? word bound) fun definition =>
      ∀ name ∈ definition.typeNames, Kept (.name name) := by
  unfold readDescribed
  dsimp only
  split
  · refine (leaves_readDirectiveDefinition description? bound).bind fun _ _ => reads_pure ?_
    exact fun _ hn => absurd hn List.not_mem_nil
  · split
    · refine reads_readName.bind fun name hn => (reads_readBody _ bound).bind fun read hf => ?_
      exact reads_pure (List.forall_mem_cons.2 ⟨hn, hf⟩)
    · exact reads_failure

theorem reads_readExtension (bound : Nat) : Reads Kept (readExtension bound) fun extension =>
    ∀ name ∈ extension.body.fieldTypes, Kept (.name name) := by
  refine reads_readName.bind fun word _ => ?_
  split
  · refine reads_readName.bind fun name _ => (reads_readBody _ bound).bind ?_
    rintro ⟨directives, body⟩ hf
    dsimp only
    split
    · exact reads_pure hf
    · exact reads_failure
  · exact reads_failure

theorem reads_readSchemaItem (bound : Nat) : Reads Kept (readSchemaItem bound) fun item =>
    ∀ name ∈ item.typeNames, Kept (.name name) := by
  refine leaves_readDescription?.bind fun description? _ => ?_
  cases description? with
  | some text =>
    refine reads_readName.bind fun word _ => ?_
    exact (reads_readDescribed (some text) word bound).bind fun _ hd => reads_pure hd
  | none =>
    refine reads_readName.bind fun word _ => ?_
    split
    · exact (reads_readRoots bound).bind fun _ hr => reads_pure hr
    · exact (reads_readExtension bound).bind fun _ he => reads_pure he
    · exact (reads_readDescribed none _ bound).bind fun _ hd => reads_pure hd

end Source

/-! ## Schemas -/

theorem TypeBody.fieldTypes_append? {body addition joined : TypeBody}
    (h : body.append? addition = some joined) :
    joined.fieldTypes = body.fieldTypes ++ addition.fieldTypes := by
  cases body <;> cases addition <;> cases h <;> simp [fieldTypes, outputFields]

namespace Schema

variable {Good : String → Prop}

theorem forall_typeNames_modifyLast {definitions : List SchemaDefinition} {name : String}
    {change : TypeDefinition → TypeDefinition}
    (h : ∀ definition ∈ definitions, ∀ n ∈ definition.typeNames, Good n)
    (changed : ∀ type, lastType? name definitions = some type →
      ∀ n ∈ (SchemaDefinition.type (change type)).typeNames, Good n) :
    ∀ definition ∈ modifyLast name change definitions, ∀ n ∈ definition.typeNames, Good n := by
  induction definitions with
  | nil => exact h
  | cons definition rest ih =>
    rw [List.forall_mem_cons] at h
    cases definition with
    | type type =>
      unfold modifyLast
      unfold lastType? at changed
      split
      · rename_i last
        rw [Option.isNone_iff_eq_none] at last
        refine List.forall_mem_cons.2 ⟨changed type ?_, h.2⟩
        rw [last.2]
        exact if_pos last.1
      · refine List.forall_mem_cons.2 ⟨h.1, ih h.2 fun later hl => changed later ?_⟩
        rw [hl]
    | roots roots => exact List.forall_mem_cons.2 ⟨h.1, ih h.2 changed⟩
    | directive directive => exact List.forall_mem_cons.2 ⟨h.1, ih h.2 changed⟩

theorem forall_typeNames_extend {definitions : List SchemaDefinition} {extension : TypeExtension}
    (h : ∀ definition ∈ definitions, ∀ n ∈ definition.typeNames, Good n)
    (he : ∀ n ∈ extension.body.fieldTypes, Good n) :
    ∀ definition ∈ (extend definitions extension).value, ∀ n ∈ definition.typeNames, Good n := by
  unfold extend
  cases hl : lastType? extension.name definitions with
  | none => exact h
  | some type =>
    dsimp only
    cases hj : type.body.append? extension.body with
    | none => exact h
    | some joined =>
      refine forall_typeNames_modifyLast h fun last ht => ?_
      obtain rfl : type = last := Option.some.inj (hl.symm.trans ht)
      have own := List.forall_mem_cons.1 (h _ (mem_of_lastType? hl).1)
      refine List.forall_mem_cons.2 ⟨own.1, fun n hn => ?_⟩
      rw [TypeBody.fieldTypes_append? hj] at hn
      rcases List.mem_append.1 hn with hn | hn
      · exact own.2 n hn
      · exact he n hn

theorem forall_typeNames_foldlM_extend {extensions : List TypeExtension}
    {definitions : List SchemaDefinition}
    (h : ∀ definition ∈ definitions, ∀ n ∈ definition.typeNames, Good n)
    (he : ∀ extension ∈ extensions, ∀ n ∈ extension.body.fieldTypes, Good n) :
    ∀ definition ∈ (extensions.foldlM extend definitions).value,
      ∀ n ∈ definition.typeNames, Good n := by
  induction extensions generalizing definitions with
  | nil => exact h
  | cons extension rest ih =>
    rw [List.forall_mem_cons] at he
    rw [List.foldlM_cons, Logged.value_bind]
    exact ih (forall_typeNames_extend h he.1) he.2

theorem forall_typeNames_ofDocuments {documents : List SchemaDocument}
    (h : ∀ document ∈ documents, ∀ item ∈ document, ∀ n ∈ item.typeNames, Good n) :
    ∀ n ∈ (ofDocuments documents).value.typeNames, Good n := by
  have items : ∀ item ∈ documents.flatten, ∀ n ∈ item.typeNames, Good n := by
    intro item hm
    obtain ⟨document, hd, hm⟩ := List.mem_flatten.1 hm
    exact h document hd item hm
  have merged : ∀ definition ∈ ((extensions documents.flatten).foldlM extend
      (ownDefinitions documents.flatten)).value, ∀ n ∈ definition.typeNames, Good n := by
    refine forall_typeNames_foldlM_extend (fun definition hm => ?_) fun extension hm => ?_
    · obtain ⟨item, hi, he⟩ := List.mem_filterMap.1 hm
      cases item with
      | definition body =>
        cases he
        exact items _ hi
      | extension body => cases he
    · obtain ⟨item, hi, he⟩ := List.mem_filterMap.1 hm
      cases item with
      | definition body => cases he
      | extension body =>
        cases he
        exact items _ hi
  intro n hn
  obtain ⟨definition, hd, hn⟩ := List.mem_flatMap.1 hn
  refine merged definition ?_ n hn
  unfold ofDocuments ofDocument at hd
  rw [Logged.value_bind, Logged.value_pure, definitions_ofDefinitions] at hd
  exact hd

/-- A root type is chosen in the definitions, or has the name that stands for its kind. -/
theorem forall_rootType? {definitions : List SchemaDefinition}
    (h : ∀ n ∈ (ofDefinitions definitions).typeNames, Good n)
    (names : ∀ n ∈ ["Query", "Mutation", "Subscription"], Good n)
    {kind : OperationKind} {root : String}
    (hr : (ofDefinitions definitions).rootType? kind = some root) : Good root := by
  have named : ∀ name : String, objectNamed? definitions name = some root → root = name := by
    intro name ho
    unfold objectNamed? at ho
    split at ho
    · split at ho
      · exact (Option.some.inj ho).symm
      · cases ho
    · cases ho
  unfold ofDefinitions at hr
  cases hl : lastRoots? definitions with
  | some roots =>
    rw [hl] at hr
    obtain ⟨definition, hd, he⟩ := List.mem_filterMap.1 (List.mem_of_getLast? hl)
    have chosen : ∀ n ∈ roots.names, Good n := by
      cases definition <;> cases he
      rw [← definitions_ofDefinitions definitions] at hd
      exact fun n hn => h n (List.mem_flatMap.2 ⟨_, hd, hn⟩)
    refine chosen root ?_
    unfold RootTypes.names
    cases kind <;> simp_all [rootType?]
  | none =>
    rw [hl] at hr
    cases kind with
    | query => exact named "Query" hr ▸ names _ (by decide)
    | mutation => exact named "Mutation" hr ▸ names _ (by decide)
    | subscription => exact named "Subscription" hr ▸ names _ (by decide)

end Schema

/-! ## What has been read -/

theorem FragmentRegistry.mem_of_mem_values {fragments : List LoadedFragment}
    {loaded : LoadedFragment} (h : loaded ∈ (ofFragments fragments).values) :
    loaded ∈ fragments := by
  suffices run : ∀ registry : FragmentRegistry, loaded ∈ (fragments.foldl
      (fun registry loaded => registry.insertNew loaded.fragment.name loaded) registry).values →
        loaded ∈ registry.values ∨ loaded ∈ fragments from (run ∅ h).resolve_left List.not_mem_nil
  clear h
  induction fragments with
  | nil => exact fun registry h => .inl h
  | cons first rest ih =>
    intro registry h
    rcases ih _ h with h | h
    · rcases OrderedMap.mem_values_of_insertNew h with h | rfl
      · exact .inl h
      · exact .inr List.mem_cons_self
    · exact .inr (List.mem_cons_of_mem _ h)

theorem Document.nameChars_allNames {text : String} {document : Document}
    (read : Document.parse? text = some document) {definition : Definition}
    (hd : definition ∈ document) : ∀ name ∈ definition.allNames, NameChars name.toList :=
  fun name hn => Source.of_parseWhole Source.reads_readDefinition read definition hd name hn _ rfl

theorem Document.nameChars_fragment {text : String} {document : Document}
    (read : Document.parse? text = some document) {fragment : Fragment}
    (hf : fragment ∈ document.fragments) :
    NameChars fragment.name.toList ∧ NameChars fragment.onType.toList := by
  obtain ⟨definition, hd, he⟩ := List.mem_filterMap.1 hf
  cases definition with
  | operation operation => cases he
  | fragment fragment =>
    cases he
    have names := nameChars_allNames read hd
    exact ⟨names _ List.mem_cons_self, names _ (List.mem_cons_of_mem _ List.mem_cons_self)⟩

namespace OperationGenerator

variable {documents : List SchemaDocument} {files : List DocumentFile}
  (schemas : ∀ document ∈ documents, ∃ text, SchemaDocument.parse? text = some document)
  (read : ∀ file ∈ files, ∃ text, Document.parse? text = some file.document)

include schemas in
theorem nameChars_schema :
    ∀ name ∈ (Schema.ofDocuments documents).value.typeNames, NameChars name.toList := by
  refine Schema.forall_typeNames_ofDocuments fun document hd item hi name hn => ?_
  obtain ⟨text, ht⟩ := schemas document hd
  exact Source.of_parseWhole Source.reads_readSchemaItem ht item hi name hn _ rfl

include read in
theorem nameChars_fragments {external : List LoadedFragment}
    (others : ∀ loaded ∈ external, ∃ text document, Document.parse? text = some document ∧
      loaded.fragment ∈ document.fragments) :
    ∀ loaded ∈ (FragmentRegistry.ofDocument (DocumentFile.concat files) external).values,
      NameChars loaded.fragment.name.toList ∧ NameChars loaded.fragment.onType.toList := by
  intro loaded hm
  rcases List.mem_append.1 (FragmentRegistry.mem_of_mem_values hm) with hm | hm
  · obtain ⟨fragment, hf, rfl⟩ := List.mem_map.1 hm
    obtain ⟨definition, hd, he⟩ := List.mem_filterMap.1 hf
    obtain ⟨file, hfile, hd⟩ := List.mem_flatMap.1 hd
    obtain ⟨text, ht⟩ := read file hfile
    exact Document.nameChars_fragment ht (List.mem_filterMap.2 ⟨definition, hd, he⟩)
  · obtain ⟨text, document, ht, hf⟩ := others loaded hm
    exact Document.nameChars_fragment ht hf

include schemas read in
theorem nameChars_of_read {definition : Definition}
    (hd : definition ∈ DocumentFile.concat files) {parent : String}
    (hp : (Schema.ofDocuments documents).value.selectedType? definition = some parent) :
    NameChars parent.toList ∧
      ∀ name ∈ Selection.namesOf definition.selections, NameChars name.toList := by
  obtain ⟨file, hf, hd⟩ := List.mem_flatMap.1 hd
  obtain ⟨text, ht⟩ := read file hf
  have names := fun name hn =>
    Document.nameChars_allNames ht hd name (definition.names_subset_allNames hn)
  cases definition with
  | fragment fragment =>
    cases hp
    exact List.forall_mem_cons.1 names
  | operation operation =>
    have good : ∀ n ∈ ["Query", "Mutation", "Subscription"], NameChars n.toList := by decide
    exact ⟨Schema.forall_rootType? (nameChars_schema schemas) good hp, names⟩

include schemas read in
/-- Names that have been read hold no quotation marks. -/
theorem allUnquoted_selectionContext {external : List LoadedFragment}
    (others : ∀ loaded ∈ external, ∃ text document, Document.parse? text = some document ∧
      loaded.fragment ∈ document.fragments) (options : Options) :
    (ofSchema (Schema.ofDocuments documents).value options
      (.ofDocument (DocumentFile.concat files) external)).selectionContext.AllUnquoted where
  schema name hn := (nameChars_schema schemas name hn).unquoted
  fragments loaded hm := (nameChars_fragments read others loaded hm).2.unquoted

include schemas read in
theorem namesUnquoted_of_read {definition : Definition}
    (hd : definition ∈ DocumentFile.concat files) {parent : String}
    (hp : (Schema.ofDocuments documents).value.selectedType? definition = some parent) :
    SelectionContext.NamesUnquoted parent definition.selections := by
  obtain ⟨parent_chars, chars⟩ := nameChars_of_read schemas read hd hp
  exact ⟨parent_chars.unquoted, fun name hn => (chars name hn).unquoted⟩

end OperationGenerator

end SchemaBindings
