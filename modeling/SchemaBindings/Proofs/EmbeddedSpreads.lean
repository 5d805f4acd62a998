import SchemaBindings.Proofs.RepeatedSelections

/-!
# Embedded spreads

Which spreads a struct embeds. A spread of a known fragment adds one line with the type of the
fragment: to the struct itself where its list of selections is flattened into the struct and the
fragment is no branch (`SpreadInto`), and else to a branch of the struct. A branch is for the inline
fragments and the spreads on its type (`branchLists`), so that the same is said of it.

`spreadSource` tells where each line comes from that holds a struct or embeds one;
`embedsThroughout` draws from it that each struct of a rendering, at any depth, embeds the spreads
in its selections and nothing else (`EmbedsSpreads`).
-/

namespace SchemaBindings

theorem FragmentEntry.embedded_mem_lines (type : String) :
    .embedded type ∈ (FragmentEntry.spread type).lines := List.mem_singleton_self _

namespace SelectionContext

open Selection (heights inlinesUnder)

variable {context : SelectionContext} {parent : String}

/-! ## Spreads in structs -/

/-- The type that a spread of the fragment stands for. -/
def spreadType (context : SelectionContext) (loaded : LoadedFragment) : String :=
  fragmentTypeName context.resolver.names context.options.qualifier? loaded.fragment.name
    loaded.isExternal

/-- A spread that adds a line to a struct: it stands in a list of selections that is flattened into
the struct, and is of a known fragment that is no branch there. -/
inductive SpreadInto (context : SelectionContext) (parent : String)
    (lists : List (List Selection)) : String → LoadedFragment → Prop
  | intro {onType name : String} {list : List Selection} {directives : List Directive}
      {loaded : LoadedFragment} (flattened : context.FlattenedInto parent lists onType list)
      (mem : .spread name directives ∈ list) (known : context.fragments.find? name = some loaded)
      (flattens : context.Flattens onType (some loaded.fragment.onType)) :
      SpreadInto context parent lists name loaded

/-- A spread that adds a line to a branch of a struct: the list it stands in is flattened into the
struct, and the fragment is on another type than the abstract one of the list. -/
inductive SpreadInBranch (context : SelectionContext) (parent : String)
    (lists : List (List Selection)) : String → LoadedFragment → Prop
  | intro {onType name : String} {list : List Selection} {directives : List Directive}
      {loaded : LoadedFragment} (flattened : context.FlattenedInto parent lists onType list)
      (mem : .spread name directives ∈ list) (known : context.fragments.find? name = some loaded)
      (branches : context.isBranch onType loaded.fragment.onType = true) :
      SpreadInBranch context parent lists name loaded

/-- The spreads in the selections of a struct are embedded in it or in its branches. -/
structure HoldsSpreads (context : SelectionContext) (parent : String)
    (lists : List (List Selection)) (lines : List StructLine) : Prop where
  embedded : ∀ name loaded, context.SpreadInto parent lists name loaded →
    context.spreadType loaded ∈ StructLine.texts lines
  branched : ∀ name loaded, context.SpreadInBranch parent lists name loaded →
    ∃ identifier inner,
      (StructLine.branch identifier loaded.fragment.onType inner).text ∈ StructLine.texts lines ∧
        context.spreadType loaded ∈ StructLine.texts inner

/-- The spreads in the selections of a struct are embedded in it or in its branches, and nothing
else is embedded in it. -/
structure EmbedsSpreads (context : SelectionContext) (parent : String)
    (lists : List (List Selection)) (lines : List StructLine) : Prop
    extends context.HoldsSpreads parent lists lines where
  sound : ∀ type, .embedded type ∈ lines →
    ∃ name loaded, context.SpreadInto parent lists name loaded ∧ type = context.spreadType loaded

namespace HoldsSpreads

variable {lists : List (List Selection)} {lines more : List StructLine}

theorem mono (h : context.HoldsSpreads parent lists lines)
    (subset : StructLine.texts lines ⊆ StructLine.texts more) :
    context.HoldsSpreads parent lists more := by
  refine ⟨fun name loaded into => subset (h.embedded name loaded into), ?_⟩
  intro name loaded beside
  obtain ⟨identifier, inner, hb, ht⟩ := h.branched name loaded beside
  exact ⟨identifier, inner, subset hb, ht⟩

theorem of_forall (h : ∀ list ∈ lists, context.HoldsSpreads parent [list] lines) :
    context.HoldsSpreads parent lists lines := by
  refine ⟨?_, ?_⟩
  · rintro name loaded ⟨flattened, mem, known, flattens⟩
    obtain ⟨list, hl, flattened⟩ := FlattenedInto.iff_exists.1 flattened
    exact (h list hl).embedded name loaded (.intro flattened mem known flattens)
  · rintro name loaded ⟨flattened, mem, known, branches⟩
    obtain ⟨list, hl, flattened⟩ := FlattenedInto.iff_exists.1 flattened
    exact (h list hl).branched name loaded (.intro flattened mem known branches)

theorem of_spread {name : String} {directives : List Directive} {loaded : LoadedFragment}
    (known : context.fragments.find? name = some loaded) (on : loaded.fragment.onType = parent)
    (written : context.spreadType loaded ∈ StructLine.texts lines) :
    context.HoldsSpreads parent [[.spread name directives]] lines := by
  have alone : ∀ {onType : String} {list : List Selection},
      context.FlattenedInto parent [[.spread name directives]] onType list →
        onType = parent ∧ list = [.spread name directives] := by
    intro onType list flattened
    rcases FlattenedInto.iff_self_or_inline.1 flattened with own | ⟨_, _, _, -, mem, -⟩
    · exact own
    · simp at mem
  refine ⟨?_, ?_⟩
  · rintro other found ⟨flattened, mem, known', -⟩
    obtain ⟨-, rfl⟩ := alone flattened
    rw [List.mem_singleton, Selection.spread.injEq] at mem
    rw [mem.1, known, Option.some.injEq] at known'
    rwa [← known']
  · rintro other found ⟨flattened, mem, known', branches⟩
    obtain ⟨rfl, rfl⟩ := alone flattened
    rw [List.mem_singleton, Selection.spread.injEq] at mem
    rw [mem.1, known, Option.some.injEq] at known'
    rw [← known', on] at branches
    simp [isBranch] at branches

end HoldsSpreads

/-- Whether the selection is a spread of a fragment on the type. -/
def spreadsOn (context : SelectionContext) (onType : String) : Selection → Bool
  | .spread name _ => (context.fragments.find? name).any (·.fragment.onType == onType)
  | .field _ _ => false
  | .inline _ _ _ => false

/-- The lists of selections that a branch for a type is made of: those of the inline fragments on
the type, and each spread of a fragment on it. -/
def branchLists (context : SelectionContext) (onType : String) (selections : List Selection) :
    List (List Selection) :=
  inlinesUnder (some onType) selections ++
    (selections.filter (context.spreadsOn onType)).map fun spread => [spread]

theorem spread_mem_branchLists {onType name : String} {selections : List Selection}
    {directives : List Directive} {loaded : LoadedFragment}
    (mem : .spread name directives ∈ selections)
    (known : context.fragments.find? name = some loaded) (on : loaded.fragment.onType = onType) :
    [.spread name directives] ∈ context.branchLists onType selections := by
  refine List.mem_append_right _ (List.mem_map.2 ⟨_, List.mem_filter.2 ⟨mem, ?_⟩, rfl⟩)
  simp [spreadsOn, known, on]

theorem mem_branchLists {onType : String} {selections list : List Selection}
    (h : list ∈ context.branchLists onType selections) :
    list ∈ inlinesUnder (some onType) selections ∨
      ∃ name directives loaded, list = [.spread name directives] ∧
        .spread name directives ∈ selections ∧ context.fragments.find? name = some loaded ∧
        loaded.fragment.onType = onType := by
  rcases List.mem_append.1 h with h | h
  · exact .inl h
  · obtain ⟨selection, hs, rfl⟩ := List.mem_map.1 h
    obtain ⟨mem, spreads⟩ := List.mem_filter.1 hs
    cases selection with
    | field call inner => cases spreads
    | inline condition? directives inner => cases spreads
    | spread name directives =>
      rw [spreadsOn, Option.any_eq_true] at spreads
      obtain ⟨loaded, known, on⟩ := spreads
      exact .inr ⟨name, directives, loaded, rfl, mem, known, beq_iff_eq.1 on⟩

/-! ## The entries of a struct -/

/-- The entries for lists of selections: inline ones are what the lists are rendered to, of lists
that are written alike only once, and others are for lists of one spread. -/
structure Fills (context : SelectionContext) (parent : String) (lists : List (List Selection))
    (entries : List FragmentEntry) : Prop where
  inlines : ∀ lines, .inline lines ∈ entries →
    ∃ list ∈ lists, context.Renders parent true list lines
  spreads : ∀ type, .spread type ∈ entries → ∃ name directives loaded,
    [.spread name directives] ∈ lists ∧ context.fragments.find? name = some loaded ∧
      loaded.fragment.onType = parent ∧ type = context.spreadType loaded
  covers : ∀ list ∈ lists,
    (∃ lines, context.Renders parent true list lines ∧
      ∃ entry ∈ entries, (FragmentEntry.inline lines).agrees entry = true) ∨
    ∃ name directives loaded, list = [.spread name directives] ∧
      context.fragments.find? name = some loaded ∧ loaded.fragment.onType = parent ∧
      .spread (context.spreadType loaded) ∈ entries

theorem Fills.of_renders {selections : List Selection} {lines : List StructLine}
    (h : context.Renders parent true selections lines) :
    context.Fills parent [selections] [.inline lines] := by
  refine ⟨?_, ?_, ?_⟩
  · intro others ho
    rw [List.mem_singleton, FragmentEntry.inline.injEq] at ho
    subst ho
    exact ⟨selections, List.mem_singleton_self _, h⟩
  · intro type ht
    simp at ht
  · intro list hl
    obtain rfl := List.mem_singleton.1 hl
    exact .inl ⟨lines, h, _, List.mem_singleton_self _, FragmentEntry.agrees_self _⟩

/-- The entry that is written like that for a spread is that entry. -/
theorem eq_of_spreadEntry_agrees {loaded : LoadedFragment} {entry : FragmentEntry}
    (h : (context.spreadEntry loaded).agrees entry = true) :
    entry = .spread (context.spreadType loaded) := by
  cases entry with
  | inline lines => cases h
  | spread type => exact congrArg _ (beq_iff_eq.1 h).symm

theorem KeepsSpreads.spread_mem {selections : List Selection} {collected : Collected}
    (keeps : context.KeepsSpreads selections collected) {name : String}
    {directives : List Directive} {loaded : LoadedFragment}
    (mem : .spread name directives ∈ selections)
    (known : context.fragments.find? name = some loaded) :
    .spread (context.spreadType loaded) ∈
      collected.entriesUnder (some loaded.fragment.onType) := by
  obtain ⟨entry, he, agrees⟩ := keeps name directives loaded mem known
  rwa [eq_of_spreadEntry_agrees agrees] at he

/-- What is collected for a branch fills it. -/
theorem Fills.of_branch {onType : String} {selections : List Selection} {collected : Collected}
    (gathers : context.Gathers context.rendering parent selections collected)
    (keeps : context.KeepsSpreads selections collected)
    (branches : context.isBranch parent onType = true) :
    context.Fills onType (context.branchLists onType selections)
      (collected.entriesUnder (some onType)) := by
  have kept := gathers.keepsApart_branch branches
  refine ⟨?_, ?_, ?_⟩
  · intro lines hl
    obtain ⟨inner, hi, renders⟩ := kept.sound lines hl
    exact ⟨inner, List.mem_append_left _ hi, renders⟩
  · intro type ht
    obtain ⟨name, directives, loaded, mem, known, on, rfl⟩ :=
      gathers.spreads (some onType) type ht
    have on := (Option.some.inj on).symm
    exact ⟨name, directives, loaded, spread_mem_branchLists mem known on, known, on, rfl⟩
  · intro list hl
    rcases mem_branchLists hl with hl | ⟨name, directives, loaded, rfl, mem, known, rfl⟩
    · exact .inl (kept.covers list hl)
    · exact .inr ⟨name, directives, loaded, rfl, known, rfl, keeps.spread_mem mem known⟩

/-! ## The sources of lines -/

/-- Where a line comes from that selections on a type are rendered to, as far as it holds a struct
or embeds one. -/
inductive SpreadSource (context : SelectionContext) (parent : String)
    (selections : List Selection) : StructLine → Prop
  | typename {pointer : Bool} {types : List String} :
      SpreadSource context parent selections (.typename pointer types)
  | leaf {name : String} {type : GoType} :
      SpreadSource context parent selections (.leaf name type)
  | aliased {key name : String} {type : GoType} :
      SpreadSource context parent selections (.aliased key name type)
  | link {key : String} {link : Link} {depth : Nat} {pointer : Bool} {lines : List StructLine}
      (under : DefinedField.link? (context.definedFields parent selections) key = some link)
      (renders : context.Renders link.type.baseName true link.selections lines) :
      SpreadSource context parent selections (.link key depth pointer lines)
  | embedded {name : String} {directives : List Directive} {loaded : LoadedFragment}
      (mem : .spread name directives ∈ selections)
      (known : context.fragments.find? name = some loaded)
      (flattens : context.Flattens parent (some loaded.fragment.onType)) :
      SpreadSource context parent selections (.embedded (context.spreadType loaded))
  | branch {identifier onType : String} {entries : List FragmentEntry}
      (branches : context.isBranch parent onType = true)
      (fills : context.Fills onType (context.branchLists onType selections) entries)
      (inlines : ∀ made, .inline made ∈ entries →
        ∃ inner ∈ inlinesUnder (some onType) selections, context.Renders onType true inner made) :
      SpreadSource context parent selections
        (.branch identifier onType (entries.flatMap (·.lines)))
  | flattened {condition? : Option String} {directives : List Directive}
      {inner : List Selection} {lines : List StructLine} {line : StructLine}
      (flattens : context.Flattens parent condition?)
      (mem : .inline condition? directives inner ∈ selections)
      (renders : context.Renders (condition?.getD parent) false inner lines)
      (line_mem : line ∈ lines) : SpreadSource context parent selections line

variable {selections : List Selection} {withTypename : Bool} {lines : List StructLine}

theorem exists_keeping (h : context.Renders parent withTypename selections lines) :
    ∃ collected links, context.Rendered parent withTypename selections lines collected links ∧
      context.KeepsSpreads selections collected ∧
      (context.rendering parent withTypename selections).outcome =
        .ok (collected.typenameQueried, lines) := by
  obtain ⟨queried, ok⟩ := h
  obtain ⟨collected, collects, makes, rfl⟩ := exists_collected ok
  obtain ⟨links, rendered⟩ := exists_rendered_of_collected collects makes
  exact ⟨collected, links, rendered, keepsSpreads_of_collect collects, ok⟩

theorem spreadSource_fragment {collected : Collected}
    (gathers : context.Gathers context.rendering parent selections collected)
    (keeps : context.KeepsSpreads selections collected) {condition? : Option String}
    {entries : List FragmentEntry} (he : (condition?, entries) ∈ collected.fragments.entries)
    {line : StructLine} (hm : line ∈ context.fragmentLines parent condition? entries) :
    context.SpreadSource parent selections line := by
  rcases gathers.fragmentLine_cases he hm with ⟨onType, identifier, rfl, branches, rfl⟩ |
    ⟨flattens, ⟨type, ⟨name, directives, loaded, mem, known, rfl, rfl⟩, rfl⟩ |
      ⟨directives, inner, lines, mem, renders, hm⟩⟩
  · rw [← Collected.entriesUnder_of_mem he]
    exact .branch branches (.of_branch gathers keeps branches)
      (gathers.keepsApart_branch branches).sound
  · exact .embedded mem known flattens
  · exact .flattened flattens mem renders hm

theorem spreadSource (h : context.Renders parent withTypename selections lines) {line : StructLine}
    (hm : line ∈ lines) : context.SpreadSource parent selections line := by
  obtain ⟨collected, links, rendered, keeps, -⟩ := exists_keeping h
  rw [rendered.lines_eq] at hm
  simp only [List.mem_append, or_assoc] at hm
  rcases hm with hm | hm | hm | hm | hm
  · split at hm
    · obtain ⟨pointer, rfl⟩ := typenameLine?_eq_some (Option.mem_toList.1 hm)
      exact .typename
    · cases hm
  · obtain ⟨⟨key, type⟩, -, rfl⟩ := List.mem_map.1 hm
    exact .leaf
  · obtain ⟨⟨key, name, type⟩, -, rfl⟩ := List.mem_map.1 hm
    exact .aliased
  · obtain ⟨key, link, made, under, renders, rfl⟩ := rendered.exists_link hm
    exact .link under renders
  · obtain ⟨⟨condition?, entries⟩, he, hm⟩ := List.mem_flatMap.1 hm
    exact spreadSource_fragment rendered.gathers keeps he hm

/-! ## Spreads of a rendering -/

theorem spread_or_flattened_of_embedded {parent : String} {withTypename : Bool}
    {selections : List Selection} {lines : List StructLine} {type : String}
    (h : context.Renders parent withTypename selections lines) (hm : .embedded type ∈ lines) :
    (∃ name directives loaded, .spread name directives ∈ selections ∧
        context.fragments.find? name = some loaded ∧
        context.Flattens parent (some loaded.fragment.onType) ∧
        type = context.spreadType loaded) ∨
      ∃ condition? directives inner made, context.Flattens parent condition? ∧
        .inline condition? directives inner ∈ selections ∧
        context.Renders (condition?.getD parent) false inner made ∧ .embedded type ∈ made := by
  cases spreadSource h hm with
  | embedded mem known flattens => exact .inl ⟨_, _, _, mem, known, flattens, rfl⟩
  | flattened flattens mem renders hm => exact .inr ⟨_, _, _, _, flattens, mem, renders, hm⟩

/-- A rendering embeds the spreads in its selections. -/
theorem embedsSpreads_of_renders (h : context.Renders parent withTypename selections lines) :
    context.EmbedsSpreads parent [selections] lines := by
  refine ⟨⟨?_, ?_⟩, fun type hm => ?_⟩
  · rintro name loaded ⟨flattened, mem, known, flattens⟩
    obtain ⟨_, made, renders, subset⟩ := h.exists_texts_subset flattened
    obtain ⟨collected, links, rendered, keeps, -⟩ := exists_keeping renders
    exact subset (StructLine.text_mem_texts
      (rendered.lines_subset flattens (keeps.spread_mem mem known)
        (FragmentEntry.embedded_mem_lines _)))
  · rintro name loaded ⟨flattened, mem, known, branches⟩
    obtain ⟨_, made, renders, subset⟩ := h.exists_texts_subset flattened
    obtain ⟨collected, links, rendered, keeps, -⟩ := exists_keeping renders
    have entry := keeps.spread_mem mem known
    have line := rendered.branch_mem branches (List.ne_nil_of_mem entry)
    exact ⟨_, _, subset (StructLine.text_mem_texts line), StructLine.text_mem_texts
      (List.mem_flatMap.2 ⟨_, entry, FragmentEntry.embedded_mem_lines _⟩)⟩
  · obtain ⟨onType, list, flattened, name, directives, loaded, mem, known, flattens, rfl⟩ :=
      h.exists_flattened spread_or_flattened_of_embedded hm
    exact ⟨name, loaded, .intro flattened mem known flattens, rfl⟩

/-! ## Spreads of every struct -/

/-- The lines of entries embed the spreads in the lists that the entries are for. -/
theorem Fills.embedsSpreads {lists : List (List Selection)} {entries : List FragmentEntry}
    (h : context.Fills parent lists entries) :
    context.EmbedsSpreads parent lists (entries.flatMap (·.lines)) := by
  have entry_texts : ∀ {entry}, entry ∈ entries →
      StructLine.texts entry.lines ⊆ StructLine.texts (entries.flatMap (·.lines)) :=
    fun he => StructLine.texts_subset fun line hm => List.mem_flatMap.2 ⟨_, he, hm⟩
  refine ⟨.of_forall fun list hl => ?_, fun type hm => ?_⟩
  · rcases h.covers list hl with ⟨made, renders, entry, he, agrees⟩ |
      ⟨name, directives, loaded, rfl, known, on, he⟩
    · refine (embedsSpreads_of_renders renders).toHoldsSpreads.mono ?_
      cases entry with
      | spread type => cases agrees
      | inline kept =>
        rw [FragmentEntry.agrees_inline.1 agrees]
        exact entry_texts he
    · exact .of_spread known on
        (entry_texts he (StructLine.text_mem_texts (FragmentEntry.embedded_mem_lines _)))
  · obtain ⟨entry, he, hm⟩ := List.mem_flatMap.1 hm
    cases entry with
    | spread other =>
      obtain ⟨name, directives, loaded, hl, known, on, rfl⟩ := h.spreads other he
      rw [FragmentEntry.lines, List.mem_singleton, StructLine.embedded.injEq] at hm
      refine ⟨name, loaded, .intro (.start hl) (List.mem_singleton_self _) known ?_, hm⟩
      rw [on]
      exact .inr (.inr rfl)
    | inline made =>
      obtain ⟨list, hl, renders⟩ := h.inlines made he
      obtain ⟨name, loaded, into, rfl⟩ := (embedsSpreads_of_renders renders).sound type hm
      obtain ⟨flattened, mem, known, flattens⟩ := into
      exact ⟨name, loaded,
        .intro (FlattenedInto.iff_exists.2 ⟨list, hl, flattened⟩) mem known flattens, rfl⟩

mutual

/-- A struct and every struct in it embed the spreads in their selections: those of a link are the
sub-selections that a list gives for its key, those of a branch the inline fragments and spreads of
a list on its type. -/
inductive EmbedsThroughout (context : SelectionContext) :
    String → List (List Selection) → List StructLine → Prop
  | intro {parent : String} {lists : List (List Selection)} {lines : List StructLine}
      (own : context.EmbedsSpreads parent lists lines)
      (within : ∀ line ∈ lines, EmbedsThroughoutIn context parent lists line) :
      EmbedsThroughout context parent lists lines

/-- Every struct in a line of a struct embeds the spreads in its selections. -/
inductive EmbedsThroughoutIn (context : SelectionContext) :
    String → List (List Selection) → StructLine → Prop
  | typename {parent : String} {lists : List (List Selection)} {pointer : Bool}
      {types : List String} : EmbedsThroughoutIn context parent lists (.typename pointer types)
  | leaf {parent : String} {lists : List (List Selection)} {name : String} {type : GoType} :
      EmbedsThroughoutIn context parent lists (.leaf name type)
  | aliased {parent : String} {lists : List (List Selection)} {key name : String}
      {type : GoType} : EmbedsThroughoutIn context parent lists (.aliased key name type)
  | embedded {parent : String} {lists : List (List Selection)} {type : String} :
      EmbedsThroughoutIn context parent lists (.embedded type)
  | link {parent onType key : String} {lists : List (List Selection)} {list : List Selection}
      {link : Link} {depth : Nat} {pointer : Bool} {lines : List StructLine}
      (flattened : context.FlattenedInto parent lists onType list)
      (under : DefinedField.link? (context.definedFields onType list) key = some link)
      (nested : EmbedsThroughout context link.type.baseName [link.selections] lines) :
      EmbedsThroughoutIn context parent lists (.link key depth pointer lines)
  | branch {parent enclosing identifier onType : String} {lists : List (List Selection)}
      {list : List Selection} {lines : List StructLine}
      (flattened : context.FlattenedInto parent lists enclosing list)
      (branches : context.isBranch enclosing onType = true)
      (nested : EmbedsThroughout context onType (context.branchLists onType list) lines) :
      EmbedsThroughoutIn context parent lists (.branch identifier onType lines)

end

/-- The structs in the lines of selections that are flattened into a struct. -/
theorem embedsThroughoutIn {onType : String} {withTypename : Bool} {selections : List Selection}
    {lines : List StructLine} (renders : context.Renders onType withTypename selections lines)
    {lists : List (List Selection)}
    (flattened : context.FlattenedInto parent lists onType selections) {line : StructLine}
    (hm : line ∈ lines) : context.EmbedsThroughoutIn parent lists line := by
  -- on the nesting depth, since the selections of a link are put together from several fields
  induction hn : heights selections using Nat.strongRecOn
    generalizing parent onType withTypename selections lines lists line with
  | ind n ih =>
    subst hn
    have struct : ∀ {type others entries}, context.Fills type others entries →
        (∀ made, .inline made ∈ entries → ∃ list ∈ others,
          heights list < heights selections ∧ context.Renders type true list made) →
        context.EmbedsThroughout type others (entries.flatMap (·.lines)) := by
      intro type others entries fills inlines
      refine .intro fills.embedsSpreads fun line hm => ?_
      obtain ⟨entry, he, hm⟩ := List.mem_flatMap.1 hm
      cases entry with
      | spread type =>
        rw [FragmentEntry.lines, List.mem_singleton] at hm
        subst hm
        exact .embedded
      | inline made =>
        obtain ⟨list, hl, lower, renders⟩ := inlines made he
        exact ih _ lower renders (.start hl) hm rfl
    cases spreadSource renders hm with
    | typename => exact .typename
    | leaf => exact .leaf
    | aliased => exact .aliased
    | embedded mem known flattens => exact .embedded
    | @link key link depth pointer made under renders =>
      have nested := struct (.of_renders renders) fun others ho => by
        rw [List.mem_singleton, FragmentEntry.inline.injEq] at ho
        subst ho
        exact ⟨_, List.mem_singleton_self _, heights_link_lt under, renders⟩
      rw [List.flatMap_singleton] at nested
      exact .link flattened under nested
    | branch branches fills inlines =>
      refine .branch flattened branches (struct fills fun made hmade => ?_)
      obtain ⟨inner, hi, renders⟩ := inlines made hmade
      obtain ⟨directives, mem⟩ := Selection.mem_inlinesUnder.1 hi
      exact ⟨inner, List.mem_append_left _ hi, Selection.heights_lt_of_inline mem, renders⟩
    | flattened flattens mem renders hm =>
      exact ih _ (Selection.heights_lt_of_inline mem) renders
        (flattened.inline mem flattens) hm rfl

/-- The struct for selections embeds the spreads in them, and so does every struct in it. -/
theorem embedsThroughout {selections : List Selection} {lines : List StructLine}
    (ok : (context.structLines parent selections).outcome = .ok lines) :
    context.EmbedsThroughout parent [selections] lines := by
  have renders : context.Renders parent true selections lines := structLines_eq_ok.1 ok
  exact .intro (embedsSpreads_of_renders renders) fun line hm =>
    embedsThroughoutIn renders (.start (List.mem_singleton_self _)) hm

theorem outcome_rendering_unknown {name : String}
    (unknown : context.fragments.find? name = none) (parent : String) (withTypename : Bool)
    (before after : List Selection) (directives : List Directive) :
    (context.rendering parent withTypename
        (before ++ .spread name directives :: after)).outcome =
      (context.rendering parent withTypename (before ++ after)).outcome := by
  have skipped : ∀ collected : Collected,
      ((.spread name directives :: after).foldlM (context.collectOne context.rendering parent)
          collected).outcome =
        (after.foldlM (context.collectOne context.rendering parent) collected).outcome := by
    intro collected
    rw [List.foldlM_cons, Generation.outcome_bind, collectOne, outcome_collectSpread, unknown]
    rfl
  have collects : (context.collect context.rendering parent
        (before ++ .spread name directives :: after)).outcome =
      (context.collect context.rendering parent (before ++ after)).outcome := by
    unfold collect
    rw [List.foldlM_append, List.foldlM_append, Generation.outcome_bind, Generation.outcome_bind]
    simp only [skipped]
  rw [rendering_eq, rendering_eq, Generation.outcome_bind, Generation.outcome_bind, collects]

end SelectionContext

end SchemaBindings
