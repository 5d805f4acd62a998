import SchemaBindings.Proofs.Rendering

/-!
# Where structs come from

The selections that a struct is made of, at any depth. A struct is for lists of selections on one
type: one list for a whole selection set or for a link, and for a branch those of all its inline
fragments. Inline fragments that are no branches are flattened into the struct (`FlattenedInto`).

`lineSource` tells where each line of a rendering comes from. `PassedOn.everyStruct` draws from it
that what holds of each struct on its own holds of the rendered struct and of every struct in it,
each taken against its own type and selections (`EveryStruct`). Conversely `exists_link_text` and
`exists_branch_text` tell which lines a struct has for its selections.
-/

namespace SchemaBindings

namespace SelectionContext

open Selection (heights inlinesUnder)

variable {context : SelectionContext} {parent : String}

/-! ## Flattened selections -/

/-- Whether an inline fragment adds its lines to the struct of the type it stands on: that type is
not abstract, or the fragment has no type condition, or its condition is that type. -/
def Flattens (context : SelectionContext) (parent : String) (condition? : Option String) : Prop :=
  context.schema.isAbstract parent = false ∨ condition? = none ∨ condition? = some parent

theorem flattens_iff {condition? : Option String} : context.Flattens parent condition? ↔
    context.isBranch parent (condition?.getD parent) = false := by
  unfold Flattens isBranch
  cases condition? with
  | none => simp
  | some onType => cases context.schema.isAbstract parent <;> simp

/-- The lists of selections that make up a struct, with the types they are on: those it is for and,
transitively, those of the inline fragments that are flattened into it. -/
inductive FlattenedInto (context : SelectionContext) (parent : String)
    (lists : List (List Selection)) : String → List Selection → Prop
  | start {list : List Selection} (mem : list ∈ lists) :
      FlattenedInto context parent lists parent list
  | inline {onType : String} {list inner : List Selection} {condition? : Option String}
      {directives : List Directive} (outer : FlattenedInto context parent lists onType list)
      (mem : .inline condition? directives inner ∈ list)
      (flattens : context.Flattens onType condition?) :
      FlattenedInto context parent lists (condition?.getD onType) inner

namespace FlattenedInto

variable {lists : List (List Selection)} {onType : String} {list : List Selection}

theorem trans {inner : String} {deep : List Selection}
    (h : context.FlattenedInto parent lists onType list)
    (hd : context.FlattenedInto onType [list] inner deep) :
    context.FlattenedInto parent lists inner deep := by
  induction hd with
  | start mem =>
    obtain rfl := List.mem_singleton.1 mem
    exact h
  | inline outer mem flattens ih => exact .inline ih mem flattens

theorem iff_exists : context.FlattenedInto parent lists onType list ↔
    ∃ selections ∈ lists, context.FlattenedInto parent [selections] onType list := by
  constructor
  · intro h
    induction h with
    | start mem => exact ⟨_, mem, .start (List.mem_singleton_self _)⟩
    | inline outer mem flattens ih =>
      obtain ⟨selections, hs, h⟩ := ih
      exact ⟨selections, hs, .inline h mem flattens⟩
  · rintro ⟨selections, hs, h⟩
    exact trans (.start hs) h

theorem iff_self_or_inline {selections : List Selection} :
    context.FlattenedInto parent [selections] onType list ↔
      (onType = parent ∧ list = selections) ∨
        ∃ condition? directives inner, context.Flattens parent condition? ∧
          .inline condition? directives inner ∈ selections ∧
          context.FlattenedInto (condition?.getD parent) [inner] onType list := by
  constructor
  · intro h
    induction h with
    | start mem => exact .inl ⟨rfl, List.mem_singleton.1 mem⟩
    | inline outer mem flattens ih =>
      rename_i onType list inner condition? directives
      rcases ih with ⟨rfl, rfl⟩ | ⟨other?, others, first, hf, hm, hi⟩
      · exact .inr ⟨condition?, directives, inner, flattens, mem,
          .start (List.mem_singleton_self _)⟩
      · exact .inr ⟨other?, others, first, hf, hm, .inline hi mem flattens⟩
  · rintro (⟨rfl, rfl⟩ | ⟨condition?, directives, inner, hf, hm, hi⟩)
    · exact .start (List.mem_singleton_self _)
    · exact trans (.inline (.start (List.mem_singleton_self _)) hm hf) hi

theorem heights_lt (h : context.FlattenedInto parent lists onType list) {bound : Nat}
    (low : ∀ selections ∈ lists, heights selections < bound) : heights list < bound := by
  induction h with
  | start mem => exact low _ mem
  | inline outer mem flattens ih => exact Nat.lt_trans (Selection.heights_lt_of_inline mem) ih

end FlattenedInto

/-! ## Structs -/

/-- The lines that selections on a type are rendered to. -/
def Renders (context : SelectionContext) (parent : String) (withTypename : Bool)
    (selections : List Selection) (lines : List StructLine) : Prop :=
  ∃ queried, (context.rendering parent withTypename selections).outcome = .ok (queried, lines)

theorem Renders.unique {withTypename : Bool} {selections : List Selection}
    {lines others : List StructLine} (h : context.Renders parent withTypename selections lines)
    (ho : context.Renders parent withTypename selections others) : lines = others := by
  obtain ⟨queried, h⟩ := h
  obtain ⟨other, ho⟩ := ho
  rw [h, Except.ok.injEq, Prod.mk.injEq] at ho
  exact ho.2

/-- The lines of the struct for lists of selections: those that the lists are rendered to, of lists
that are written alike only once. -/
def IsStruct (context : SelectionContext) (parent : String) (lists : List (List Selection))
    (lines : List StructLine) : Prop :=
  ∃ entries, KeepsApart (context.Renders parent true) lists entries ∧
    lines = entries.flatMap (·.lines)

theorem Renders.inline {withTypename : Bool} {selections inner : List Selection}
    {lines : List StructLine} {condition? : Option String} {directives : List Directive}
    (h : context.Renders parent withTypename selections lines)
    (mem : .inline condition? directives inner ∈ selections) :
    ∃ made, context.Renders (condition?.getD parent)
      (context.isBranch parent (condition?.getD parent)) inner made := by
  obtain ⟨queried, ok⟩ := h
  obtain ⟨collected, links, hr, -⟩ := exists_rendered ok
  obtain ⟨made, renders, -⟩ := (hr.gathers.inlines condition?).covers inner
    (Selection.mem_inlinesUnder.2 ⟨directives, mem⟩)
  exact ⟨made, renders⟩

theorem isStruct_of_renders {selections : List Selection} {lines : List StructLine}
    (h : context.Renders parent true selections lines) :
    context.IsStruct parent [selections] lines :=
  ⟨[.inline lines], .singleton h, (List.append_nil lines).symm⟩

/-- There is a fragment on the type in the selections, an inline one or a spread. -/
def NamesFragmentOn (context : SelectionContext) (selections : List Selection) (onType : String) :
    Prop :=
  (∃ directives inner, .inline (some onType) directives inner ∈ selections) ∨
    ∃ name directives loaded, .spread name directives ∈ selections ∧
      context.fragments.find? name = some loaded ∧ loaded.fragment.onType = onType

/-- Where a line comes from that selections on a type are rendered to. -/
inductive LineSource (context : SelectionContext) (parent : String) (withTypename : Bool)
    (selections : List Selection) : StructLine → Prop
  | typename {pointer : Bool} (asked : withTypename = true) :
      LineSource context parent withTypename selections
        (.typename pointer (context.possibleTypes parent))
  | leaf {field : DefinedField} (mem : field ∈ context.definedFields parent selections)
      (plain : field.isPlain = true) :
      LineSource context parent withTypename selections (.leaf field.key (context.leafType field))
  | aliased {field : DefinedField} (mem : field ∈ context.definedFields parent selections)
      (aliased : field.isAliased = true) :
      LineSource context parent withTypename selections
        (.aliased field.key field.call.name (context.leafType field))
  | link {key : String} {link : Link} {lines : List StructLine}
      (under : DefinedField.link? (context.definedFields parent selections) key = some link)
      (renders : context.Renders link.type.baseName true link.selections lines) :
      LineSource context parent withTypename selections
        (.link key (context.linkType link).depth (context.linkType link).pointer lines)
  | embedded (qualifier? : Option String) (fragment : String) (isExternal : Bool) :
      LineSource context parent withTypename selections
        (.embedded (fragmentTypeName context.resolver.names qualifier? fragment isExternal))
  | branch {identifier onType : String} {lines : List StructLine}
      (branches : context.isBranch parent onType = true)
      (named : context.NamesFragmentOn selections onType)
      (struct : context.IsStruct onType (inlinesUnder (some onType) selections) lines) :
      LineSource context parent withTypename selections (.branch identifier onType lines)
  | flattened {condition? : Option String} {directives : List Directive}
      {inner : List Selection} {lines : List StructLine} {line : StructLine}
      (flattens : context.Flattens parent condition?)
      (mem : .inline condition? directives inner ∈ selections)
      (renders : context.Renders (condition?.getD parent) false inner lines)
      (line_mem : line ∈ lines) : LineSource context parent withTypename selections line

theorem typenameLine?_eq_some {queried : Bool} {line : StructLine}
    (h : context.typenameLine? parent queried = some line) :
    ∃ pointer, line = .typename pointer (context.possibleTypes parent) := by
  dsimp only [typenameLine?] at h
  split at h
  · exact ⟨_, (Option.some.inj h).symm⟩
  · cases h

/-- Each type under which fragments are collected is that of one of them. -/
theorem Gathers.namesFragmentOn {nested : Nested} {selections : List Selection}
    {collected : Collected} (h : context.Gathers nested parent selections collected)
    {onType : String} (hk : some onType ∈ collected.fragments.keys) :
    context.NamesFragmentOn selections onType := by
  obtain ⟨entry, he⟩ := List.exists_mem_of_ne_nil _ (h.nonempty (some onType) hk)
  cases entry with
  | inline lines =>
    obtain ⟨inner, hi, -⟩ := (h.inlines (some onType)).sound lines he
    obtain ⟨directives, hi⟩ := Selection.mem_inlinesUnder.1 hi
    exact .inl ⟨directives, inner, hi⟩
  | spread type =>
    obtain ⟨name, directives, loaded, hs, hl, ht, -⟩ := h.spreads (some onType) type he
    exact .inr ⟨name, directives, loaded, hs, hl, (Option.some.inj ht).symm⟩

/-- The inline fragments under a condition that is flattened are kept apart. -/
theorem Gathers.keepsApart {selections : List Selection} {collected : Collected}
    (h : context.Gathers context.rendering parent selections collected)
    {condition? : Option String} (flattens : context.Flattens parent condition?) :
    KeepsApart (context.Renders (condition?.getD parent) false)
      (inlinesUnder condition? selections) (collected.entriesUnder condition?) := by
  have kept := h.inlines condition?
  unfold WritesInline at kept
  rwa [flattens_iff.1 flattens] at kept

theorem Gathers.keepsApart_branch {selections : List Selection} {collected : Collected}
    (h : context.Gathers context.rendering parent selections collected) {onType : String}
    (branches : context.isBranch parent onType = true) :
    KeepsApart (context.Renders onType true) (inlinesUnder (some onType) selections)
      (collected.entriesUnder (some onType)) := by
  have kept := h.inlines (some onType)
  unfold WritesInline at kept
  rwa [Option.getD_some, branches] at kept

theorem Gathers.fragmentLine_cases {selections : List Selection} {collected : Collected}
    (h : context.Gathers context.rendering parent selections collected)
    {condition? : Option String} {entries : List FragmentEntry}
    (he : (condition?, entries) ∈ collected.fragments.entries) {line : StructLine}
    (hm : line ∈ context.fragmentLines parent condition? entries) :
    (∃ onType identifier, condition? = some onType ∧ context.isBranch parent onType = true ∧
      line = .branch identifier onType (entries.flatMap (·.lines))) ∨
    context.Flattens parent condition? ∧
      ((∃ type, context.EmbedsSpread selections condition? type ∧ line = .embedded type) ∨
        ∃ directives inner lines, .inline condition? directives inner ∈ selections ∧
          context.Renders (condition?.getD parent) false inner lines ∧ line ∈ lines) := by
  have under := Collected.entriesUnder_of_mem he
  rw [fragmentLines_eq] at hm
  cases hb : context.isBranch parent (condition?.getD parent) with
  | true =>
    rw [if_pos hb, List.mem_singleton] at hm
    cases condition? with
    | none => simp [isBranch] at hb
    | some onType => exact .inl ⟨onType, _, rfl, hb, hm⟩
  | false =>
    rw [if_neg (by rw [hb]; exact Bool.false_ne_true)] at hm
    have flattens := flattens_iff.2 hb
    obtain ⟨entry, hentry, hm⟩ := List.mem_flatMap.1 hm
    rw [← under] at hentry
    refine .inr ⟨flattens, ?_⟩
    cases entry with
    | spread type => exact .inl ⟨type, h.spreads condition? type hentry, List.mem_singleton.1 hm⟩
    | inline lines =>
      obtain ⟨inner, hi, renders⟩ := (h.keepsApart flattens).sound lines hentry
      obtain ⟨directives, mem⟩ := Selection.mem_inlinesUnder.1 hi
      exact .inr ⟨directives, inner, lines, mem, renders, hm⟩

/-- Lines of fragments come from the inline fragments and spreads under the same condition. -/
theorem lineSource_fragment {withTypename : Bool} {selections : List Selection}
    {collected : Collected} (h : context.Gathers context.rendering parent selections collected)
    {condition? : Option String} {entries : List FragmentEntry}
    (he : (condition?, entries) ∈ collected.fragments.entries) {line : StructLine}
    (hm : line ∈ context.fragmentLines parent condition? entries) :
    context.LineSource parent withTypename selections line := by
  rcases h.fragmentLine_cases he hm with ⟨onType, identifier, rfl, branches, rfl⟩ |
    ⟨flattens, ⟨type, ⟨name, directives, loaded, -, -, -, rfl⟩, rfl⟩ |
      ⟨directives, inner, lines, mem, renders, hm⟩⟩
  · refine .branch branches (h.namesFragmentOn (List.mem_map_of_mem he)) ⟨entries, ?_, rfl⟩
    rw [← Collected.entriesUnder_of_mem he]
    exact h.keepsApart_branch branches
  · exact .embedded _ _ _
  · exact .flattened flattens mem renders hm

/-! ## The lines of a rendering -/

namespace Rendered

variable {withTypename : Bool} {selections : List Selection} {lines links : List StructLine}
  {collected : Collected}

theorem exists_link (h : context.Rendered parent withTypename selections lines collected links)
    {line : StructLine} (hm : line ∈ links) :
    ∃ key link made, DefinedField.link? (context.definedFields parent selections) key = some link ∧
      context.Renders link.type.baseName true link.selections made ∧
      line = .link key (context.linkType link).depth (context.linkType link).pointer made := by
  obtain ⟨⟨key, link⟩, he, ok⟩ := Generation.exists_mem_of_mem_made h.links_made hm
  rw [OrderedMap.mem_entries_iff, h.gathers.fields.links] at he
  obtain ⟨queried, made, nested, rfl⟩ := linkLine_eq_ok ok
  exact ⟨key, link, made, he, ⟨queried, nested⟩, rfl⟩

theorem exists_link_mem (h : context.Rendered parent withTypename selections lines collected links)
    {key : String} {link : Link}
    (under : DefinedField.link? (context.definedFields parent selections) key = some link) :
    ∃ made, context.Renders link.type.baseName true link.selections made ∧
      .link key (context.linkType link).depth (context.linkType link).pointer made ∈ lines := by
  have entry : (key, link) ∈ collected.links.entries := by
    rw [OrderedMap.mem_entries_iff, h.gathers.fields.links, under]
  obtain ⟨line, mem, ok⟩ := Generation.exists_made_of_mem h.links_made entry
  obtain ⟨queried, made, nested, rfl⟩ := linkLine_eq_ok ok
  refine ⟨made, ⟨queried, nested⟩, ?_⟩
  rw [h.lines_eq]
  simp only [List.mem_append, or_assoc]
  exact .inr (.inr (.inr (.inl mem)))

theorem mem_of_fragmentLines
    (h : context.Rendered parent withTypename selections lines collected links)
    {condition? : Option String} (hne : collected.entriesUnder condition? ≠ [])
    {line : StructLine}
    (hm : line ∈ context.fragmentLines parent condition? (collected.entriesUnder condition?)) :
    line ∈ lines := by
  obtain ⟨entries, he⟩ : ∃ entries, (condition?, entries) ∈ collected.fragments.entries := by
    obtain ⟨entry, hentry⟩ := List.exists_mem_of_ne_nil _ hne
    obtain ⟨entries, he, -⟩ := Collected.mem_entriesUnder.1 hentry
    exact ⟨entries, he⟩
  rw [Collected.entriesUnder_of_mem he] at hm
  rw [h.lines_eq]
  exact List.mem_append_right _ (List.mem_flatMap.2 ⟨(condition?, entries), he, hm⟩)

theorem lines_subset (h : context.Rendered parent withTypename selections lines collected links)
    {condition? : Option String} (flattens : context.Flattens parent condition?)
    {entry : FragmentEntry} (he : entry ∈ collected.entriesUnder condition?) :
    entry.lines ⊆ lines := by
  intro line hm
  refine h.mem_of_fragmentLines (List.ne_nil_of_mem he) ?_
  rw [fragmentLines_eq, flattens_iff.1 flattens]
  exact List.mem_flatMap.2 ⟨entry, he, hm⟩

/-- The entries under a type that branches make a branch of the struct. -/
theorem branch_mem (h : context.Rendered parent withTypename selections lines collected links)
    {onType : String} (branches : context.isBranch parent onType = true)
    (hne : collected.entriesUnder (some onType) ≠ []) :
    .branch (context.branchIdentifier onType) onType
      ((collected.entriesUnder (some onType)).flatMap (·.lines)) ∈ lines := by
  refine h.mem_of_fragmentLines hne ?_
  rw [fragmentLines_eq, Option.getD_some, if_pos branches]
  exact List.mem_singleton_self _

theorem exists_inline (h : context.Rendered parent withTypename selections lines collected links)
    {condition? : Option String} {directives : List Directive} {inner : List Selection}
    (flattens : context.Flattens parent condition?)
    (mem : .inline condition? directives inner ∈ selections) :
    ∃ made, context.Renders (condition?.getD parent) false inner made ∧
      StructLine.texts made ⊆ StructLine.texts lines := by
  obtain ⟨made, kept, renders, he, same⟩ := (h.gathers.keepsApart flattens).exists_texts_eq
    (Selection.mem_inlinesUnder.2 ⟨directives, mem⟩)
  exact ⟨made, renders, same ▸ StructLine.texts_subset (h.lines_subset flattens he)⟩

end Rendered

/-! ## Where lines come from -/

theorem lineSource {withTypename : Bool} {selections : List Selection} {lines : List StructLine}
    (h : context.Renders parent withTypename selections lines) {line : StructLine}
    (hm : line ∈ lines) : context.LineSource parent withTypename selections line := by
  obtain ⟨queried, ok⟩ := h
  obtain ⟨collected, links, h, -⟩ := exists_rendered ok
  rw [h.lines_eq] at hm
  simp only [List.mem_append, or_assoc] at hm
  rcases hm with hm | hm | hm | hm | hm
  · split at hm
    · rename_i asked
      obtain ⟨pointer, rfl⟩ := typenameLine?_eq_some (Option.mem_toList.1 hm)
      exact .typename asked
    · cases hm
  · obtain ⟨⟨key, type⟩, he, rfl⟩ := List.mem_map.1 hm
    rw [OrderedMap.mem_entries_iff, h.gathers.fields.leaves, Option.map_eq_some_iff] at he
    obtain ⟨field, hf, rfl⟩ := he
    obtain ⟨hd, plain, rfl⟩ := DefinedField.firstUnder_eq_some hf
    exact .leaf hd plain
  · obtain ⟨⟨key, name, type⟩, he, rfl⟩ := List.mem_map.1 hm
    rw [OrderedMap.mem_entries_iff, h.gathers.fields.aliased, Option.map_eq_some_iff] at he
    obtain ⟨field, hf, he⟩ := he
    obtain ⟨hd, aliased, rfl⟩ := DefinedField.firstUnder_eq_some hf
    cases he
    exact .aliased hd aliased
  · obtain ⟨key, link, made, under, renders, rfl⟩ := h.exists_link hm
    exact .link under renders
  · obtain ⟨⟨condition?, entries⟩, he, hm⟩ := List.mem_flatMap.1 hm
    exact lineSource_fragment h.gathers he hm

/-- A property of the lists that lines are from, by induction on what is flattened. -/
theorem Renders.exists_flattened {P : String → List Selection → Prop} {line : StructLine}
    (own : ∀ {parent withTypename selections lines},
      context.Renders parent withTypename selections lines → line ∈ lines →
        P parent selections ∨ ∃ condition? directives inner made,
          context.Flattens parent condition? ∧ .inline condition? directives inner ∈ selections ∧
          context.Renders (condition?.getD parent) false inner made ∧ line ∈ made)
    {withTypename : Bool} {selections : List Selection} {lines : List StructLine}
    (renders : context.Renders parent withTypename selections lines) (mem : line ∈ lines) :
    ∃ onType list, context.FlattenedInto parent [selections] onType list ∧ P onType list := by
  induction selections using Selection.nested_induction
    generalizing parent withTypename lines with
  | step selections fields inlines =>
    rcases own renders mem with holds | ⟨condition?, directives, inner, made, flattens, hm, h⟩
    · exact ⟨parent, selections, .start (List.mem_singleton_self _), holds⟩
    · obtain ⟨onType, list, flattened, holds⟩ := inlines condition? directives inner hm h.1 h.2
      exact ⟨onType, list, FlattenedInto.iff_self_or_inline.2
        (.inr ⟨condition?, directives, inner, flattens, hm, flattened⟩), holds⟩

theorem IsStruct.exists_flattened {P : String → List Selection → Prop} {line : StructLine}
    (own : ∀ {parent withTypename selections lines},
      context.Renders parent withTypename selections lines → line ∈ lines →
        P parent selections ∨ ∃ condition? directives inner made,
          context.Flattens parent condition? ∧ .inline condition? directives inner ∈ selections ∧
          context.Renders (condition?.getD parent) false inner made ∧ line ∈ made)
    {lists : List (List Selection)} {lines : List StructLine}
    (struct : context.IsStruct parent lists lines) (mem : line ∈ lines) :
    (∃ type, line = .embedded type) ∨
      ∃ onType list, context.FlattenedInto parent lists onType list ∧ P onType list := by
  obtain ⟨entries, kept, rfl⟩ := struct
  obtain ⟨entry, he, mem⟩ := List.mem_flatMap.1 mem
  cases entry with
  | spread type => exact .inl ⟨type, List.mem_singleton.1 mem⟩
  | inline made =>
    obtain ⟨selections, hs, renders⟩ := kept.sound made he
    obtain ⟨onType, list, flattened, holds⟩ := renders.exists_flattened own mem
    exact .inr ⟨onType, list, FlattenedInto.iff_exists.2 ⟨selections, hs, flattened⟩, holds⟩

/-! ## What structs have -/

theorem Renders.exists_texts_subset {withTypename : Bool} {selections : List Selection}
    {lines : List StructLine} (h : context.Renders parent withTypename selections lines)
    {onType : String} {list : List Selection}
    (flattened : context.FlattenedInto parent [selections] onType list) :
    ∃ withTypename made, context.Renders onType withTypename list made ∧
      StructLine.texts made ⊆ StructLine.texts lines := by
  induction flattened with
  | start mem =>
    obtain rfl := List.mem_singleton.1 mem
    exact ⟨withTypename, lines, h, List.Subset.refl _⟩
  | inline outer mem flattens ih =>
    obtain ⟨_, outside, ⟨queried, ok⟩, subset⟩ := ih
    obtain ⟨collected, links, rendered, -⟩ := exists_rendered ok
    obtain ⟨made, renders, inside⟩ := rendered.exists_inline flattens mem
    exact ⟨false, made, renders, List.Subset.trans inside subset⟩

namespace IsStruct

variable {lists : List (List Selection)} {lines : List StructLine} {list : List Selection}

theorem exists_texts_subset (struct : context.IsStruct parent lists lines) {onType : String}
    (flattened : context.FlattenedInto parent lists onType list) :
    ∃ withTypename made, context.Renders onType withTypename list made ∧
      StructLine.texts made ⊆ StructLine.texts lines := by
  obtain ⟨entries, kept, rfl⟩ := struct
  obtain ⟨selections, hs, flattened⟩ := FlattenedInto.iff_exists.1 flattened
  obtain ⟨outside, own, renders, he, same⟩ := kept.exists_texts_eq hs
  obtain ⟨withTypename, made, renders, inside⟩ := renders.exists_texts_subset flattened
  have entry : StructLine.texts own ⊆ StructLine.texts (entries.flatMap (·.lines)) :=
    StructLine.texts_subset fun line hm => List.mem_flatMap.2 ⟨_, he, hm⟩
  exact ⟨withTypename, made, renders, List.Subset.trans inside (same ▸ entry)⟩

/-- Each key with sub-selections, in any list that is flattened into a struct, has its line. -/
theorem exists_link_text (struct : context.IsStruct parent lists lines) {onType key : String}
    (flattened : context.FlattenedInto parent lists onType list) {link : Link}
    (under : DefinedField.link? (context.definedFields onType list) key = some link) :
    ∃ made, context.Renders link.type.baseName true link.selections made ∧
      (StructLine.link key (context.linkType link).depth (context.linkType link).pointer
        made).text ∈ StructLine.texts lines := by
  obtain ⟨_, outside, ⟨queried, ok⟩, subset⟩ := struct.exists_texts_subset flattened
  obtain ⟨collected, links, rendered, -⟩ := exists_rendered ok
  obtain ⟨made, renders, mem⟩ := rendered.exists_link_mem under
  exact ⟨made, renders, subset (StructLine.text_mem_texts mem)⟩

/-- Inline fragments that are not flattened have their branch. -/
theorem exists_branch_text (struct : context.IsStruct parent lists lines)
    {enclosing onType : String} (flattened : context.FlattenedInto parent lists enclosing list)
    {directives : List Directive} {inner : List Selection}
    (mem : .inline (some onType) directives inner ∈ list)
    (branches : context.isBranch enclosing onType = true) :
    ∃ made, context.IsStruct onType (inlinesUnder (some onType) list) made ∧
      (StructLine.branch (context.branchIdentifier onType) onType made).text ∈
        StructLine.texts lines := by
  obtain ⟨_, outside, ⟨queried, ok⟩, subset⟩ := struct.exists_texts_subset flattened
  obtain ⟨collected, links, rendered, -⟩ := exists_rendered ok
  have kept := rendered.gathers.keepsApart_branch branches
  obtain ⟨made, entry, -, he, -⟩ :=
    kept.exists_texts_eq (Selection.mem_inlinesUnder.2 ⟨directives, mem⟩)
  have line := rendered.branch_mem branches (List.ne_nil_of_mem he)
  exact ⟨_, ⟨_, kept, rfl⟩, subset (StructLine.text_mem_texts line)⟩

end IsStruct

/-! ## Every struct -/

mutual

/-- What is said of a struct holds of it and of every struct in it, each taken for its own type and
selections: for a link the type of the field and all sub-selections that a list gives for the key,
for a branch all inline fragments of a list under its condition. -/
inductive EveryStruct (context : SelectionContext)
    (Holds : String → List (List Selection) → List StructLine → Prop) :
    String → List (List Selection) → List StructLine → Prop
  | intro {parent : String} {lists : List (List Selection)} {lines : List StructLine}
      (own : Holds parent lists lines)
      (within : ∀ line ∈ lines, EveryStructIn context Holds parent lists line) :
      EveryStruct context Holds parent lists lines

/-- What is said of structs holds of every struct in a line of a struct. -/
inductive EveryStructIn (context : SelectionContext)
    (Holds : String → List (List Selection) → List StructLine → Prop) :
    String → List (List Selection) → StructLine → Prop
  | typename {parent : String} {lists : List (List Selection)} {pointer : Bool}
      {types : List String} : EveryStructIn context Holds parent lists (.typename pointer types)
  | leaf {parent : String} {lists : List (List Selection)} {name : String} {type : GoType} :
      EveryStructIn context Holds parent lists (.leaf name type)
  | aliased {parent : String} {lists : List (List Selection)} {key name : String} {type : GoType} :
      EveryStructIn context Holds parent lists (.aliased key name type)
  | embedded {parent : String} {lists : List (List Selection)} {type : String} :
      EveryStructIn context Holds parent lists (.embedded type)
  | link {parent onType key : String} {lists : List (List Selection)} {list : List Selection}
      {link : Link} {depth : Nat} {pointer : Bool} {lines : List StructLine}
      (flattened : context.FlattenedInto parent lists onType list)
      (under : DefinedField.link? (context.definedFields onType list) key = some link)
      (nested : EveryStruct context Holds link.type.baseName [link.selections] lines) :
      EveryStructIn context Holds parent lists (.link key depth pointer lines)
  | branch {parent enclosing identifier onType : String} {lists : List (List Selection)}
      {list : List Selection} {lines : List StructLine}
      (flattened : context.FlattenedInto parent lists enclosing list)
      (branches : context.isBranch enclosing onType = true)
      (nested : EveryStruct context Holds onType (inlinesUnder (some onType) list) lines) :
      EveryStructIn context Holds parent lists (.branch identifier onType lines)

end

/-- What holds of selections on a type and is passed on to the selections directly inside them. -/
structure PassedOn (context : SelectionContext) (I : String → List Selection → Prop) : Prop where
  inline : ∀ {parent : String} {selections inner : List Selection} {condition? : Option String}
    {directives : List Directive}, I parent selections →
      .inline condition? directives inner ∈ selections → I (condition?.getD parent) inner
  link : ∀ {parent key : String} {selections : List Selection} {link : Link},
    I parent selections →
      DefinedField.link? (context.definedFields parent selections) key = some link →
        I link.type.baseName link.selections

namespace PassedOn

variable {I : String → List Selection → Prop}

theorem flattened (h : context.PassedOn I) {lists : List (List Selection)}
    (start : ∀ list ∈ lists, I parent list) {onType : String} {list : List Selection}
    (hf : context.FlattenedInto parent lists onType list) : I onType list := by
  induction hf with
  | start mem => exact start _ mem
  | inline outer mem flattens ih => exact h.inline ih mem

variable {Holds : String → List (List Selection) → List StructLine → Prop}

theorem everyStructIn (h : context.PassedOn I)
    (holds : ∀ {parent lists lines}, (∀ list ∈ lists, I parent list) →
      context.IsStruct parent lists lines → Holds parent lists lines)
    {onType : String} {withTypename : Bool} {selections : List Selection}
    {lines : List StructLine} (start : I onType selections)
    (renders : context.Renders onType withTypename selections lines)
    {lists : List (List Selection)}
    (flattened : context.FlattenedInto parent lists onType selections) {line : StructLine}
    (hm : line ∈ lines) : context.EveryStructIn Holds parent lists line := by
  -- on the nesting depth, since the selections of a link are put together from several fields
  induction hn : heights selections using Nat.strongRecOn
    generalizing parent onType withTypename selections lines lists line with
  | ind n ih =>
    subst hn
    have struct : ∀ {type others made}, (∀ list ∈ others, I type list) →
        (∀ list ∈ others, heights list < heights selections) →
        context.IsStruct type others made → context.EveryStruct Holds type others made := by
      rintro type others made passed lower ⟨entries, kept, rfl⟩
      refine .intro (holds passed ⟨entries, kept, rfl⟩) fun line hm => ?_
      obtain ⟨entry, he, hm⟩ := List.mem_flatMap.1 hm
      cases entry with
      | spread type =>
        rw [FragmentEntry.lines, List.mem_singleton] at hm
        subst hm
        exact .embedded
      | inline made =>
        obtain ⟨inner, hi, renders⟩ := kept.sound made he
        exact ih _ (lower inner hi) (passed inner hi) renders (.start hi) hm rfl
    cases lineSource renders hm with
    | typename asked => exact .typename
    | leaf mem plain => exact .leaf
    | aliased mem aliased => exact .aliased
    | embedded qualifier? fragment isExternal => exact .embedded
    | link under renders =>
      refine .link flattened under (struct ?_ ?_ (isStruct_of_renders renders))
      · simpa using h.link start under
      · simpa using heights_link_lt under
    | branch branches named made =>
      refine .branch flattened branches (struct ?_ ?_ made)
      · intro inner hi
        obtain ⟨directives, hi⟩ := Selection.mem_inlinesUnder.1 hi
        exact h.inline start hi
      · intro inner hi
        obtain ⟨directives, hi⟩ := Selection.mem_inlinesUnder.1 hi
        exact Selection.heights_lt_of_inline hi
    | flattened flattens mem renders hm =>
      exact ih _ (Selection.heights_lt_of_inline mem) (h.inline start mem) renders
        (flattened.inline mem flattens) hm rfl

/-- What holds of each struct on its own holds of every struct in a rendered one. -/
theorem everyStruct (h : context.PassedOn I)
    (holds : ∀ {parent lists lines}, (∀ list ∈ lists, I parent list) →
      context.IsStruct parent lists lines → Holds parent lists lines)
    {selections : List Selection} {lines : List StructLine} (start : I parent selections)
    (ok : (context.structLines parent selections).outcome = .ok lines) :
    context.EveryStruct Holds parent [selections] lines := by
  have renders : context.Renders parent true selections lines := structLines_eq_ok.1 ok
  refine .intro (holds (by simpa using start) (isStruct_of_renders renders)) fun line hm => ?_
  exact h.everyStructIn holds start renders (.start (List.mem_singleton_self _)) hm

end PassedOn

theorem everyStruct_of_isStruct {Holds : String → List (List Selection) → List StructLine → Prop}
    (holds : ∀ {parent lists lines}, context.IsStruct parent lists lines →
      Holds parent lists lines)
    {selections : List Selection} {lines : List StructLine}
    (ok : (context.structLines parent selections).outcome = .ok lines) :
    context.EveryStruct Holds parent [selections] lines := by
  have passed : context.PassedOn fun _ _ => True := ⟨fun _ _ => trivial, fun _ _ => trivial⟩
  exact passed.everyStruct (fun _ struct => holds struct) trivial ok

end SelectionContext

end SchemaBindings
