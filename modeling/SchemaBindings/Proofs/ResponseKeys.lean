import SchemaBindings.Proofs.UnquotedNames

/-!
# Response keys

The keys of a struct's lines for fields are the response names of the fields that its selections ask
for and the schema defines (`SelectsKey`): no key is lost and none is invented.
`fieldKeys_eq` tells the keys of a rendering class by class, and `mem_fieldKeys_iff` tells them from
the selections. No struct is missing either: sub-selections have theirs in the line of their key,
and inline fragments that are not flattened have a branch (`HoldsSelections`).
`structs_have_selected_keys` says both for every struct in a rendered one.
-/

namespace SchemaBindings

open Selection (heights inlinesUnder)
open StructLine (fieldKey? fieldKeys)

/-! ## Entries -/

/-- Each list is written in one way, in lines that can be read back from their texts. -/
structure WritesLegibly (written : List Selection → List StructLine → Prop)
    (lists : List (List Selection)) : Prop where
  unique : ∀ {inner lines others}, written inner lines → written inner others → lines = others
  legible : ∀ inner ∈ lists, ∀ lines, written inner lines → ∀ line ∈ lines, line.Legible

theorem fieldKeys_flatMap (entries : List FragmentEntry) :
    fieldKeys (entries.flatMap (·.lines)) = entries.flatMap fun entry => fieldKeys entry.lines :=
  List.filterMap_flatMap

theorem StructLine.ToldByText.spread {key? : StructLine → Option String}
    (told : StructLine.ToldByText key?) (type : String) :
    (FragmentEntry.spread type).lines.filterMap key? = [] := by
  rw [FragmentEntry.lines, List.filterMap_cons, told.embedded]
  rfl

namespace KeepsApart

variable {written : List Selection → List StructLine → Prop} {lists : List (List Selection)}
  {entries : List FragmentEntry} {key? : StructLine → Option String}

/-- Each list is written like one of the entries, which has the same keys. -/
theorem exists_entry (h : KeepsApart written lists entries) (writes : WritesLegibly written lists)
    (told : StructLine.ToldByText key?) {inner : List Selection} (hi : inner ∈ lists)
    {lines : List StructLine} (hw : written inner lines) :
    ∃ kept, .inline kept ∈ entries ∧ StructLine.texts lines = StructLine.texts kept ∧
      lines.filterMap key? = kept.filterMap key? := by
  obtain ⟨others, kept, ho, he, texts⟩ := h.exists_texts_eq hi
  obtain rfl := writes.unique hw ho
  obtain ⟨other, hm, hk⟩ := h.sound kept he
  exact ⟨kept, he, texts,
    told.filterMap_eq (writes.legible inner hi lines hw) (writes.legible other hm kept hk) texts⟩

theorem mem_filterMap (h : KeepsApart written lists entries) (writes : WritesLegibly written lists)
    (told : StructLine.ToldByText key?) (key : String) :
    (∃ entry ∈ entries, key ∈ entry.lines.filterMap key?) ↔
      ∃ inner ∈ lists, ∃ lines, written inner lines ∧ key ∈ lines.filterMap key? := by
  constructor
  · rintro ⟨entry, he, hk⟩
    cases entry with
    | spread type =>
      rw [told.spread] at hk
      cases hk
    | inline lines =>
      obtain ⟨inner, hi, hw⟩ := h.sound lines he
      exact ⟨inner, hi, lines, hw, hk⟩
  · rintro ⟨inner, hi, lines, hw, hk⟩
    obtain ⟨kept, he, -, keys⟩ := h.exists_entry writes told hi hw
    exact ⟨_, he, keys ▸ hk⟩

end KeepsApart

namespace SelectionContext

variable {context : SelectionContext} {parent : String}

/-! ## The keys of a rendering -/

theorem fieldKeys_links {links : List StructLine} {entries : List (String × Link)}
    (h : List.Forall₂ (fun entry line =>
      (context.linkLine context.rendering entry.1 entry.2).outcome = .ok line) entries links) :
    fieldKeys links = entries.map Prod.fst := by
  induction h with
  | nil => rfl
  | cons made rest ih =>
    obtain ⟨queried, lines, -, rfl⟩ := linkLine_eq_ok made
    rw [List.map_cons, ← ih]
    rfl

/-- The keys that the fragments under a condition add to the lines themselves. -/
def flattenedKeys (context : SelectionContext) (parent : String) (condition? : Option String)
    (entries : List FragmentEntry) : List String :=
  if context.isBranch parent (condition?.getD parent) then []
  else entries.flatMap fun entry => fieldKeys entry.lines

theorem mem_flattenedKeys {condition? : Option String} {entries : List FragmentEntry}
    {key : String} : key ∈ context.flattenedKeys parent condition? entries ↔
      context.Flattens parent condition? ∧ ∃ entry ∈ entries, key ∈ fieldKeys entry.lines := by
  unfold flattenedKeys
  rw [flattens_iff]
  cases context.isBranch parent (condition?.getD parent) with
  | true => simp
  | false => simp [List.mem_flatMap]

theorem mem_flatMap_flattenedKeys {collected : Collected} {key : String} :
    key ∈ collected.fragments.entries.flatMap (fun entry =>
      context.flattenedKeys parent entry.1 entry.2) ↔
        ∃ condition?, context.Flattens parent condition? ∧
          ∃ entry ∈ collected.entriesUnder condition?, key ∈ fieldKeys entry.lines := by
  simp only [List.mem_flatMap, Prod.exists, mem_flattenedKeys, Collected.mem_entriesUnder]
  constructor
  · rintro ⟨condition?, entries, he, flattens, entry, hm, hk⟩
    exact ⟨condition?, flattens, entry, ⟨entries, he, hm⟩, hk⟩
  · rintro ⟨condition?, flattens, entry, ⟨entries, he, hm⟩, hk⟩
    exact ⟨condition?, entries, he, flattens, entry, hm, hk⟩

theorem fieldKeys_fragmentLines (condition? : Option String) (entries : List FragmentEntry) :
    fieldKeys (context.fragmentLines parent condition? entries) =
      context.flattenedKeys parent condition? entries := by
  rw [fragmentLines_eq, flattenedKeys]
  split
  · rfl
  · exact fieldKeys_flatMap entries

/-- The keys of a rendering, class by class. -/
theorem Rendered.fieldKeys_eq {withTypename : Bool} {selections : List Selection}
    {lines links : List StructLine} {collected : Collected}
    (h : context.Rendered parent withTypename selections lines collected links) :
    fieldKeys lines = collected.leaves.keys ++ collected.aliased.keys ++ collected.links.keys ++
      collected.fragments.entries.flatMap fun entry =>
        context.flattenedKeys parent entry.1 entry.2 := by
  have typename : fieldKeys (if withTypename then
      (context.typenameLine? parent collected.typenameQueried).toList else []) = [] := by
    split
    · cases ht : context.typenameLine? parent collected.typenameQueried with
      | none => rfl
      | some line =>
        obtain ⟨pointer, rfl⟩ := typenameLine?_eq_some ht
        rfl
    · rfl
  have leaves : fieldKeys (collected.leaves.entries.map fun entry => .leaf entry.1 entry.2) =
      collected.leaves.keys := by
    simp [fieldKeys, OrderedMap.keys, List.filterMap_map, Function.comp_def, fieldKey?]
  have aliased : fieldKeys (collected.aliased.entries.map fun entry =>
      .aliased entry.1 entry.2.1 entry.2.2) = collected.aliased.keys := by
    simp [fieldKeys, OrderedMap.keys, List.filterMap_map, Function.comp_def, fieldKey?]
  have fragments : fieldKeys (collected.fragments.entries.flatMap fun entry =>
      context.fragmentLines parent entry.1 entry.2) = collected.fragments.entries.flatMap
        fun entry => fieldKeys (context.fragmentLines parent entry.1 entry.2) :=
    List.filterMap_flatMap
  have append : ∀ first second, fieldKeys (first ++ second) = fieldKeys first ++ fieldKeys second :=
    fun _ _ => List.filterMap_append
  rw [h.lines_eq, append, append, append, append, typename, leaves, aliased,
    fieldKeys_links h.links_made, fragments, List.nil_append]
  simp only [fieldKeys_fragmentLines]
  rfl

/-! ## The keys that are selected -/

/-- A field that the schema defines is selected under the key, in one of the lists that a struct is
for or in an inline fragment that is flattened into it. -/
def SelectsKey (context : SelectionContext) (parent : String) (lists : List (List Selection))
    (key : String) : Prop :=
  ∃ onType list call inner, context.FlattenedInto parent lists onType list ∧
    .field call inner ∈ list ∧ call.name ≠ Schema.typenameField ∧
    (context.schema.fieldType? onType call.name).isSome = true ∧ call.responseName = key

theorem selectsKey_iff_definedFields {lists : List (List Selection)} {key : String} :
    context.SelectsKey parent lists key ↔ ∃ onType list,
      context.FlattenedInto parent lists onType list ∧
        ∃ field ∈ context.definedFields onType list, field.key = key := by
  constructor
  · rintro ⟨onType, list, call, inner, hf, hm, hn, ht, rfl⟩
    obtain ⟨type, ht⟩ := Option.isSome_iff_exists.1 ht
    exact ⟨onType, list, hf, ⟨call, type, inner⟩, mem_definedFields.2 ⟨hm, hn, ht⟩, rfl⟩
  · rintro ⟨onType, list, hf, field, hd, rfl⟩
    obtain ⟨hm, hn, ht⟩ := mem_definedFields.1 hd
    exact ⟨onType, list, field.call, field.selections, hf, hm, hn,
      Option.isSome_of_eq_some ht, rfl⟩

theorem selectsKey_iff_exists {lists : List (List Selection)} {key : String} :
    context.SelectsKey parent lists key ↔
      ∃ selections ∈ lists, context.SelectsKey parent [selections] key := by
  unfold SelectsKey
  constructor
  · rintro ⟨onType, list, call, inner, hf, hm⟩
    obtain ⟨selections, hs, hf⟩ := FlattenedInto.iff_exists.1 hf
    exact ⟨selections, hs, onType, list, call, inner, hf, hm⟩
  · rintro ⟨selections, hs, onType, list, call, inner, hf, hm⟩
    exact ⟨onType, list, call, inner, FlattenedInto.iff_exists.2 ⟨selections, hs, hf⟩, hm⟩

/-- A list selects a key itself, or an inline fragment in it that is flattened does. -/
theorem selectsKey_iff_self_or_inline {selections : List Selection} {key : String} :
    context.SelectsKey parent [selections] key ↔
      (∃ field ∈ context.definedFields parent selections, field.key = key) ∨
        ∃ condition? directives inner, context.Flattens parent condition? ∧
          .inline condition? directives inner ∈ selections ∧
          context.SelectsKey (condition?.getD parent) [inner] key := by
  rw [selectsKey_iff_definedFields]
  constructor
  · rintro ⟨onType, list, hf, hd⟩
    rcases FlattenedInto.iff_self_or_inline.1 hf with ⟨rfl, rfl⟩ | ⟨condition?, others, inner, h⟩
    · exact .inl hd
    · exact .inr ⟨condition?, others, inner, h.1, h.2.1,
        selectsKey_iff_definedFields.2 ⟨onType, list, h.2.2, hd⟩⟩
  · rintro (hd | ⟨condition?, directives, inner, hc, hm, hk⟩)
    · exact ⟨parent, selections, .start (List.mem_singleton_self _), hd⟩
    · obtain ⟨onType, list, hf, hd⟩ := selectsKey_iff_definedFields.1 hk
      exact ⟨onType, list, FlattenedInto.iff_self_or_inline.2
        (.inr ⟨condition?, directives, inner, hc, hm, hf⟩), hd⟩

/-! ## Exactness -/

theorem Renders.writesLegibly (h : context.AllUnquoted) (withTypename : Bool)
    {lists : List (List Selection)} (names : ∀ list ∈ lists, NamesUnquoted parent list) :
    WritesLegibly (context.Renders parent withTypename) lists where
  unique := Renders.unique
  legible inner hi _ renders := legible_of_renders h (names inner hi) renders

theorem NamesUnquoted.inlines (h : context.AllUnquoted) {selections : List Selection}
    (names : NamesUnquoted parent selections) (condition? : Option String) :
    ∀ inner ∈ inlinesUnder condition? selections,
      NamesUnquoted (condition?.getD parent) inner := by
  intro inner hi
  obtain ⟨directives, hi⟩ := Selection.mem_inlinesUnder.1 hi
  exact (namesUnquoted_passedOn h.schema).inline names hi

theorem Renders.mem_fieldKeys (h : context.AllUnquoted) {withTypename : Bool}
    {selections : List Selection} {lines : List StructLine}
    (names : NamesUnquoted parent selections)
    (renders : context.Renders parent withTypename selections lines) (key : String) :
    key ∈ fieldKeys lines ↔
      (∃ field ∈ context.definedFields parent selections, field.key = key) ∨
        ∃ condition? directives inner made, context.Flattens parent condition? ∧
          .inline condition? directives inner ∈ selections ∧
          context.Renders (condition?.getD parent) false inner made ∧ key ∈ fieldKeys made := by
  obtain ⟨queried, ok⟩ := renders
  obtain ⟨collected, links, hr, -⟩ := exists_rendered ok
  have under : ∀ {condition?}, context.Flattens parent condition? →
      ((∃ entry ∈ collected.entriesUnder condition?, key ∈ fieldKeys entry.lines) ↔
        ∃ inner ∈ inlinesUnder condition? selections, ∃ made,
          context.Renders (condition?.getD parent) false inner made ∧ key ∈ fieldKeys made) :=
    fun flattens => (hr.gathers.keepsApart flattens).mem_filterMap
      (Renders.writesLegibly h false (names.inlines h _)) StructLine.fieldKey?_toldByText key
  rw [hr.fieldKeys_eq, List.mem_append, List.mem_append, List.mem_append,
    hr.gathers.fields.mem_keys_iff, mem_flatMap_flattenedKeys]
  refine or_congr_right (exists_congr fun condition? => ?_)
  constructor
  · rintro ⟨flattens, hk⟩
    obtain ⟨inner, hi, made, renders, hk⟩ := (under flattens).1 hk
    obtain ⟨directives, hi⟩ := Selection.mem_inlinesUnder.1 hi
    exact ⟨directives, inner, made, flattens, hi, renders, hk⟩
  · rintro ⟨directives, inner, made, flattens, hi, renders, hk⟩
    exact ⟨flattens, (under flattens).2
      ⟨inner, Selection.mem_inlinesUnder.2 ⟨directives, hi⟩, made, renders, hk⟩⟩

theorem Renders.mem_fieldKeys_iff (h : context.AllUnquoted) {withTypename : Bool}
    {selections : List Selection} {lines : List StructLine}
    (names : NamesUnquoted parent selections)
    (renders : context.Renders parent withTypename selections lines) (key : String) :
    key ∈ fieldKeys lines ↔ context.SelectsKey parent [selections] key := by
  induction selections using Selection.nested_induction
    generalizing parent withTypename lines with
  | step selections fields inlines =>
    rw [renders.mem_fieldKeys h names, selectsKey_iff_self_or_inline]
    refine or_congr_right (exists_congr fun condition? => exists_congr fun directives =>
      exists_congr fun inner => ?_)
    have passed : .inline condition? directives inner ∈ selections →
        NamesUnquoted (condition?.getD parent) inner :=
      (namesUnquoted_passedOn h.schema).inline names
    constructor
    · rintro ⟨made, flattens, hm, hi, hk⟩
      exact ⟨flattens, hm, (inlines condition? directives inner hm (passed hm) hi).1 hk⟩
    · rintro ⟨flattens, hm, hk⟩
      obtain ⟨made, hi⟩ := renders.inline hm
      rw [flattens_iff.1 flattens] at hi
      exact ⟨made, flattens, hm, hi, (inlines condition? directives inner hm (passed hm) hi).2 hk⟩

theorem IsStruct.mem_filterMap_iff (h : context.AllUnquoted) {lists : List (List Selection)}
    {lines : List StructLine} (names : ∀ list ∈ lists, NamesUnquoted parent list)
    (struct : context.IsStruct parent lists lines) {key? : StructLine → Option String}
    (told : StructLine.ToldByText key?) {key : String} {P : List Selection → Prop}
    (own : ∀ inner ∈ lists, ∀ lines, context.Renders parent true inner lines →
      (key ∈ lines.filterMap key? ↔ P inner)) :
    key ∈ lines.filterMap key? ↔ ∃ inner ∈ lists, P inner := by
  obtain ⟨entries, kept, rfl⟩ := struct
  have split : (entries.flatMap (·.lines)).filterMap key? =
      entries.flatMap fun entry => entry.lines.filterMap key? := List.filterMap_flatMap
  rw [split, List.mem_flatMap, kept.mem_filterMap (Renders.writesLegibly h true names) told]
  refine exists_congr fun inner => and_congr_right fun hi => ?_
  constructor
  · rintro ⟨lines, renders, hk⟩
    exact (own inner hi lines renders).1 hk
  · intro hk
    obtain ⟨lines, renders, -⟩ := kept.covers inner hi
    exact ⟨lines, renders, (own inner hi lines renders).2 hk⟩

theorem IsStruct.mem_fieldKeys_iff (h : context.AllUnquoted) {lists : List (List Selection)}
    {lines : List StructLine} (names : ∀ list ∈ lists, NamesUnquoted parent list)
    (struct : context.IsStruct parent lists lines) (key : String) :
    key ∈ fieldKeys lines ↔ context.SelectsKey parent lists key := by
  rw [selectsKey_iff_exists]
  exact struct.mem_filterMap_iff h names StructLine.fieldKey?_toldByText fun inner hi _ renders =>
    renders.mem_fieldKeys_iff h (names inner hi) key

/-! ## The lines of fields -/

/-- The line for fields under a key: of those without sub-selections the first makes it, and those
with sub-selections make it together. -/
inductive FieldLine (context : SelectionContext) (fields : List DefinedField) : StructLine → Prop
  | leaf {field : DefinedField} (mem : field ∈ fields) (plain : field.isPlain = true) :
      FieldLine context fields (.leaf field.key (context.leafType field))
  | aliased {field : DefinedField} (mem : field ∈ fields) (aliased : field.isAliased = true) :
      FieldLine context fields (.aliased field.key field.call.name (context.leafType field))
  | link {key : String} {link : Link} (under : DefinedField.link? fields key = some link)
      (lines : List StructLine) :
      FieldLine context fields
        (.link key (context.linkType link).depth (context.linkType link).pointer lines)

theorem fieldLine_or_flattened {withTypename : Bool} {selections : List Selection}
    {lines : List StructLine} (renders : context.Renders parent withTypename selections lines)
    {line : StructLine} (hm : line ∈ lines) (hk : line.fieldKey?.isSome = true) :
    context.FieldLine (context.definedFields parent selections) line ∨
      ∃ condition? directives inner made, context.Flattens parent condition? ∧
        .inline condition? directives inner ∈ selections ∧
        context.Renders (condition?.getD parent) false inner made ∧ line ∈ made := by
  cases lineSource renders hm with
  | typename asked => cases hk
  | leaf mem plain => exact .inl (.leaf mem plain)
  | aliased mem aliased => exact .inl (.aliased mem aliased)
  | link under renders => exact .inl (.link under _)
  | embedded qualifier? fragment isExternal => cases hk
  | branch branches named struct => cases hk
  | flattened flattens mem renders hm => exact .inr ⟨_, _, _, _, flattens, mem, renders, hm⟩

/-- A line with a key is made by fields that are selected. -/
theorem Renders.exists_fieldLine {withTypename : Bool} {selections : List Selection}
    {lines : List StructLine} (renders : context.Renders parent withTypename selections lines)
    {line : StructLine} (hm : line ∈ lines) (hk : line.fieldKey?.isSome = true) :
    ∃ onType list, context.FlattenedInto parent [selections] onType list ∧
      context.FieldLine (context.definedFields onType list) line :=
  renders.exists_flattened (fun renders hm => fieldLine_or_flattened renders hm hk) hm

theorem IsStruct.exists_fieldLine {lists : List (List Selection)} {lines : List StructLine}
    (struct : context.IsStruct parent lists lines) {line : StructLine} (hm : line ∈ lines)
    (hk : line.fieldKey?.isSome = true) :
    ∃ selections ∈ lists, ∃ onType list, context.FlattenedInto parent [selections] onType list ∧
      context.FieldLine (context.definedFields onType list) line := by
  obtain ⟨entries, kept, rfl⟩ := struct
  obtain ⟨entry, he, hm⟩ := List.mem_flatMap.1 hm
  cases entry with
  | spread onType =>
    rw [FragmentEntry.lines, List.mem_singleton] at hm
    subst hm
    cases hk
  | inline made =>
    obtain ⟨selections, hs, renders⟩ := kept.sound made he
    exact ⟨selections, hs, renders.exists_fieldLine hm hk⟩

/-! ## Every struct -/

theorem structText_eq_ok {selections : List Selection} {text : String} (hs : selections ≠ [])
    (ok : (context.structText parent selections).outcome = .ok text) :
    ∃ lines, (context.structLines parent selections).outcome = .ok lines ∧
      text = StructLine.structText lines := by
  unfold structText at ok
  rw [if_neg (by simpa using hs), Generation.outcome_bind_eq_ok] at ok
  obtain ⟨lines, hl, ok⟩ := ok
  exact ⟨lines, hl, (Except.ok.inj ok).symm⟩

/-- The keys of the lines for fields are exactly those that are selected, and each line is tagged
with its key. -/
structure HasSelectedKeys (context : SelectionContext) (parent : String)
    (lists : List (List Selection)) (lines : List StructLine) : Prop where
  keys : ∀ key, key ∈ fieldKeys lines ↔ context.SelectsKey parent lists key
  tagged : ∀ line ∈ lines, ∀ key, line.fieldKey? = some key → line.HasTag key

theorem IsStruct.hasSelectedKeys (h : context.AllUnquoted) {lists : List (List Selection)}
    {lines : List StructLine} (names : ∀ list ∈ lists, NamesUnquoted parent list)
    (struct : context.IsStruct parent lists lines) :
    context.HasSelectedKeys parent lists lines where
  keys key := struct.mem_fieldKeys_iff h names key
  tagged _ _ _ own := StructLine.hasTag_of_tag? (StructLine.tag?_of_fieldKey? own)

mutual

/-- What is selected stands in a struct, at every depth: the keys of fields in the struct itself,
sub-selections in the struct of their key, and what is not flattened in the branch for its type. -/
inductive HoldsSelections (context : SelectionContext) :
    String → List (List Selection) → List StructLine → Prop
  | intro {parent : String} {lists : List (List Selection)} {lines : List StructLine}
      (keys : context.HasSelectedKeys parent lists lines)
      (links : ∀ onType list key link, context.FlattenedInto parent lists onType list →
        DefinedField.link? (context.definedFields onType list) key = some link →
          HoldsLink context key link lines)
      (branches : ∀ enclosing list onType directives inner,
        context.FlattenedInto parent lists enclosing list →
          .inline (some onType) directives inner ∈ list →
          context.isBranch enclosing onType = true →
            HoldsBranch context onType (inlinesUnder (some onType) list) lines) :
      HoldsSelections context parent lists lines

/-- A line has the key, and in it the struct for its sub-selections. -/
inductive HoldsLink (context : SelectionContext) : String → Link → List StructLine → Prop
  | intro {key : String} {link : Link} {lines nested : List StructLine}
      (written : (StructLine.link key (context.linkType link).depth (context.linkType link).pointer
        nested).text ∈ StructLine.texts lines)
      (holds : HoldsSelections context link.type.baseName [link.selections] nested) :
      HoldsLink context key link lines

/-- A line is the branch for the type, and in it the struct for the lists. -/
inductive HoldsBranch (context : SelectionContext) :
    String → List (List Selection) → List StructLine → Prop
  | intro {onType : String} {lists : List (List Selection)} {lines nested : List StructLine}
      (written : (StructLine.branch (context.branchIdentifier onType) onType nested).text ∈
        StructLine.texts lines)
      (holds : HoldsSelections context onType lists nested) :
      HoldsBranch context onType lists lines

end

theorem IsStruct.holdsSelections (h : context.AllUnquoted) {lists : List (List Selection)}
    {lines : List StructLine} (names : ∀ list ∈ lists, NamesUnquoted parent list)
    (struct : context.IsStruct parent lists lines) :
    context.HoldsSelections parent lists lines := by
  have passed := namesUnquoted_passedOn h.schema
  -- on the nesting depth, since the selections of a link are put together from several fields
  obtain ⟨bound, low⟩ : ∃ bound, ∀ list ∈ lists, heights list < bound :=
    ⟨heights lists.flatten + 1, fun _ hl => Nat.lt_succ_of_le (Selection.heights_le_flatten hl)⟩
  induction bound using Nat.strongRecOn generalizing parent lists lines with
  | ind bound ih =>
    refine .intro (struct.hasSelectedKeys h names) ?_ ?_
    · intro onType list key link flattened under
      obtain ⟨nested, renders, written⟩ := struct.exists_link_text flattened under
      refine .intro written (ih _ (flattened.heights_lt low) ?_ (isStruct_of_renders renders) ?_)
      · simpa using passed.link (passed.flattened names flattened) under
      · simpa using heights_link_lt under
    · intro enclosing list onType directives inner flattened mem branches
      obtain ⟨nested, inside, written⟩ := struct.exists_branch_text flattened mem branches
      refine .intro written (ih _ (flattened.heights_lt low) ?_ inside fun other ho => ?_)
      · exact (passed.flattened names flattened).inlines h (some onType)
      · obtain ⟨others, ho⟩ := Selection.mem_inlinesUnder.1 ho
        exact Selection.heights_lt_of_inline ho

/-- In every struct, the keys of fields are exactly the response names that are selected for it.
None of these structs is missing: each key with sub-selections has its line, and inline fragments
that are not flattened have their branches. -/
theorem structs_have_selected_keys (h : context.AllUnquoted) {selections : List Selection}
    (names : NamesUnquoted parent selections) (nonempty : selections ≠ []) {text : String}
    (ok : (context.structText parent selections).outcome = .ok text) :
    ∃ lines, (context.structLines parent selections).outcome = .ok lines ∧
      text = StructLine.structText lines ∧
      context.EveryStruct context.HasSelectedKeys parent [selections] lines ∧
      context.HoldsSelections parent [selections] lines := by
  obtain ⟨lines, hl, rfl⟩ := structText_eq_ok nonempty ok
  have struct := isStruct_of_renders (structLines_eq_ok.1 hl)
  refine ⟨lines, hl, rfl, ?_, ?_⟩
  · exact (namesUnquoted_passedOn h.schema).everyStruct
      (fun passed struct => struct.hasSelectedKeys h passed) names hl
  · exact struct.holdsSelections h (by simpa using names)

/-- A schema with an interface and an object that implements it. -/
def petSchema : Schema := .ofDefinitions [
  .type { name := "Query", body := .object [] [{ name := "pet", type := .named "Pet" },
    { name := "cat", type := .named "Cat" }] },
  .type { name := "Pet", body := .interface [] [{ name := "id", type := .named "ID" }] },
  .type { name := "Cat", body := .object ["Pet"] [{ name := "id", type := .named "ID" },
    { name := "mother", type := .named "Cat" }] }]

/-- Selections on types of `petSchema`, without named fragments. -/
def petContext : SelectionContext where
  schema := petSchema
  fragments := ∅
  resolver := { names := {}, scalarReference := .goType, scalars := .builtin }

/-- The selections `cat { mother { id } ... { own: id } mother { own: id } }` and
`pet { id ... on Cat { mother { id } } }`. -/
def petSelections : List Selection := [
  .field { name := "cat" } [
    .field { name := "mother" } [.field { name := "id" } []],
    .inline none [] [.field { alias? := some "own", name := "id" } []],
    .field { name := "mother" } [.field { alias? := some "own", name := "id" } []]],
  .field { name := "pet" } [
    .field { name := "id" } [],
    .inline (some "Cat") [] [.field { name := "mother" } [.field { name := "id" } []]]]]

theorem pet_structs_have_selected_keys :
    petContext.AllUnquoted ∧ NamesUnquoted "Query" petSelections ∧ petSelections ≠ [] ∧
      ∃ text, (petContext.structText "Query" petSelections).outcome = .ok text ∧
        ∃ lines, (petContext.structLines "Query" petSelections).outcome = .ok lines ∧
          text = StructLine.structText lines ∧
          petContext.EveryStruct petContext.HasSelectedKeys "Query" [petSelections] lines ∧
          petContext.HoldsSelections "Query" [petSelections] lines := by
  have context : petContext.AllUnquoted := ⟨by decide, by decide⟩
  have names : NamesUnquoted "Query" petSelections := ⟨by decide, by decide⟩
  have nonempty : petSelections ≠ [] := List.cons_ne_nil _ _
  obtain ⟨text, ok⟩ := Generation.exists_eq_ok
    (x := petContext.structText "Query" petSelections) (by decide +kernel)
  exact ⟨context, names, nonempty, text, ok, structs_have_selected_keys context names nonempty ok⟩

end SelectionContext

end SchemaBindings
