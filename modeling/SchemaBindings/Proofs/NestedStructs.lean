import SchemaBindings.Proofs.ConvertedNames
import SchemaBindings.Proofs.EmbeddedSpreads
import SchemaBindings.Proofs.NestedText

/-!
# Well-nested structs

What is written for names of schemas and documents stays on its line and holds no braces, so that
only structs open and close levels (`StructLine.wellNested_link`, `StructLine.wellNested_branch`).
By induction on the nesting of selections each line of a rendering is well nested
(`wellNested_of_renders`), and so is the struct that holds the lines (`structs_well_nested`).
-/

namespace SchemaBindings

open Text

/-! ## Names -/

theorem Text.NameChars.flat {name : String} (chars : NameChars name.toList) : Flat name := by
  intro c mem banned
  simp only [List.mem_cons, List.not_mem_nil, or_false] at banned
  rcases banned with rfl | rfl | rfl | rfl <;> exact absurd (chars _ mem) (by decide)

theorem Text.flat_camelCase {name : String} (chars : NameChars name.toList) :
    Flat (camelCase name) := by
  refine NameChars.flat fun c mem => .inr ?_
  rw [camelCase, String.toList_ofList] at mem
  exact isAlphanum_of_mem_camelCaseChars chars mem

namespace NameStyle

variable {style : NameStyle} {name : String}

theorem flat_core (chars : NameChars name.toList) (mergesUnderscores : Bool) :
    Flat (style.core mergesUnderscores name) := by
  unfold core
  split
  · exact chars.flat
  · split
    · exact flat_camelCase chars
    · refine .intercalate (by decide) fun piece mem => ?_
      obtain ⟨part, hp, rfl⟩ := List.mem_map.1 mem
      obtain ⟨letters, hl, rfl⟩ := List.mem_map.1 hp
      refine flat_camelCase fun c hc => .inr ?_
      rw [String.toList_ofList] at hc
      exact isAlphanum_of_mem_splitChars chars hl c hc

theorem flat_convertWith {options : NameOptions} (hp : Flat style.typesPrefix)
    (hs : Flat options.suffix) (chars : NameChars name.toList) :
    Flat (style.convertWith options name) := by
  unfold convertWith
  refine .append (.append ?_ (flat_core chars _)) hs
  split
  · exact hp
  · decide

end NameStyle

theorem flat_fragmentTypeName {names : NameStyle} {qualifier? : Option String} {fragment : String}
    (hp : Flat names.typesPrefix) (qualifier : ∀ package ∈ qualifier?, Flat package)
    (chars : NameChars fragment.toList) (isExternal : Bool) :
    Flat (fragmentTypeName names qualifier? fragment isExternal) := by
  have plain : Flat (names.convertWith { suffix := "Fragment" } fragment) :=
    NameStyle.flat_convertWith hp (show Flat "Fragment" by decide) chars
  cases qualifier? with
  | none => exact plain
  | some package =>
    cases isExternal with
    | false => exact plain
    | true => exact ((qualifier package rfl).append (by decide)).append plain

/-! ## Types -/

/-- What is written into types besides names breaks no line, and has neither tabs nor braces. -/
structure TypeResolver.IsFlat (resolver : TypeResolver) : Prop where
  scalars : ∀ type ∈ resolver.scalars.values, Flat type
  qualifier : ∀ package ∈ resolver.qualifier?, Flat package
  typesPrefix : Flat resolver.names.typesPrefix

theorem TypeResolver.IsFlat.resolve {resolver : TypeResolver} (h : resolver.IsFlat) {name : String}
    (chars : NameChars name.toList) : Flat (resolver.resolve name) := by
  have converted : Flat (resolver.names.convert name) :=
    NameStyle.flat_convertWith h.typesPrefix (show Flat "" by decide) chars
  unfold TypeResolver.resolve
  split
  · rename_i type found
    split
    · exact chars.flat
    · exact h.scalars type ((OrderedMap.mem_values_iff _ _).2 ⟨name, found⟩)
  · dsimp only
    split
    · rename_i package named
      split
      · exact converted
      · exact ((h.qualifier package named).append (by decide)).append converted
    · exact converted

namespace GoType

theorem flat_marks (depth : Nat) (pointer : Bool) : Flat (marks depth pointer) := by
  refine .append (.join fun mark mem => ?_) (by cases pointer <;> decide)
  rw [List.eq_of_mem_replicate mem]
  decide

theorem flat_text {type : GoType} (h : Flat type.base) : Flat type.text :=
  (flat_marks _ _).append h

end GoType

/-! ## Lines -/

namespace StructLine

theorem flat_keyTag {key : String} (chars : NameChars key.toList) : Flat (keyTag key) :=
  (Flat.append (by decide) chars.flat).append (by decide)

theorem wellNested_append {front back : String} (hf : Flat front) (hb : Flat back)
    (ne : back ≠ "") : WellNested (front ++ back) :=
  (hf.append hb).wellNested fun empty => ne (String.append_eq_empty_iff.1 empty).2

theorem wellNested_typename (pointer : Bool) {types : List String}
    (h : ∀ type ∈ types, NameChars type.toList) : WellNested (typename pointer types).text := by
  have tag : Flat (keyTag Schema.typenameField) := flat_keyTag (by decide)
  have listed : Flat (",".intercalate types) :=
    .intercalate (by decide) fun type mem => (h type mem).flat
  have front := ((Flat.append (show Flat "Typename " by decide)
    (GoType.flat_marks 0 pointer)).append (show Flat "string `" by decide)).append tag
  exact wellNested_append ((front.append (show Flat " types:\"" by decide)).append listed)
    (by decide) (by decide)

theorem wellNested_leaf {name : String} {type : GoType} (chars : NameChars name.toList)
    (h : Flat type.base) : WellNested (leaf name type).text := by
  have front := ((flat_camelCase chars).append (show Flat " " by decide)).append
    (GoType.flat_text h)
  exact wellNested_append ((front.append (show Flat " `" by decide)).append (flat_keyTag chars))
    (by decide) (by decide)

theorem wellNested_aliased {key name : String} {type : GoType} (key_chars : NameChars key.toList)
    (name_chars : NameChars name.toList) (h : Flat type.base) :
    WellNested (aliased key name type).text := by
  have front := ((flat_camelCase key_chars).append (show Flat " " by decide)).append
    (GoType.flat_text h)
  have tag := (front.append (show Flat " `" by decide)).append (flat_keyTag key_chars)
  exact wellNested_append ((tag.append (show Flat " originalField:\"" by decide)).append
    name_chars.flat) (by decide) (by decide)

theorem wellNested_texts {lines : List StructLine} (h : ∀ line ∈ lines, WellNested line.text) :
    ∀ text ∈ texts lines, WellNested text := by
  intro text ht
  obtain ⟨line, hm, rfl⟩ := exists_of_mem_texts ht
  exact h line hm

theorem wellNested_link {key : String} {lines : List StructLine} (chars : NameChars key.toList)
    (depth : Nat) (pointer : Bool) (h : ∀ line ∈ lines, WellNested line.text) :
    WellNested (link key depth pointer lines).text := by
  have front := ((flat_camelCase chars).append (show Flat " " by decide)).append
    (GoType.flat_marks depth pointer)
  have back := (Flat.append (show Flat " `" by decide) (flat_keyTag chars)).append
    (show Flat "`" by decide)
  have nested := wellNested_structOf (wellNested_texts h) front back
  rw [text]
  simpa only [String.append_assoc] using nested

theorem wellNested_branch {identifier onType : String} {lines : List StructLine}
    (hi : Flat identifier) (ho : Flat onType) (h : ∀ line ∈ lines, WellNested line.text) :
    WellNested (branch identifier onType lines).text := by
  have front := (Flat.append (show Flat "On" by decide) hi).append (show Flat " *" by decide)
  have back := (Flat.append (show Flat " `graphql:\"... on " by decide) ho).append
    (show Flat "\"`" by decide)
  have nested := wellNested_structOf (wellNested_texts h) front back
  rw [text]
  simpa only [String.append_assoc] using nested

theorem wellNested_embedded {names : NameStyle} {qualifier? : Option String} {fragment : String}
    {isExternal : Bool} (h : Flat (fragmentTypeName names qualifier? fragment isExternal)) :
    WellNested (embedded (fragmentTypeName names qualifier? fragment isExternal)).text := by
  show WellNested (fragmentTypeName names qualifier? fragment isExternal)
  refine h.wellNested fun empty => ?_
  have last := getLast?_fragmentTypeName names qualifier? fragment isExternal
  rw [empty] at last
  cases last

end StructLine

/-! ## Selections -/

namespace SelectionContext

open Selection (heights inlinesUnder)

variable {context : SelectionContext} {parent : String}

/-- What is written besides names of the schema and of documents breaks no line and has neither
tabs nor braces, and the names are made of letters, digits and underscores. -/
structure IsFlat (context : SelectionContext) : Prop where
  resolver : context.resolver.IsFlat
  qualifier : ∀ package ∈ context.options.qualifier?, Flat package
  schema : ∀ name ∈ context.schema.typeNames, NameChars name.toList
  fragments : ∀ loaded ∈ context.fragments.values,
    NameChars loaded.fragment.name.toList ∧ NameChars loaded.fragment.onType.toList

/-- The type and the names in the selections on it are made of letters, digits and underscores. -/
def HasNameChars (parent : String) (selections : List Selection) : Prop :=
  NameChars parent.toList ∧ ∀ name ∈ Selection.namesOf selections, NameChars name.toList

theorem hasNameChars_passedOn (h : context.IsFlat) : context.PassedOn HasNameChars :=
  names_passedOn h.schema

theorem flat_leafType (h : context.IsFlat) {selections : List Selection} {field : DefinedField}
    (hf : field ∈ context.definedFields parent selections) :
    Flat (context.leafType field).base := by
  obtain ⟨-, named, typed⟩ := mem_definedFields.1 hf
  exact h.resolver.resolve (h.schema _ (Schema.baseName_mem_typeNames named typed))

/-- The lines of the inline fragments in the selections are well nested. -/
def InlinesNested (context : SelectionContext) (parent : String) (selections : List Selection) :
    Prop :=
  ∀ condition? directives inner, .inline condition? directives inner ∈ selections →
    ∀ withTypename lines, context.Renders (condition?.getD parent) withTypename inner lines →
      ∀ line ∈ lines, WellNested line.text

section

variable {selections : List Selection} {collected : Collected} (h : context.IsFlat)
  (chars : HasNameChars parent selections)
  (gathers : context.Gathers context.rendering parent selections collected)
  (inlines : context.InlinesNested parent selections)

include h gathers inlines in
theorem wellNested_entry {condition? : Option String} {entry : FragmentEntry}
    (he : entry ∈ collected.entriesUnder condition?) :
    ∀ line ∈ entry.lines, WellNested line.text := by
  cases entry with
  | inline lines =>
    obtain ⟨inner, hi, renders⟩ := (gathers.inlines condition?).sound lines he
    obtain ⟨directives, hi⟩ := Selection.mem_inlinesUnder.1 hi
    exact inlines condition? directives inner hi _ lines renders
  | spread type =>
    obtain ⟨name, directives, loaded, -, known, -, rfl⟩ := gathers.spreads condition? type he
    have named := h.fragments loaded
      (List.mem_map_of_mem ((OrderedMap.mem_entries_iff _ _ _).2 known))
    intro line hm
    obtain rfl := List.mem_singleton.1 hm
    exact StructLine.wellNested_embedded
      (flat_fragmentTypeName h.resolver.typesPrefix h.qualifier named.1 _)

include h chars gathers in
theorem nameChars_condition {condition? : Option String}
    (hk : condition? ∈ collected.fragments.keys) :
    NameChars (condition?.getD parent).toList := by
  cases condition? with
  | none => exact chars.1
  | some onType =>
    rcases gathers.namesFragmentOn hk with ⟨directives, inner, hi⟩ |
      ⟨name, directives, loaded, -, known, rfl⟩
    · exact chars.2 _ (Selection.condition_mem_namesOf hi)
    · exact (h.fragments loaded
        (List.mem_map_of_mem ((OrderedMap.mem_entries_iff _ _ _).2 known))).2

include h chars gathers inlines in
theorem wellNested_fragmentLines {condition? : Option String} {entries : List FragmentEntry}
    (he : (condition?, entries) ∈ collected.fragments.entries) :
    ∀ line ∈ context.fragmentLines parent condition? entries, WellNested line.text := by
  have each : ∀ line ∈ entries.flatMap (·.lines), WellNested line.text := by
    intro line hm
    obtain ⟨entry, mem, hm⟩ := List.mem_flatMap.1 hm
    rw [← Collected.entriesUnder_of_mem he] at mem
    exact wellNested_entry h gathers inlines mem line hm
  have named := nameChars_condition h chars gathers (List.mem_map_of_mem he)
  rw [fragmentLines_eq]
  split
  · intro line hm
    obtain rfl := List.mem_singleton.1 hm
    refine StructLine.wellNested_branch ?_ named.flat each
    exact NameStyle.flat_convertWith h.resolver.typesPrefix (show Flat "" by decide) named
  · exact each

include h chars gathers in
theorem wellNested_leafEntry {key : String} {type : GoType}
    (he : (key, type) ∈ collected.leaves.entries) : WellNested (StructLine.leaf key type).text := by
  rw [OrderedMap.mem_entries_iff, gathers.fields.leaves, Option.map_eq_some_iff] at he
  obtain ⟨field, hf, rfl⟩ := he
  obtain ⟨hd, -, rfl⟩ := DefinedField.firstUnder_eq_some hf
  exact StructLine.wellNested_leaf (chars.2 _ (names_mem_of_definedField hd).1)
    (flat_leafType h hd)

include h chars gathers in
theorem wellNested_aliasedEntry {key name : String} {type : GoType}
    (he : (key, name, type) ∈ collected.aliased.entries) :
    WellNested (StructLine.aliased key name type).text := by
  rw [OrderedMap.mem_entries_iff, gathers.fields.aliased, Option.map_eq_some_iff] at he
  obtain ⟨field, hf, he⟩ := he
  obtain ⟨hd, -, rfl⟩ := DefinedField.firstUnder_eq_some hf
  cases he
  obtain ⟨key_mem, name_mem⟩ := names_mem_of_definedField hd
  exact StructLine.wellNested_aliased (chars.2 _ key_mem) (chars.2 _ name_mem)
    (flat_leafType h hd)

end

theorem wellNested_of_renders (h : context.IsFlat) {withTypename : Bool}
    {selections : List Selection} {lines : List StructLine}
    (chars : HasNameChars parent selections)
    (renders : context.Renders parent withTypename selections lines) :
    ∀ line ∈ lines, WellNested line.text := by
  -- on the nesting depth, since the selections of a link are put together from several fields
  induction hn : heights selections using Nat.strongRecOn
    generalizing parent withTypename selections lines with
  | ind n ih =>
    subst hn
    obtain ⟨queried, ok⟩ := renders
    obtain ⟨collected, links, rendered, -⟩ := exists_rendered ok
    have passed := hasNameChars_passedOn h
    have inlines : context.InlinesNested parent selections :=
      fun condition? directives inner hi withTypename lines renders =>
        ih _ (Selection.heights_lt_of_inline hi) (passed.inline chars hi) renders rfl
    intro line hm
    rw [rendered.lines_eq] at hm
    simp only [List.mem_append, or_assoc] at hm
    rcases hm with hm | hm | hm | hm | hm
    · split at hm
      · obtain ⟨pointer, rfl⟩ := typenameLine?_eq_some (Option.mem_toList.1 hm)
        refine StructLine.wellNested_typename pointer fun type mem => ?_
        rcases List.mem_cons.1 (possibleTypes_subset parent mem) with rfl | mem
        · exact chars.1
        · exact h.schema type mem
      · cases hm
    · obtain ⟨⟨key, type⟩, he, rfl⟩ := List.mem_map.1 hm
      exact wellNested_leafEntry h chars rendered.gathers he
    · obtain ⟨⟨key, name, type⟩, he, rfl⟩ := List.mem_map.1 hm
      exact wellNested_aliasedEntry h chars rendered.gathers he
    · obtain ⟨key, link, made, under, renders, rfl⟩ := rendered.exists_link hm
      have nested := ih _ (heights_link_lt under) (passed.link chars under) renders rfl
      obtain ⟨field, hf, -, rfl⟩ :=
        DefinedField.link?_isSome_iff.1 (Option.isSome_of_eq_some under)
      exact StructLine.wellNested_link (chars.2 _ (names_mem_of_definedField hf).1) _ _ nested
    · obtain ⟨⟨condition?, entries⟩, he, hm⟩ := List.mem_flatMap.1 hm
      exact wellNested_fragmentLines h chars rendered.gathers inlines he line hm

theorem wellNested_structLines (h : context.IsFlat) {selections : List Selection}
    (chars : HasNameChars parent selections) {lines : List StructLine}
    (ok : (context.structLines parent selections).outcome = .ok lines) :
    WellNested (StructLine.structText lines) := by
  have each := wellNested_of_renders h chars (structLines_eq_ok.1 ok)
  have nested := StructLine.wellNested_structOf (StructLine.wellNested_texts each)
    (show Flat "" by decide) (show Flat "" by decide)
  rwa [String.empty_append, String.append_empty] at nested

/-- The text that selections are rendered to is well nested, unless it is empty. -/
theorem structs_well_nested (h : context.IsFlat) {selections : List Selection}
    (chars : HasNameChars parent selections) {text : String}
    (ok : (context.structText parent selections).outcome = .ok text) (ne : text ≠ "") :
    WellNested text := by
  have nonempty : selections ≠ [] := by
    rintro rfl
    exact ne (Except.ok.inj ok).symm
  obtain ⟨lines, made, rfl⟩ := structText_eq_ok nonempty ok
  exact wellNested_structLines h chars made

theorem pet_structs_well_nested :
    petContext.IsFlat ∧ HasNameChars "Query" petSelections ∧
      ∃ text, (petContext.structText "Query" petSelections).outcome = .ok text ∧ text ≠ "" ∧
        WellNested text := by
  have resolver : petContext.resolver.IsFlat := ⟨by decide, (fun _ h => by cases h), by decide⟩
  have flat : petContext.IsFlat := ⟨resolver, (fun _ h => by cases h), by decide, by decide⟩
  have chars : HasNameChars "Query" petSelections := ⟨by decide, by decide⟩
  have written : (petContext.structText "Query" petSelections).outcome.toOption ≠ some "" := by
    decide +kernel
  obtain ⟨text, ok⟩ := Generation.exists_eq_ok
    (x := petContext.structText "Query" petSelections) (by decide +kernel)
  have ne : text ≠ "" := by
    rintro rfl
    exact written (congrArg _ ok)
  exact ⟨flat, chars, text, ok, ne, structs_well_nested flat chars ok ne⟩

end SelectionContext

end SchemaBindings
