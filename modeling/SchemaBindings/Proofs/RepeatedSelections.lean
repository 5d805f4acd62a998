import SchemaBindings.Proofs.ResponseKeys

/-!
# Repeated selections

Selections that stand in a list already add nothing to what is rendered. What they add to what is
collected are sub-selections of links, and these are selections that the links have already
(`Repeats`). `repeats_collectOne` is the step for one repeated selection; by induction on the
nesting, `outcome_rendering_append` says the same of the lines.
-/

namespace SchemaBindings

/-! ## Outcomes -/

namespace Generation

variable {α β : Type}

theorem outcome_mapM_congr {f : α → Generation β} {items others : List α}
    (h : List.Forall₂ (fun a b => (f b).outcome = (f a).outcome) items others) :
    (others.mapM f).outcome = (items.mapM f).outcome := by
  induction h with
  | nil => rfl
  | cons same rest ih =>
    rw [List.mapM_cons, List.mapM_cons, outcome_bind, outcome_bind, same]
    simp only [outcome_bind, ih]

end Generation

/-! ## Links with repeated sub-selections -/

/-- A link with more sub-selections, all of which it has already. -/
structure Link.Repeats (once again : Link) : Prop where
  type : again.type = once.type
  conditional : again.conditional = once.conditional
  selections : ∃ more, again.selections = once.selections ++ more ∧ more ⊆ once.selections

namespace Link

theorem Repeats.refl (link : Link) : link.Repeats link :=
  ⟨rfl, rfl, [], (List.append_nil _).symm, List.nil_subset _⟩

theorem Repeats.add {once again : Link} (h : once.Repeats again) {conditional : Bool}
    {inner : List Selection} (hc : conditional = true → once.conditional = true)
    (hi : inner ⊆ once.selections) :
    once.Repeats
      { again with
        conditional := again.conditional || conditional
        selections := again.selections ++ inner } := by
  obtain ⟨more, hm, hs⟩ := h.selections
  refine ⟨h.type, ?_, more ++ inner, ?_, List.append_subset.2 ⟨hs, hi⟩⟩
  · rw [h.conditional]
    cases conditional with
    | true => simp [hc rfl]
    | false => simp
  · rw [hm, List.append_assoc]

end Link

/-- An entry written over its own key keeps the entries related one by one. -/
theorem OrderedMap.forall₂_upsertEntries {α β : Type} [DecidableEq α] {R : β → β → Prop}
    {key : α} {value : β} {f : Option β → β} {entries others : List (α × β)}
    (h : List.Forall₂ (fun first second => second.1 = first.1 ∧ R first.2 second.2) entries others)
    (present : lookup key entries = some value)
    (step : ∀ other, R value other → R value (f (some other))) :
    List.Forall₂ (fun first second => second.1 = first.1 ∧ R first.2 second.2) entries
      (upsertEntries key f others) := by
  induction h with
  | nil => cases present
  | @cons first second entries others head rest ih =>
    obtain ⟨k, v⟩ := first
    obtain ⟨l, w⟩ := second
    obtain ⟨rfl, related⟩ := head
    rw [lookup] at present
    rw [upsertEntries]
    by_cases hk : l = key
    · rw [if_pos hk, Option.some.injEq] at present
      subst present
      rw [if_pos hk]
      exact .cons ⟨rfl, step w related⟩ rest
    · rw [if_neg hk] at present
      rw [if_neg hk]
      exact .cons ⟨rfl, related⟩ (ih present)

namespace Collected

/-- What is collected where selections come again: nothing differs but sub-selections of links that
come again themselves. -/
structure Repeats (once again : Collected) : Prop where
  queried : again.typenameQueried = once.typenameQueried
  leaves : again.leaves = once.leaves
  aliased : again.aliased = once.aliased
  links : List.Forall₂ (fun first second => second.1 = first.1 ∧ first.2.Repeats second.2)
    once.links.entries again.links.entries
  fragments : again.fragments = once.fragments

theorem Repeats.refl (collected : Collected) : collected.Repeats collected :=
  ⟨rfl, rfl, rfl, List.forall₂_same.2 fun entry _ => ⟨rfl, .refl entry.2⟩, rfl⟩

/-- A fragment that is written like one under the same type adds nothing. -/
theorem addFragment_eq_self {collected : Collected} {condition? : Option String}
    {entry : FragmentEntry}
    (h : ∃ other ∈ collected.entriesUnder condition?, entry.agrees other = true) :
    collected.addFragment condition? entry = collected := by
  obtain ⟨other, ho, ha⟩ := h
  cases hf : collected.fragments.find? condition? with
  | none => simp [entriesUnder, hf] at ho
  | some entries =>
    rw [entriesUnder, hf, Option.getD_some] at ho
    have same := OrderedMap.upsert_eq_self (f := fun entries? =>
      if (entries?.getD []).any entry.agrees then entries?.getD []
      else entries?.getD [] ++ [entry]) hf
      (if_pos (List.any_eq_true.2 ⟨other, ho, ha⟩))
    unfold addFragment
    rw [same]

end Collected

namespace SelectionContext

variable {context : SelectionContext} {nested : Nested} {parent : String}

/-! ## One more selection -/

/-- Collecting a field never fails. -/
theorem outcome_collectField (collected : Collected) (call : FieldCall) (inner : List Selection) :
    (context.collectField parent collected call inner).outcome = .ok
      (if call.name = Schema.typenameField then { collected with typenameQueried := true }
      else ((context.definedField? parent (.field call inner)).map
        (context.addField collected)).getD collected) := by
  unfold collectField
  rw [definedField?]
  by_cases hn : call.name = Schema.typenameField
  · simp [hn]
  · cases ht : context.schema.fieldType? parent call.name with
    | none => simp [hn]
    | some type =>
      simp only [hn, if_false, Option.map_some, Option.getD_some]
      unfold addField leafType DefinedField.isLink
      cases inner.isEmpty <;> simp

theorem collectInline_of_ok {collected : Collected} {condition? : Option String}
    {inner : List Selection} {queried : Bool} {lines : List StructLine}
    (known : ∀ type, condition? = some type → (context.schema.kind? type).isSome = true)
    (ok : (nested (condition?.getD parent) (context.isBranch parent (condition?.getD parent))
      inner).outcome = .ok (queried, lines)) :
    (context.collectInline nested parent collected condition? inner).outcome =
      .ok (Collected.addFragment { collected with
        typenameQueried := collected.typenameQueried ||
          (!context.isBranch parent (condition?.getD parent) && queried) }
        condition? (.inline lines)) := by
  unfold collectInline
  cases condition? with
  | none => exact Generation.outcome_bind_eq_ok.2 ⟨_, ok, rfl⟩
  | some type =>
    obtain ⟨kind, hk⟩ := Option.isSome_iff_exists.1 (known type rfl)
    simp only [hk, Option.isNone_some, Bool.false_eq_true, if_false]
    exact Generation.outcome_bind_eq_ok.2 ⟨_, ok, rfl⟩

/-- The entry for a spread of a fragment. -/
def spreadEntry (context : SelectionContext) (loaded : LoadedFragment) : FragmentEntry :=
  .spread (fragmentTypeName context.resolver.names context.options.qualifier?
    loaded.fragment.name loaded.isExternal)

theorem outcome_collectSpread (collected : Collected) (name : String) :
    (context.collectSpread collected name).outcome = .ok
      (((context.fragments.find? name).map fun loaded =>
        collected.addFragment loaded.fragment.onType (context.spreadEntry loaded)).getD
          collected) := by
  unfold collectSpread
  cases context.fragments.find? name <;> simp [spreadEntry]

theorem mem_entriesUnder_addFragment {collected : Collected} {condition? other? : Option String}
    {entry other : FragmentEntry} (h : other ∈ collected.entriesUnder other?) :
    other ∈ (collected.addFragment condition? entry).entriesUnder other? := by
  rw [Collected.entriesUnder_addFragment]
  split
  · rename_i hc
    exact FragmentEntry.subset_addTo (hc ▸ h)
  · exact h

theorem mem_entriesUnder_collectOne {collected next : Collected} {selection : Selection}
    (ok : (context.collectOne nested parent collected selection).outcome = .ok next)
    {condition? : Option String} {entry : FragmentEntry}
    (h : entry ∈ collected.entriesUnder condition?) : entry ∈ next.entriesUnder condition? := by
  cases selection with
  | field call inner =>
    rw [collectOne, outcome_collectField, Except.ok.injEq] at ok
    subst ok
    split
    · exact h
    · cases context.definedField? parent (.field call inner) with
      | none => exact h
      | some field =>
        unfold Collected.entriesUnder at h ⊢
        rwa [Option.map_some, Option.getD_some, fragments_addField]
  | spread name directives =>
    rw [collectOne, outcome_collectSpread, Except.ok.injEq] at ok
    subst ok
    cases context.fragments.find? name with
    | none => exact h
    | some loaded => exact mem_entriesUnder_addFragment h
  | inline other? directives inner =>
    obtain ⟨-, queried, lines, -, rfl⟩ := collectInline_eq_ok ok
    exact mem_entriesUnder_addFragment h

/-- Every spread of a known fragment has an entry that is written like it. -/
def KeepsSpreads (context : SelectionContext) (passed : List Selection) (collected : Collected) :
    Prop :=
  ∀ name directives loaded, .spread name directives ∈ passed →
    context.fragments.find? name = some loaded →
      ∃ entry ∈ collected.entriesUnder loaded.fragment.onType,
        (context.spreadEntry loaded).agrees entry = true

theorem KeepsSpreads.step {passed : List Selection} {collected next : Collected}
    (h : context.KeepsSpreads passed collected) (selection : Selection)
    (ok : (context.collectOne nested parent collected selection).outcome = .ok next) :
    context.KeepsSpreads (passed ++ [selection]) next := by
  intro name directives loaded hs hl
  rcases List.mem_append.1 hs with hs | hs
  · obtain ⟨entry, he, ha⟩ := h name directives loaded hs hl
    exact ⟨entry, mem_entriesUnder_collectOne ok he, ha⟩
  · obtain rfl := List.mem_singleton.1 hs
    rw [collectOne, outcome_collectSpread, hl, Except.ok.injEq] at ok
    subst ok
    rw [Option.map_some, Option.getD_some, Collected.entriesUnder_addFragment, if_pos rfl]
    exact FragmentEntry.exists_agrees_addTo _ _

theorem keepsSpreads_of_collect {selections : List Selection} {collected : Collected}
    (ok : (context.collect nested parent selections).outcome = .ok collected) :
    context.KeepsSpreads selections collected :=
  Generation.foldlM_run (fun _ _ _ h => by cases h)
    (fun _ selection _ _ _ h ok => h.step selection ok) ok

/-! ## Collecting again -/

section Again

variable {selections : List Selection} {once again : Collected}

theorem repeats_addField
    (fields : context.HoldsFields (context.definedFields parent selections) once)
    (h : once.Repeats again) {field : DefinedField}
    (mem : field ∈ context.definedFields parent selections) :
    once.Repeats (context.addField again field) := by
  unfold addField
  cases hl : field.isLink with
  | true =>
    obtain ⟨link, under, conditional, inner⟩ := DefinedField.link?_of_mem mem hl
    refine ⟨h.queried, h.leaves, h.aliased, ?_, h.fragments⟩
    exact OrderedMap.forall₂_upsertEntries h.links ((fields.links _).trans under)
      fun other repeats => repeats.add conditional inner
  | false =>
    rw [if_neg Bool.false_ne_true, Collected.addLeaf]
    have class_ : ∀ kind : DefinedField → Bool, kind field = true →
        ∃ first, DefinedField.firstUnder kind (context.definedFields parent selections)
          field.key = some first :=
      fun kind hk => Option.isSome_iff_exists.1
        (DefinedField.firstUnder_isSome_iff.2 ⟨field, mem, hk, rfl⟩)
    by_cases hn : field.call.responseName = field.call.name
    · obtain ⟨first, hf⟩ := class_ (·.isPlain)
        (by simp [DefinedField.isPlain, hl, DefinedField.key, hn])
      have present : once.leaves.find? field.key = some (context.leafType first) := by
        rw [fields.leaves, hf, Option.map_some]
      rw [if_pos hn]
      refine ⟨h.queried, ?_, h.aliased, h.links, h.fragments⟩
      show again.leaves.insertNew field.key (context.leafType field) = once.leaves
      rw [h.leaves]
      exact OrderedMap.upsert_eq_self present rfl
    · obtain ⟨first, hf⟩ := class_ (·.isAliased)
        (by simp [DefinedField.isAliased, hl, DefinedField.key, hn])
      have present : once.aliased.find? field.key =
          some (first.call.name, context.leafType first) := by
        rw [fields.aliased, hf, Option.map_some]
      rw [if_neg hn]
      refine ⟨h.queried, h.leaves, ?_, h.links, h.fragments⟩
      show again.aliased.insertNew field.key (field.call.name, context.leafType field) =
        once.aliased
      rw [h.aliased]
      exact OrderedMap.upsert_eq_self present rfl

theorem repeats_field (gathers : context.Gathers nested parent selections once)
    (h : once.Repeats again) {call : FieldCall} {inner : List Selection}
    (hm : .field call inner ∈ selections) :
    ∃ next, (context.collectField parent again call inner).outcome = .ok next ∧
      once.Repeats next := by
  refine ⟨_, outcome_collectField again call inner, ?_⟩
  split
  · rename_i hn
    exact ⟨(gathers.queried.2 ⟨_, hm, hn⟩).symm, h.leaves, h.aliased, h.links, h.fragments⟩
  · cases hd : context.definedField? parent (.field call inner) with
    | none => exact h
    | some field => exact repeats_addField gathers.fields h (List.mem_filterMap.2 ⟨_, hm, hd⟩)

theorem repeats_spread (keeps : context.KeepsSpreads selections once) (h : once.Repeats again)
    {name : String} {directives : List Directive} (hm : .spread name directives ∈ selections) :
    (context.collectSpread again name).outcome = .ok again := by
  rw [outcome_collectSpread]
  cases hl : context.fragments.find? name with
  | none => rfl
  | some loaded =>
    have kept : ∃ entry ∈ again.entriesUnder loaded.fragment.onType,
        (context.spreadEntry loaded).agrees entry = true := by
      unfold Collected.entriesUnder
      rw [h.fragments]
      exact keeps name directives loaded hm hl
    rw [Option.map_some, Option.getD_some, Collected.addFragment_eq_self kept]

theorem repeats_inline (gathers : context.Gathers nested parent selections once)
    (h : once.Repeats again) {condition? : Option String} {directives : List Directive}
    {inner : List Selection} (hm : .inline condition? directives inner ∈ selections) :
    (context.collectInline nested parent again condition? inner).outcome = .ok again := by
  obtain ⟨lines, ⟨queried, ok⟩, entry, he, ha⟩ := (gathers.inlines condition?).covers inner
    (Selection.mem_inlinesUnder.2 ⟨directives, hm⟩)
  have kept : ∃ other ∈ again.entriesUnder condition?,
      (FragmentEntry.inline lines).agrees other = true := by
    unfold Collected.entriesUnder
    rw [h.fragments]
    exact ⟨entry, he, ha⟩
  have asked : (again.typenameQueried ||
      (!context.isBranch parent (condition?.getD parent) && queried)) = again.typenameQueried := by
    cases hb : context.isBranch parent (condition?.getD parent) with
    | true => simp
    | false =>
      cases queried with
      | false => simp
      | true =>
        rw [hb] at ok
        rw [h.queried, gathers.queried.2 ⟨_, hm, hb, lines, ok⟩]
        rfl
  have known : ∀ type, condition? = some type → (context.schema.kind? type).isSome = true := by
    rintro type rfl
    exact gathers.known type directives inner hm
  rw [collectInline_of_ok known ok, asked]
  exact congrArg Except.ok (Collected.addFragment_eq_self kept)

/-- One more selection that has been collected. -/
theorem repeats_collectOne (gathers : context.Gathers nested parent selections once)
    (keeps : context.KeepsSpreads selections once) (h : once.Repeats again) {selection : Selection}
    (hm : selection ∈ selections) :
    ∃ next, (context.collectOne nested parent again selection).outcome = .ok next ∧
      once.Repeats next := by
  cases selection with
  | field call inner => exact repeats_field gathers h hm
  | spread name directives => exact ⟨again, repeats_spread keeps h hm, h⟩
  | inline condition? directives inner => exact ⟨again, repeats_inline gathers h hm, h⟩

theorem repeats_foldlM (gathers : context.Gathers nested parent selections once)
    (keeps : context.KeepsSpreads selections once) {more : List Selection}
    (hs : more ⊆ selections) (h : once.Repeats again) :
    ∃ next, (more.foldlM (context.collectOne nested parent) again).outcome = .ok next ∧
      once.Repeats next := by
  induction more generalizing again with
  | nil => exact ⟨again, rfl, h⟩
  | cons selection rest ih =>
    obtain ⟨hm, hs⟩ := List.cons_subset.1 hs
    obtain ⟨next, ok, repeats⟩ := repeats_collectOne gathers keeps h hm
    obtain ⟨last, run, repeats⟩ := ih hs repeats
    exact ⟨last, by rw [List.foldlM_cons, Generation.outcome_bind, ok]; exact run, repeats⟩

theorem outcome_linkLine_repeats {key : String} {link other : Link} (h : link.Repeats other)
    (same : (nested link.type.baseName true other.selections).outcome =
      (nested link.type.baseName true link.selections).outcome) :
    (context.linkLine nested key other).outcome = (context.linkLine nested key link).outcome := by
  unfold linkLine
  rw [Generation.outcome_bind, Generation.outcome_bind, h.type, h.conditional, same]

theorem outcome_lines_repeats (h : once.Repeats again) (withTypename : Bool)
    (nested_again : ∀ key link other, once.links.find? key = some link → link.Repeats other →
      (nested link.type.baseName true other.selections).outcome =
        (nested link.type.baseName true link.selections).outcome) :
    (context.lines nested parent withTypename again).outcome =
      (context.lines nested parent withTypename once).outcome := by
  have links : (again.links.entries.mapM fun (key, link) =>
        context.linkLine nested key link).outcome =
      (once.links.entries.mapM fun (key, link) => context.linkLine nested key link).outcome := by
    have found : ∀ entry ∈ once.links.entries, once.links.find? entry.1 = some entry.2 :=
      fun entry he => (OrderedMap.mem_entries_iff _ _ _).1 he
    refine Generation.outcome_mapM_congr (((List.forall₂_and_left _ _).2 ⟨found, h.links⟩).imp ?_)
    rintro ⟨key, link⟩ ⟨other, again⟩ ⟨hf, rfl, repeats⟩
    exact outcome_linkLine_repeats repeats (nested_again _ link again hf repeats)
  unfold lines
  rw [Generation.outcome_bind, Generation.outcome_bind, links, h.queried, h.leaves, h.aliased,
    h.fragments]

end Again

/-! ## Rendering again -/

/-- Selections that stand in a list already make no difference to its rendering. -/
theorem outcome_rendering_append {selections more : List Selection} (hs : more ⊆ selections)
    (withTypename : Bool) :
    (context.rendering parent withTypename (selections ++ more)).outcome =
      (context.rendering parent withTypename selections).outcome := by
  -- on the nesting depth, since the sub-selections of a link are put together from several fields
  induction hn : Selection.heights selections using Nat.strongRecOn
    generalizing parent withTypename selections more with
  | ind n ih =>
    subst hn
    rw [rendering_eq, rendering_eq, Generation.outcome_bind, Generation.outcome_bind]
    unfold collect
    rw [List.foldlM_append, Generation.outcome_bind]
    cases hc : (selections.foldlM (context.collectOne context.rendering parent) {}).outcome with
    | error error => rfl
    | ok once =>
      have gathers : context.Gathers context.rendering parent selections once :=
        gathers_of_collect hc
      obtain ⟨again, run, repeats⟩ := repeats_foldlM gathers
        (keepsSpreads_of_collect hc) hs (Collected.Repeats.refl once)
      have lines : (context.lines context.rendering parent withTypename again).outcome =
          (context.lines context.rendering parent withTypename once).outcome := by
        refine outcome_lines_repeats repeats withTypename fun key link other hl hr => ?_
        obtain ⟨more, hm, hs⟩ := hr.selections
        rw [hm]
        exact ih _ (heights_link_lt ((gathers.fields.links key).symm.trans hl)) hs true rfl
      show (more.foldlM (context.collectOne context.rendering parent) once).outcome >>= _ = _
      rw [run]
      show (context.lines context.rendering parent withTypename again >>= _).outcome =
        (context.lines context.rendering parent withTypename once >>= _).outcome
      rw [Generation.outcome_bind, Generation.outcome_bind, lines, repeats.queried]

/-- Selections that repeat some of a list, behind it, change neither the text nor the error. -/
theorem structText_append_repeated (context : SelectionContext) (parent : String)
    {selections more : List Selection} (hs : more ⊆ selections) :
    (context.structText parent (selections ++ more)).outcome =
      (context.structText parent selections).outcome := by
  have lines : (context.structLines parent (selections ++ more)).outcome =
      (context.structLines parent selections).outcome := by
    have rendered : (context.rendering parent true (selections ++ more)).outcome =
        (context.rendering parent true selections).outcome := outcome_rendering_append hs true
    unfold rendering at rendered
    unfold structLines
    rw [Generation.outcome_bind, Generation.outcome_bind, rendered]
  unfold structText
  cases selections with
  | nil =>
    rw [List.subset_nil] at hs
    rw [hs, List.append_nil]
  | cons first rest =>
    rw [if_neg (by simp), if_neg (by simp), Generation.outcome_bind, Generation.outcome_bind, lines]

/-- Selections on types of `petSchema`, with a fragment on `Cat`. -/
def namedCatContext : SelectionContext :=
  { petContext with
    fragments := .ofFragments [
      { fragment := { name := "Named", onType := "Cat", selections := [.field { name := "id" } []] }
        isExternal := false }] }

/-- The field `cat { id @skip mother { id } }`. -/
def catField : Selection :=
  .field { name := "cat" } [
    .field { name := "id", directives := [{ name := "skip" }] } [],
    .field { name := "mother" } [.field { name := "id" } []]]

/-- The field `cat { ...Named ... { own: id } mother @include { own: id } }`. -/
def namedCatField : Selection :=
  .field { name := "cat" } [
    .spread "Named" [],
    .inline none [] [.field { alias? := some "own", name := "id" } []],
    .field { name := "mother", directives := [{ name := "include" }] }
      [.field { alias? := some "own", name := "id" } []]]

theorem cat_fields_repeated :
    [namedCatField, catField, namedCatField] ⊆ [catField, namedCatField] ∧
      (namedCatContext.structText "Query" [catField, namedCatField]).outcome.isOk = true ∧
      (namedCatContext.structText "Query"
        ([catField, namedCatField] ++ [namedCatField, catField, namedCatField])).outcome =
        (namedCatContext.structText "Query" [catField, namedCatField]).outcome := by
  have repeated : [namedCatField, catField, namedCatField] ⊆ [catField, namedCatField] := by
    simp
  exact ⟨repeated, by decide +kernel, structText_append_repeated namedCatContext "Query" repeated⟩

end SelectionContext

end SchemaBindings
