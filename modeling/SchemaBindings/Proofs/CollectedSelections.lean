import SchemaBindings.Proofs.CollectedFields
import SchemaBindings.Proofs.GenerationOutcome

/-!
# Collected selections

What `collect` gathers, told from the selections: `Gathers` holds of the selections that have been
passed and what is collected from them. `Gathers.step` is the step for one more selection, and
`gathers_of_collect` the run over all of them.

The inline fragments under one type condition are kept apart (`KeepsApart`): each of them is written
as one of the entries is, and no two entries are written alike.
-/

namespace SchemaBindings

namespace Selection

/-- The selections of the inline fragments with a type condition, or of those without one. -/
def inlinesUnder (condition? : Option String) (selections : List Selection) :
    List (List Selection) :=
  selections.filterMap fun
    | .inline other? _ inner => if other? = condition? then some inner else none
    | .field _ _ => none
    | .spread _ _ => none

theorem mem_inlinesUnder {condition? : Option String} {selections : List Selection}
    {inner : List Selection} :
    inner ∈ inlinesUnder condition? selections ↔
      ∃ directives, .inline condition? directives inner ∈ selections := by
  rw [inlinesUnder, List.mem_filterMap]
  constructor
  · rintro ⟨selection, hs, h⟩
    cases selection with
    | field call other => cases h
    | spread fragment directives => cases h
    | inline other? directives other =>
      dsimp only at h
      split at h
      · rename_i hc
        cases h
        exact ⟨directives, hc ▸ hs⟩
      · cases h
  · rintro ⟨directives, hs⟩
    exact ⟨_, hs, if_pos rfl⟩

end Selection

open Selection (inlinesUnder)

/-! ## Entries that are kept apart -/

namespace FragmentEntry

theorem agrees_inline {lines others : List StructLine} :
    (inline lines).agrees (inline others) = true ↔
      StructLine.texts lines = StructLine.texts others := by
  rw [agrees, beq_iff_eq]

/-- Adds the entry to others, unless one of them is written alike. -/
def addTo (entry : FragmentEntry) (entries : List FragmentEntry) : List FragmentEntry :=
  if entries.any entry.agrees then entries else entries ++ [entry]

theorem subset_addTo {entry other : FragmentEntry} {entries : List FragmentEntry}
    (h : other ∈ entries) : other ∈ entry.addTo entries := by
  unfold addTo
  split
  · exact h
  · exact List.mem_append_left _ h

theorem mem_addTo {entry other : FragmentEntry} {entries : List FragmentEntry}
    (h : other ∈ entry.addTo entries) : other ∈ entries ∨ other = entry := by
  unfold addTo at h
  split at h
  · exact .inl h
  · simpa using h

theorem addTo_ne_nil (entry : FragmentEntry) (entries : List FragmentEntry) :
    entry.addTo entries ≠ [] := by
  unfold addTo
  split
  · rename_i h
    obtain ⟨other, ho, -⟩ := List.any_eq_true.1 h
    exact List.ne_nil_of_mem ho
  · simp

theorem agrees_self (entry : FragmentEntry) : entry.agrees entry = true := by
  cases entry <;> simp [agrees]

theorem exists_agrees_addTo (entry : FragmentEntry) (entries : List FragmentEntry) :
    ∃ other ∈ entry.addTo entries, entry.agrees other = true := by
  unfold addTo
  split
  · rename_i h
    exact List.any_eq_true.1 h
  · exact ⟨entry, by simp, agrees_self entry⟩

theorem pairwise_addTo {entry : FragmentEntry} {entries : List FragmentEntry}
    (h : entries.Pairwise fun earlier later => later.agrees earlier = false) :
    (entry.addTo entries).Pairwise fun earlier later => later.agrees earlier = false := by
  unfold addTo
  split
  · exact h
  · rename_i hn
    rw [List.any_eq_true, not_exists] at hn
    refine List.pairwise_append.2 ⟨h, List.pairwise_singleton _ _, fun earlier he later hl => ?_⟩
    rw [List.mem_singleton] at hl
    subst hl
    exact Bool.eq_false_iff.2 fun ha => hn earlier ⟨he, ha⟩

end FragmentEntry

/-- Of lists that are written as lines of a struct the entries keep one of each that are written
alike. There may be entries of spreads among them. -/
structure KeepsApart (written : List Selection → List StructLine → Prop)
    (lists : List (List Selection)) (entries : List FragmentEntry) : Prop where
  covers : ∀ inner ∈ lists, ∃ lines, written inner lines ∧
    ∃ entry ∈ entries, (FragmentEntry.inline lines).agrees entry = true
  sound : ∀ lines, .inline lines ∈ entries → ∃ inner ∈ lists, written inner lines
  apart : entries.Pairwise fun earlier later => later.agrees earlier = false

namespace KeepsApart

variable {written : List Selection → List StructLine → Prop} {lists : List (List Selection)}
  {entries : List FragmentEntry}

theorem nil : KeepsApart written [] [] := ⟨by simp, by simp, .nil⟩

/-- A single list is kept as it is written. -/
theorem singleton {inner : List Selection} {lines : List StructLine} (h : written inner lines) :
    KeepsApart written [inner] [.inline lines] := by
  refine ⟨?_, ?_, List.pairwise_singleton _ _⟩
  · intro other ho
    rw [List.mem_singleton] at ho
    subst ho
    exact ⟨lines, h, _, List.mem_singleton_self _, FragmentEntry.agrees_inline.2 rfl⟩
  · intro others ho
    rw [List.mem_singleton, FragmentEntry.inline.injEq] at ho
    subst ho
    exact ⟨inner, List.mem_singleton_self _, h⟩

theorem exists_texts_eq (h : KeepsApart written lists entries) {inner : List Selection}
    (hi : inner ∈ lists) : ∃ lines kept, written inner lines ∧ .inline kept ∈ entries ∧
      StructLine.texts lines = StructLine.texts kept := by
  obtain ⟨lines, hw, entry, he, agrees⟩ := h.covers inner hi
  cases entry with
  | spread type => cases agrees
  | inline kept => exact ⟨lines, kept, hw, he, FragmentEntry.agrees_inline.1 agrees⟩

theorem addInline (h : KeepsApart written lists entries) {inner : List Selection}
    {lines : List StructLine} (hw : written inner lines) :
    KeepsApart written (lists ++ [inner]) ((FragmentEntry.inline lines).addTo entries) := by
  refine ⟨?_, ?_, FragmentEntry.pairwise_addTo h.apart⟩
  · intro other ho
    rcases List.mem_append.1 ho with ho | ho
    · obtain ⟨others, hw', entry, he, ha⟩ := h.covers other ho
      exact ⟨others, hw', entry, FragmentEntry.subset_addTo he, ha⟩
    · rw [List.mem_singleton] at ho
      subst ho
      exact ⟨lines, hw, FragmentEntry.exists_agrees_addTo (.inline lines) entries⟩
  · intro others ho
    rcases FragmentEntry.mem_addTo ho with ho | ho
    · obtain ⟨other, hm, hw'⟩ := h.sound others ho
      exact ⟨other, List.mem_append_left _ hm, hw'⟩
    · rw [FragmentEntry.inline.injEq] at ho
      subst ho
      exact ⟨inner, by simp, hw⟩

theorem addSpread (h : KeepsApart written lists entries) (type : String) :
    KeepsApart written lists ((FragmentEntry.spread type).addTo entries) := by
  refine ⟨?_, ?_, FragmentEntry.pairwise_addTo h.apart⟩
  · intro other ho
    obtain ⟨others, hw, entry, he, ha⟩ := h.covers other ho
    exact ⟨others, hw, entry, FragmentEntry.subset_addTo he, ha⟩
  · intro others ho
    rcases FragmentEntry.mem_addTo ho with ho | ho
    · exact h.sound others ho
    · cases ho

end KeepsApart

namespace Collected

/-- The entries of the fragments on a type, or of those without a type condition. -/
def entriesUnder (collected : Collected) (condition? : Option String) : List FragmentEntry :=
  (collected.fragments.find? condition?).getD []

theorem mem_entriesUnder {collected : Collected} {condition? : Option String}
    {entry : FragmentEntry} : entry ∈ collected.entriesUnder condition? ↔
      ∃ entries, (condition?, entries) ∈ collected.fragments.entries ∧ entry ∈ entries := by
  simp only [OrderedMap.mem_entries_iff, entriesUnder]
  cases collected.fragments.find? condition? with
  | none => simp
  | some entries => simp

theorem entriesUnder_of_mem {collected : Collected} {condition? : Option String}
    {entries : List FragmentEntry} (h : (condition?, entries) ∈ collected.fragments.entries) :
    collected.entriesUnder condition? = entries := by
  rw [entriesUnder, (OrderedMap.mem_entries_iff _ _ _).1 h, Option.getD_some]

theorem mem_of_entriesUnder_ne_nil {collected : Collected} {condition? : Option String}
    (h : collected.entriesUnder condition? ≠ []) :
    (condition?, collected.entriesUnder condition?) ∈ collected.fragments.entries := by
  rw [OrderedMap.mem_entries_iff, entriesUnder]
  cases hf : collected.fragments.find? condition? with
  | none => exact absurd (by rw [entriesUnder, hf, Option.getD_none]) h
  | some entries => rfl

theorem entriesUnder_addFragment (collected : Collected) (condition? other? : Option String)
    (entry : FragmentEntry) :
    (collected.addFragment condition? entry).entriesUnder other? =
      if other? = condition? then entry.addTo (collected.entriesUnder condition?)
      else collected.entriesUnder other? := by
  unfold entriesUnder addFragment
  rw [OrderedMap.find?_upsert]
  split
  · rfl
  · rfl

theorem entriesUnder_addFragment_ne_nil {collected : Collected}
    (h : ∀ condition? ∈ collected.fragments.keys, collected.entriesUnder condition? ≠ [])
    (condition? : Option String) (entry : FragmentEntry) :
    ∀ other? ∈ (collected.addFragment condition? entry).fragments.keys,
      (collected.addFragment condition? entry).entriesUnder other? ≠ [] := by
  intro other? ho
  rw [entriesUnder_addFragment]
  split
  · exact FragmentEntry.addTo_ne_nil _ _
  · rename_i hn
    unfold addFragment at ho
    rw [OrderedMap.keys_upsert] at ho
    split at ho
    · exact h other? ho
    · rw [List.mem_append, List.mem_singleton] at ho
      exact h other? (ho.resolve_right hn)

end Collected

namespace SelectionContext

variable {context : SelectionContext} {nested : Nested} {parent : String}

theorem fragments_addField (collected : Collected) (field : DefinedField) :
    (context.addField collected field).fragments = collected.fragments := by
  unfold addField
  split
  · rfl
  · dsimp only [Collected.addLeaf]
    split <;> rfl

theorem typenameQueried_addField (collected : Collected) (field : DefinedField) :
    (context.addField collected field).typenameQueried = collected.typenameQueried := by
  unfold addField
  split
  · rfl
  · dsimp only [Collected.addLeaf]
    split <;> rfl

/-- How an inline fragment is written: on its type condition, or else on the type it stands on. Only
a branch has a line for `__typename` of its own. -/
def WritesInline (context : SelectionContext) (nested : Nested) (parent : String)
    (condition? : Option String) (inner : List Selection) (lines : List StructLine) : Prop :=
  ∃ queried, (nested (condition?.getD parent)
    (context.isBranch parent (condition?.getD parent)) inner).outcome = .ok (queried, lines)

/-- A selection asks for `__typename` on the type it stands on: it is the field itself, or an inline
fragment that is no branch and in which it is queried. -/
def QueriesTypename (context : SelectionContext) (nested : Nested) (parent : String) :
    Selection → Prop
  | .field call _ => call.name = Schema.typenameField
  | .spread _ _ => False
  | .inline condition? _ inner =>
    context.isBranch parent (condition?.getD parent) = false ∧
      ∃ lines, (nested (condition?.getD parent) false inner).outcome = .ok (true, lines)

/-- A spread in the selections is of a known fragment on the type of the condition, and the type
stands for that fragment. -/
def EmbedsSpread (context : SelectionContext) (passed : List Selection) (condition? : Option String)
    (type : String) : Prop :=
  ∃ name directives loaded, .spread name directives ∈ passed ∧
    context.fragments.find? name = some loaded ∧ condition? = some loaded.fragment.onType ∧
    type = fragmentTypeName context.resolver.names context.options.qualifier? loaded.fragment.name
      loaded.isExternal

theorem EmbedsSpread.append {passed : List Selection} {condition? : Option String} {type : String}
    (h : context.EmbedsSpread passed condition? type) (more : List Selection) :
    context.EmbedsSpread (passed ++ more) condition? type := by
  obtain ⟨name, directives, loaded, hm, hl⟩ := h
  exact ⟨name, directives, loaded, List.mem_append_left _ hm, hl⟩

/-- What is collected from the selections that have been passed. -/
structure Gathers (context : SelectionContext) (nested : Nested) (parent : String)
    (passed : List Selection) (collected : Collected) : Prop where
  fields : context.HoldsFields (context.definedFields parent passed) collected
  queried : collected.typenameQueried = true ↔
    ∃ selection ∈ passed, context.QueriesTypename nested parent selection
  inlines : ∀ condition?, KeepsApart (context.WritesInline nested parent condition?)
    (inlinesUnder condition? passed) (collected.entriesUnder condition?)
  spreads : ∀ condition? type, .spread type ∈ collected.entriesUnder condition? →
    context.EmbedsSpread passed condition? type
  known : ∀ type directives inner, .inline (some type) directives inner ∈ passed →
    (context.schema.kind? type).isSome = true
  nonempty : ∀ condition? ∈ collected.fragments.keys, collected.entriesUnder condition? ≠ []

theorem Gathers.empty : context.Gathers nested parent [] {} where
  fields := .empty
  queried := by simp
  inlines _ := .nil
  spreads _ _ h := by simp [Collected.entriesUnder] at h
  known := by simp
  nonempty := by simp

theorem definedFields_append (passed : List Selection) (selection : Selection) :
    context.definedFields parent (passed ++ [selection]) =
      context.definedFields parent passed ++ (context.definedField? parent selection).toList := by
  unfold definedFields
  rw [List.filterMap_append]
  cases h : context.definedField? parent selection <;> simp [h]

theorem inlinesUnder_append_of_not (passed : List Selection) {selection : Selection}
    (h : ∀ condition? directives inner, selection ≠ .inline condition? directives inner)
    (condition? : Option String) :
    inlinesUnder condition? (passed ++ [selection]) = inlinesUnder condition? passed := by
  unfold inlinesUnder
  rw [List.filterMap_append]
  cases selection with
  | field call inner => exact List.append_nil _
  | spread fragment directives => exact List.append_nil _
  | inline other? directives inner => exact absurd rfl (h other? directives inner)

/-! ## One more selection -/

theorem exists_mem_append_singleton {P : Selection → Prop} {passed : List Selection}
    {selection : Selection} :
    (∃ other ∈ passed ++ [selection], P other) ↔ (∃ other ∈ passed, P other) ∨ P selection := by
  simp only [List.mem_append, List.mem_singleton, or_and_right, exists_or, exists_eq_left]

/-- A selection that is no field of the schema leaves the maps for fields as they are. -/
theorem HoldsFields.skip {passed : List Selection} {collected next : Collected}
    (h : context.HoldsFields (context.definedFields parent passed) collected)
    {selection : Selection} (leaves : next.leaves = collected.leaves)
    (aliased : next.aliased = collected.aliased) (links : next.links = collected.links)
    (none : context.definedField? parent selection = none) :
    context.HoldsFields (context.definedFields parent (passed ++ [selection])) next := by
  rw [definedFields_append, none, Option.toList_none, List.append_nil]
  refine ⟨fun key => ?_, fun key => ?_, fun key => ?_⟩
  · rw [leaves]
    exact h.leaves key
  · rw [aliased]
    exact h.aliased key
  · rw [links]
    exact h.links key

/-- A field leaves what is collected of fragments as it is. -/
theorem Gathers.of_field {passed : List Selection} {collected next : Collected}
    (h : context.Gathers nested parent passed collected) {call : FieldCall}
    {inner : List Selection}
    (fields : context.HoldsFields (context.definedFields parent (passed ++ [.field call inner]))
      next)
    (queried : next.typenameQueried = true ↔
      collected.typenameQueried = true ∨ call.name = Schema.typenameField)
    (fragments : next.fragments = collected.fragments) :
    context.Gathers nested parent (passed ++ [.field call inner]) next := by
  have entries : ∀ condition?, next.entriesUnder condition? = collected.entriesUnder condition? :=
    fun condition? => by rw [Collected.entriesUnder, Collected.entriesUnder, fragments]
  refine ⟨fields, ?_, ?_, ?_, ?_, ?_⟩
  · rw [queried, h.queried, exists_mem_append_singleton]
    rfl
  · intro condition?
    rw [entries, inlinesUnder_append_of_not passed (by simp)]
    exact h.inlines condition?
  · intro condition? type hs
    rw [entries] at hs
    exact (h.spreads condition? type hs).append _
  · intro type directives others hm
    exact h.known type directives others (by simpa using hm)
  · intro condition? hc
    rw [entries]
    exact h.nonempty condition? (fragments ▸ hc)

theorem Gathers.field {passed : List Selection} {collected next : Collected}
    (h : context.Gathers nested parent passed collected) {call : FieldCall}
    {inner : List Selection}
    (ok : (context.collectField parent collected call inner).outcome = .ok next) :
    context.Gathers nested parent (passed ++ [.field call inner]) next := by
  unfold collectField at ok
  by_cases hn : call.name = Schema.typenameField
  · rw [if_pos hn, Generation.outcome_pure, Except.ok.injEq] at ok
    subst ok
    refine h.of_field (h.fields.skip rfl rfl rfl ?_) ?_ rfl
    · rw [definedField?, if_pos hn]
    · exact ⟨fun _ => .inr hn, fun _ => rfl⟩
  · rw [if_neg hn] at ok
    cases ht : context.schema.fieldType? parent call.name with
    | none =>
      obtain rfl : collected = next := by simpa [ht] using ok
      refine h.of_field (h.fields.skip rfl rfl rfl ?_) (by simp [hn]) rfl
      rw [definedField?, if_neg hn, ht, Option.map_none]
    | some type =>
      obtain rfl : context.addField collected ⟨call, type, inner⟩ = next := by
        unfold addField leafType DefinedField.isLink
        rw [ht] at ok
        cases hi : inner.isEmpty <;> simpa [hi] using ok
      refine h.of_field ?_ (by simp [typenameQueried_addField, hn]) (fragments_addField _ _)
      rw [definedFields_append, definedField?, if_neg hn, ht]
      exact h.fields.add _

theorem Gathers.spread {passed : List Selection} {collected next : Collected}
    (h : context.Gathers nested parent passed collected) {name : String}
    {directives : List Directive}
    (ok : (context.collectSpread collected name).outcome = .ok next) :
    context.Gathers nested parent (passed ++ [.spread name directives]) next := by
  have queried : (∃ other ∈ passed ++ [.spread name directives],
      context.QueriesTypename nested parent other) ↔
        ∃ other ∈ passed, context.QueriesTypename nested parent other := by
    rw [exists_mem_append_singleton, or_iff_left]
    exact id
  have known : ∀ type others inner,
      .inline (some type) others inner ∈ passed ++ [.spread name directives] →
        (context.schema.kind? type).isSome = true :=
    fun type others inner hm => h.known type others inner (by simpa using hm)
  unfold collectSpread at ok
  cases hl : context.fragments.find? name with
  | none =>
    obtain rfl : collected = next := by simpa [hl] using ok
    refine ⟨h.fields.skip rfl rfl rfl rfl, h.queried.trans queried.symm, ?_, ?_, known,
      h.nonempty⟩
    · intro condition?
      rw [inlinesUnder_append_of_not passed (by simp)]
      exact h.inlines condition?
    · exact fun condition? type hs => (h.spreads condition? type hs).append _
  | some loaded =>
    obtain rfl := Except.ok.inj (hl ▸ ok)
    refine ⟨h.fields.skip rfl rfl rfl rfl, h.queried.trans queried.symm, ?_, ?_, known,
      Collected.entriesUnder_addFragment_ne_nil h.nonempty _ _⟩
    · intro condition?
      rw [inlinesUnder_append_of_not passed (by simp), Collected.entriesUnder_addFragment]
      split
      · rename_i hc
        exact hc ▸ (h.inlines condition?).addSpread _
      · exact h.inlines condition?
    · intro condition? type hs
      rw [Collected.entriesUnder_addFragment] at hs
      split at hs
      · rename_i hc
        subst hc
        rcases FragmentEntry.mem_addTo hs with hs | hs
        · exact (h.spreads _ type hs).append _
        · rw [FragmentEntry.spread.injEq] at hs
          exact ⟨name, directives, loaded, by simp, hl, rfl, hs⟩
      · exact (h.spreads condition? type hs).append _

/-- An inline fragment is collected where its type is known and its lines can be made. -/
theorem collectInline_eq_ok {collected next : Collected} {condition? : Option String}
    {inner : List Selection}
    (ok : (context.collectInline nested parent collected condition? inner).outcome = .ok next) :
    (∀ type, condition? = some type → (context.schema.kind? type).isSome = true) ∧
      ∃ queried lines, (nested (condition?.getD parent)
          (context.isBranch parent (condition?.getD parent)) inner).outcome = .ok (queried, lines) ∧
        next = Collected.addFragment { collected with
          typenameQueried := collected.typenameQueried ||
            (!context.isBranch parent (condition?.getD parent) && queried) }
          condition? (.inline lines) := by
  unfold collectInline at ok
  cases condition? with
  | none =>
    obtain ⟨⟨queried, lines⟩, hn, hm⟩ := Generation.outcome_bind_eq_ok.1 ok
    exact ⟨by simp, queried, lines, hn, (Except.ok.inj hm).symm⟩
  | some type =>
    cases hk : context.schema.kind? type with
    | none => simp [hk] at ok
    | some kind =>
      simp only [hk, Option.isNone_some, Bool.false_eq_true, if_false,
        Generation.outcome_bind_eq_ok, Generation.outcome_pure, Except.ok.injEq] at ok
      obtain ⟨⟨queried, lines⟩, hn, hm⟩ := ok
      refine ⟨fun other ho => ?_, queried, lines, hn, hm.symm⟩
      obtain rfl := Option.some.inj ho
      rw [hk, Option.isSome_some]

theorem Gathers.inline {passed : List Selection} {collected next : Collected}
    (h : context.Gathers nested parent passed collected) {condition? : Option String}
    {directives : List Directive} {inner : List Selection}
    (ok : (context.collectInline nested parent collected condition? inner).outcome = .ok next) :
    context.Gathers nested parent (passed ++ [.inline condition? directives inner]) next := by
  obtain ⟨kind, queried, lines, hn, rfl⟩ := collectInline_eq_ok ok
  refine ⟨h.fields.skip rfl rfl rfl rfl, ?_, ?_, ?_, ?_,
    Collected.entriesUnder_addFragment_ne_nil h.nonempty condition? _⟩
  · show (collected.typenameQueried || (!context.isBranch parent (condition?.getD parent) &&
      queried)) = true ↔ _
    rw [exists_mem_append_singleton, Bool.or_eq_true, h.queried]
    refine or_congr_right ?_
    unfold QueriesTypename
    cases hb : context.isBranch parent (condition?.getD parent) with
    | true => simp [hb]
    | false =>
      rw [hb] at hn
      simp [hb, hn]
  · intro other?
    rw [Collected.entriesUnder_addFragment]
    by_cases hc : other? = condition?
    · subst hc
      rw [if_pos rfl, show inlinesUnder other? (passed ++ [.inline other? directives inner]) =
        inlinesUnder other? passed ++ [inner] by simp [inlinesUnder]]
      exact (h.inlines other?).addInline ⟨queried, hn⟩
    · rw [if_neg hc, show inlinesUnder other? (passed ++ [.inline condition? directives inner]) =
        inlinesUnder other? passed by simp [inlinesUnder, Ne.symm hc]]
      exact h.inlines other?
  · intro other? type hs
    rw [Collected.entriesUnder_addFragment] at hs
    have old : .spread type ∈ collected.entriesUnder other? := by
      split at hs
      · rename_i hc
        rcases FragmentEntry.mem_addTo hs with hs | hs
        · exact hc ▸ hs
        · cases hs
      · exact hs
    exact (h.spreads other? type old).append _
  · intro type others body hm
    rcases List.mem_append.1 hm with hm | hm
    · exact h.known type others body hm
    · rw [List.mem_singleton, Selection.inline.injEq] at hm
      exact kind type hm.1.symm

/-- One more selection. -/
theorem Gathers.step {passed : List Selection} {collected next : Collected}
    (h : context.Gathers nested parent passed collected) (selection : Selection)
    (ok : (context.collectOne nested parent collected selection).outcome = .ok next) :
    context.Gathers nested parent (passed ++ [selection]) next := by
  cases selection with
  | field call inner => exact h.field ok
  | spread name directives => exact h.spread ok
  | inline condition? directives inner => exact h.inline ok

theorem gathers_of_collect {selections : List Selection} {collected : Collected}
    (ok : (context.collect nested parent selections).outcome = .ok collected) :
    context.Gathers nested parent selections collected :=
  Generation.foldlM_run .empty (fun _ selection _ _ _ h ok => h.step selection ok) ok

end SelectionContext

end SchemaBindings
