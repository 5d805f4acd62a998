import Mathlib.Data.List.Nodup
import Mathlib.Data.List.Pairwise
import SchemaBindings.Proofs.ResponseKeys

/-!
# Repeated tags

Fields of one key and one class make one line, but nothing joins the lines of different classes,
or those of inline fragments with the lines of the struct that they are flattened into. So two lines
of a struct can have one tag. `RepeatsTag` tells from the selections which tags these are, and
`structs_repeat_tags` is that result for every struct in a rendered one.
-/

namespace SchemaBindings

open StructLine (fieldKeys tags)

/-! ## Counting in parts -/

theorem two_le_count_flatMap {α β : Type} [BEq β] [LawfulBEq β] {part : α → List β} {b : β}
    {items : List α} (nodup : items.Nodup) : 2 ≤ (items.flatMap part).count b ↔
      (∃ a ∈ items, 2 ≤ (part a).count b) ∨
        ∃ a ∈ items, ∃ c ∈ items, a ≠ c ∧ b ∈ part a ∧ b ∈ part c := by
  induction items with
  | nil => simp
  | cons first rest ih =>
    obtain ⟨absent, nodup⟩ := List.nodup_cons.1 nodup
    have some : 0 < (rest.flatMap part).count b ↔ ∃ a ∈ rest, b ∈ part a := by
      rw [List.count_pos_iff, List.mem_flatMap]
    have split : 2 ≤ ((first :: rest).flatMap part).count b ↔
        2 ≤ (part first).count b ∨ 2 ≤ (rest.flatMap part).count b ∨
          (0 < (part first).count b ∧ 0 < (rest.flatMap part).count b) := by
      rw [List.flatMap_cons, List.count_append]
      omega
    rw [split, ih nodup, some, List.count_pos_iff]
    constructor
    · rintro (h | (⟨a, ha, h⟩ | ⟨a, ha, c, hc, hne, h⟩) | ⟨hf, a, ha, h⟩)
      · exact .inl ⟨first, List.mem_cons_self, h⟩
      · exact .inl ⟨a, List.mem_cons_of_mem _ ha, h⟩
      · exact .inr ⟨a, List.mem_cons_of_mem _ ha, c, List.mem_cons_of_mem _ hc, hne, h⟩
      · have hne : first ≠ a := fun he => absent (he ▸ ha)
        exact .inr ⟨first, List.mem_cons_self, a, List.mem_cons_of_mem _ ha, hne, hf, h⟩
    · rintro (⟨a, ha, h⟩ | ⟨a, ha, c, hc, hne, hb, hd⟩)
      · rcases List.mem_cons.1 ha with rfl | ha
        · exact .inl h
        · exact .inr (.inl (.inl ⟨a, ha, h⟩))
      · rcases List.mem_cons.1 ha with he | hr <;> rcases List.mem_cons.1 hc with hf | hs
        · exact absurd (he.trans hf.symm) hne
        · exact .inr (.inr ⟨he ▸ hb, c, hs, hd⟩)
        · exact .inr (.inr ⟨hf ▸ hd, a, hr, hb⟩)
        · exact .inr (.inl (.inr ⟨a, hr, c, hs, hne, hb, hd⟩))

/-- What comes twice in three lists without repetition and a rest. -/
theorem two_le_count_append {β : Type} [BEq β] [LawfulBEq β] {first second third : List β}
    (hf : first.Nodup) (hs : second.Nodup) (ht : third.Nodup) (rest : List β) (b : β) :
    2 ≤ (first ++ second ++ third ++ rest).count b ↔
      (b ∈ first ∧ b ∈ second ∨ b ∈ first ∧ b ∈ third ∨ b ∈ second ∧ b ∈ third) ∨
        ((b ∈ first ∨ b ∈ second) ∨ b ∈ third) ∧ b ∈ rest ∨ 2 ≤ rest.count b := by
  have some : b ∈ rest ↔ 0 < rest.count b := List.count_pos_iff.symm
  rw [List.count_append, List.count_append, List.count_append, hf.count, hs.count, ht.count, some]
  by_cases bf : b ∈ first <;> by_cases bs : b ∈ second <;> by_cases bt : b ∈ third <;>
    simp only [bf, bs, bt, if_true, if_false, true_and, false_and, and_true, and_false, or_true,
      or_false, true_or, false_or, iff_true] <;>
    omega

namespace FragmentEntry

theorem agrees_comm (entry other : FragmentEntry) : entry.agrees other = other.agrees entry := by
  cases entry <;> cases other <;> simp [agrees, Bool.beq_comm]

end FragmentEntry

namespace KeepsApart

variable {written : List Selection → List StructLine → Prop} {lists : List (List Selection)}
  {entries : List FragmentEntry} {key? : StructLine → Option String}

theorem nodup (h : KeepsApart written lists entries) : entries.Nodup := by
  refine h.apart.imp fun ha he => ?_
  rw [he, FragmentEntry.agrees_self] at ha
  cases ha

/-- Different entries are written differently. -/
theorem agrees_eq_false (h : KeepsApart written lists entries) {entry other : FragmentEntry}
    (he : entry ∈ entries) (ho : other ∈ entries) (hne : entry ≠ other) :
    entry.agrees other = false := by
  have : Std.Symm fun first second : FragmentEntry => second.agrees first = false :=
    ⟨fun first second ha => by rwa [FragmentEntry.agrees_comm]⟩
  rw [FragmentEntry.agrees_comm]
  exact h.apart.forall he ho hne

/-- A key comes twice when one list has it twice, or lists that are written differently have it. -/
theorem two_le_count (h : KeepsApart written lists entries) (writes : WritesLegibly written lists)
    (told : StructLine.ToldByText key?) (key : String) :
    2 ≤ (entries.flatMap fun entry => entry.lines.filterMap key?).count key ↔
      (∃ inner ∈ lists, ∃ lines, written inner lines ∧ 2 ≤ (lines.filterMap key?).count key) ∨
        ∃ inner ∈ lists, ∃ other ∈ lists, ∃ lines others, written inner lines ∧
          written other others ∧ StructLine.texts lines ≠ StructLine.texts others ∧
          key ∈ lines.filterMap key? ∧ key ∈ others.filterMap key? := by
  have inline : ∀ {entry : FragmentEntry}, key ∈ entry.lines.filterMap key? →
      ∃ lines, entry = .inline lines := by
    intro entry hk
    cases entry with
    | inline lines => exact ⟨lines, rfl⟩
    | spread type =>
      rw [told.spread] at hk
      cases hk
  rw [two_le_count_flatMap h.nodup]
  constructor
  · rintro (⟨entry, he, hc⟩ | ⟨entry, he, other, ho, hne, hk, hm⟩)
    · obtain ⟨lines, rfl⟩ := inline (List.count_pos_iff.1 (Nat.lt_of_lt_of_le Nat.two_pos hc))
      obtain ⟨inner, hi, hw⟩ := h.sound lines he
      exact .inl ⟨inner, hi, lines, hw, hc⟩
    · obtain ⟨lines, rfl⟩ := inline hk
      obtain ⟨others, rfl⟩ := inline hm
      obtain ⟨inner, hi, hw⟩ := h.sound lines he
      obtain ⟨more, hj, hx⟩ := h.sound others ho
      have texts := h.agrees_eq_false he ho hne
      rw [FragmentEntry.agrees, beq_eq_false_iff_ne] at texts
      exact .inr ⟨inner, hi, more, hj, lines, others, hw, hx, texts, hk, hm⟩
  · rintro (⟨inner, hi, lines, hw, hc⟩ | ⟨inner, hi, other, ho, lines, others, hw, hx, hne, hk, hm⟩)
    · obtain ⟨kept, he, -, keys⟩ := h.exists_entry writes told hi hw
      exact .inl ⟨.inline kept, he, keys ▸ hc⟩
    · obtain ⟨kept, he, same, keys⟩ := h.exists_entry writes told hi hw
      obtain ⟨more, hf, same', keys'⟩ := h.exists_entry writes told ho hx
      refine .inr ⟨.inline kept, he, .inline more, hf, ?_, keys ▸ hk, keys' ▸ hm⟩
      intro e
      rw [FragmentEntry.inline.injEq] at e
      exact hne (by rw [same, same', e])

end KeepsApart

/-! ## Fields of different classes -/

namespace DefinedField

/-- Fields are of different classes, so that nothing joins their lines: one is selected with
sub-selections and the other without, or one under its own name and the other under another. -/
def Unlike (first second : DefinedField) : Prop :=
  first.isPlain ≠ second.isPlain ∨ first.isLink ≠ second.isLink

theorem exists_unlike_iff {fields : List DefinedField} {key : String} :
    (∃ first ∈ fields, ∃ second ∈ fields, first.key = key ∧ second.key = key ∧
        first.Unlike second) ↔
      HasUnder isPlain fields key ∧ HasUnder isAliased fields key ∨
        HasUnder isPlain fields key ∧ HasUnder isLink fields key ∨
        HasUnder isAliased fields key ∧ HasUnder isLink fields key := by
  constructor
  · rintro ⟨first, hf, second, hs, kf, ks, unlike⟩
    have has : ∀ kind : DefinedField → Bool, (kind first = true → HasUnder kind fields key) ∧
        (kind second = true → HasUnder kind fields key) :=
      fun kind => ⟨fun h => ⟨first, hf, h, kf⟩, fun h => ⟨second, hs, h, ks⟩⟩
    unfold Unlike at unlike
    rcases first.classes with ⟨p, a, l⟩ | ⟨p, a, l⟩ | ⟨p, a, l⟩ <;>
      rcases second.classes with ⟨q, b, m⟩ | ⟨q, b, m⟩ | ⟨q, b, m⟩ <;>
      simp [p, l, q, m, (has isPlain).1, (has isPlain).2, (has isAliased).1, (has isAliased).2,
        (has isLink).1, (has isLink).2, a, b] at unlike ⊢
  · rintro (⟨⟨first, hf, cf, kf⟩, second, hs, cs, ks⟩ | ⟨⟨first, hf, cf, kf⟩, second, hs, cs, ks⟩ |
      ⟨⟨first, hf, cf, kf⟩, second, hs, cs, ks⟩) <;>
      refine ⟨first, hf, second, hs, kf, ks, ?_⟩ <;>
      rcases first.classes with ⟨p, a, l⟩ | ⟨p, a, l⟩ | ⟨p, a, l⟩ <;>
      rcases second.classes with ⟨q, b, m⟩ | ⟨q, b, m⟩ | ⟨q, b, m⟩ <;>
      simp_all [Unlike]

end DefinedField

namespace SelectionContext

variable {context : SelectionContext} {parent : String}

/-! ## The tag of `__typename` -/

/-- The field `__typename` is selected, in a list or in an inline fragment that is flattened into
it. -/
def AsksTypename (context : SelectionContext) (parent : String) (selections : List Selection) :
    Prop :=
  ∃ onType list call inner, context.FlattenedInto parent [selections] onType list ∧
    .field call inner ∈ list ∧ call.name = Schema.typenameField

/-- There is a line for `__typename`: it is selected or the options ask for it, and some type is
possible. -/
def HasTypename (context : SelectionContext) (parent : String) (selections : List Selection) :
    Prop :=
  (context.AsksTypename parent selections ∨ context.options.nonOptionalTypename = true ∨
    context.options.addTypename = true) ∧ context.possibleTypes parent ≠ []

theorem asksTypename_iff {selections : List Selection} :
    context.AsksTypename parent selections ↔
      (∃ call inner, .field call inner ∈ selections ∧ call.name = Schema.typenameField) ∨
        ∃ condition? directives inner, context.Flattens parent condition? ∧
          .inline condition? directives inner ∈ selections ∧
          context.AsksTypename (condition?.getD parent) inner := by
  unfold AsksTypename
  constructor
  · rintro ⟨onType, list, call, body, hf, hm, hn⟩
    rcases FlattenedInto.iff_self_or_inline.1 hf with ⟨rfl, rfl⟩ | ⟨condition?, others, inner, h⟩
    · exact .inl ⟨call, body, hm, hn⟩
    · exact .inr ⟨condition?, others, inner, h.1, h.2.1, onType, list, call, body, h.2.2, hm, hn⟩
  · rintro (⟨call, body, hm, hn⟩ | ⟨condition?, others, inner, hc, hi, onType, list, call, body, h⟩)
    · exact ⟨parent, selections, call, body, .start (List.mem_singleton_self _), hm, hn⟩
    · exact ⟨onType, list, call, body, FlattenedInto.iff_self_or_inline.2
        (.inr ⟨condition?, others, inner, hc, hi, h.1⟩), h.2⟩

/-- A rendering tells whether `__typename` is selected. -/
theorem queried_iff_asksTypename {withTypename queried : Bool} {selections : List Selection}
    {lines : List StructLine}
    (ok : (context.rendering parent withTypename selections).outcome = .ok (queried, lines)) :
    queried = true ↔ context.AsksTypename parent selections := by
  induction selections using Selection.nested_induction
    generalizing parent withTypename queried lines with
  | step selections fields inlines =>
    have renders : context.Renders parent withTypename selections lines := ⟨queried, ok⟩
    obtain ⟨collected, links, hr, rfl⟩ := exists_rendered ok
    rw [hr.gathers.queried, asksTypename_iff]
    constructor
    · rintro ⟨selection, hs, hq⟩
      cases selection with
      | field call inner => exact .inl ⟨call, inner, hs, hq⟩
      | spread name directives => cases hq
      | inline condition? directives inner =>
        obtain ⟨hb, made, hm⟩ := hq
        exact .inr ⟨condition?, directives, inner, flattens_iff.2 hb, hs,
          (inlines condition? directives inner hs hm).1 rfl⟩
    · rintro (⟨call, inner, hs, hn⟩ | ⟨condition?, directives, inner, hc, hs, ha⟩)
      · exact ⟨_, hs, hn⟩
      · obtain ⟨made, other, hm⟩ := renders.inline hs
        rw [flattens_iff.1 hc] at hm
        obtain rfl := (inlines condition? directives inner hs hm).2 ha
        exact ⟨_, hs, flattens_iff.1 hc, made, hm⟩

theorem typenameLine?_isSome_iff {queried : Bool} :
    (context.typenameLine? parent queried).isSome = true ↔
      (queried = true ∨ context.options.nonOptionalTypename = true ∨
        context.options.addTypename = true) ∧ context.possibleTypes parent ≠ [] := by
  dsimp only [typenameLine?]
  cases queried <;> cases context.options.nonOptionalTypename <;>
    cases context.options.addTypename <;> cases context.possibleTypes parent <;> simp

theorem LineSource.tag?_eq {selections : List Selection} {line : StructLine}
    (h : context.LineSource parent false selections line) : line.tag? = line.fieldKey? := by
  induction selections using Selection.nested_induction generalizing parent line with
  | step selections fields inlines =>
    cases h with
    | typename asked => cases asked
    | leaf mem plain => rfl
    | aliased mem aliased => rfl
    | link under renders => rfl
    | embedded qualifier? fragment isExternal => rfl
    | branch branches named struct => rfl
    | flattened flattens mem renders hm => exact inlines _ _ _ mem (lineSource renders hm)

theorem Rendered.exists_rest {withTypename : Bool} {selections : List Selection}
    {lines links : List StructLine} {collected : Collected}
    (h : context.Rendered parent withTypename selections lines collected links) :
    ∃ rest, lines = (if withTypename then
        (context.typenameLine? parent collected.typenameQueried).toList else []) ++ rest ∧
      ∀ line ∈ rest, line.tag? = line.fieldKey? := by
  refine ⟨collected.leaves.entries.map (fun entry => .leaf entry.1 entry.2) ++
    (collected.aliased.entries.map (fun entry => .aliased entry.1 entry.2.1 entry.2.2) ++
      (links ++ collected.fragments.entries.flatMap fun entry =>
        context.fragmentLines parent entry.1 entry.2)), ?_, fun line hm => ?_⟩
  · rw [h.lines_eq]
    simp only [List.append_assoc]
  · simp only [List.mem_append] at hm
    rcases hm with hm | hm | hm | hm
    · obtain ⟨entry, -, rfl⟩ := List.mem_map.1 hm
      rfl
    · obtain ⟨entry, -, rfl⟩ := List.mem_map.1 hm
      rfl
    · obtain ⟨key, link, made, -, -, rfl⟩ := h.exists_link hm
      rfl
    · obtain ⟨⟨condition?, entries⟩, he, hm⟩ := List.mem_flatMap.1 hm
      exact (lineSource_fragment h.gathers he hm).tag?_eq

theorem Rendered.tags_eq {selections : List Selection} {lines links : List StructLine}
    {collected : Collected} (h : context.Rendered parent true selections lines collected links) :
    tags lines = (if (context.typenameLine? parent collected.typenameQueried).isSome
      then [Schema.typenameField] else []) ++ fieldKeys lines := by
  obtain ⟨rest, rfl, same⟩ := h.exists_rest
  unfold tags fieldKeys
  rw [List.filterMap_append, List.filterMap_append, List.filterMap_congr same, if_pos rfl]
  cases ht : context.typenameLine? parent collected.typenameQueried with
  | none => rfl
  | some line =>
    obtain ⟨pointer, rfl⟩ := typenameLine?_eq_some ht
    rfl

/-- The tags of a struct's own lines for one list: a key that is selected, or `__typename`. -/
def GivesTag (context : SelectionContext) (parent : String) (selections : List Selection)
    (tag : String) : Prop :=
  context.SelectsKey parent [selections] tag ∨
    tag = Schema.typenameField ∧ context.HasTypename parent selections

theorem Renders.tags_cases {selections : List Selection} {lines : List StructLine}
    (renders : context.Renders parent true selections lines) :
    (context.HasTypename parent selections ∧
        tags lines = Schema.typenameField :: fieldKeys lines) ∨
      (¬context.HasTypename parent selections ∧ tags lines = fieldKeys lines) := by
  obtain ⟨queried, ok⟩ := renders
  obtain ⟨collected, links, hr, rfl⟩ := exists_rendered ok
  have typename : (context.typenameLine? parent collected.typenameQueried).isSome = true ↔
      context.HasTypename parent selections := by
    rw [typenameLine?_isSome_iff, queried_iff_asksTypename ok]
    rfl
  rw [hr.tags_eq]
  by_cases hn : context.HasTypename parent selections
  · rw [if_pos (typename.2 hn)]
    exact .inl ⟨hn, rfl⟩
  · rw [if_neg (mt typename.1 hn)]
    exact .inr ⟨hn, rfl⟩

theorem Renders.mem_tags_iff (h : context.AllUnquoted) {selections : List Selection}
    {lines : List StructLine} (names : NamesUnquoted parent selections)
    (renders : context.Renders parent true selections lines) (tag : String) :
    tag ∈ tags lines ↔ context.GivesTag parent selections tag := by
  have keys := renders.mem_fieldKeys_iff h names tag
  unfold GivesTag
  rcases renders.tags_cases with ⟨has, tags⟩ | ⟨has, tags⟩
  · rw [tags, List.mem_cons, keys, or_comm]
    exact or_congr_right ⟨fun h => ⟨h, has⟩, fun h => h.1⟩
  · rw [tags, keys, or_iff_left fun h => has h.2]

/-! ## Keys that come twice -/

/-- Lists of selections are written differently. -/
def WrittenDifferently (context : SelectionContext) (parent : String) (withTypename : Bool)
    (first second : List Selection) : Prop :=
  ∃ lines others, context.Renders parent withTypename first lines ∧
    context.Renders parent withTypename second others ∧
    StructLine.texts lines ≠ StructLine.texts others

/-- Two lines have the key where selections are rendered. -/
inductive RepeatsKey (context : SelectionContext) (key : String) :
    String → List Selection → Prop
  /-- Fields of different classes have the key. -/
  | fields {parent : String} {selections : List Selection} {first second : DefinedField}
      (first_mem : first ∈ context.definedFields parent selections)
      (second_mem : second ∈ context.definedFields parent selections)
      (first_key : first.key = key) (second_key : second.key = key)
      (unlike : first.Unlike second) : RepeatsKey context key parent selections
  /-- A field and an inline fragment that is flattened have the key. -/
  | beside {parent : String} {selections inner : List Selection} {field : DefinedField}
      {condition? : Option String} {directives : List Directive}
      (field_mem : field ∈ context.definedFields parent selections) (field_key : field.key = key)
      (flattens : context.Flattens parent condition?)
      (mem : .inline condition? directives inner ∈ selections)
      (selects : context.SelectsKey (condition?.getD parent) [inner] key) :
      RepeatsKey context key parent selections
  /-- Inline fragments that are flattened have the key; they are under different conditions, or
  under one and written differently. -/
  | between {parent : String} {selections first second : List Selection}
      {condition? other? : Option String} {directives others : List Directive}
      (first_flattens : context.Flattens parent condition?)
      (second_flattens : context.Flattens parent other?)
      (first_mem : .inline condition? directives first ∈ selections)
      (second_mem : .inline other? others second ∈ selections)
      (first_selects : context.SelectsKey (condition?.getD parent) [first] key)
      (second_selects : context.SelectsKey (other?.getD parent) [second] key)
      (apart : condition? ≠ other? ∨
        context.WrittenDifferently (condition?.getD parent) false first second) :
      RepeatsKey context key parent selections
  /-- An inline fragment that is flattened has the key twice. -/
  | within {parent : String} {selections inner : List Selection} {condition? : Option String}
      {directives : List Directive} (flattens : context.Flattens parent condition?)
      (mem : .inline condition? directives inner ∈ selections)
      (repeats : RepeatsKey context key (condition?.getD parent) inner) :
      RepeatsKey context key parent selections

theorem Gathers.mem_fieldKeys_iff (h : context.AllUnquoted) {selections : List Selection}
    {collected : Collected} (names : NamesUnquoted parent selections)
    (hg : context.Gathers context.rendering parent selections collected)
    {condition? : Option String} (flattens : context.Flattens parent condition?) (key : String) :
    (∃ entry ∈ collected.entriesUnder condition?, key ∈ fieldKeys entry.lines) ↔
      ∃ directives inner, .inline condition? directives inner ∈ selections ∧
        context.SelectsKey (condition?.getD parent) [inner] key := by
  have kept := hg.keepsApart flattens
  have passed := names.inlines h condition?
  refine (kept.mem_filterMap (Renders.writesLegibly h false passed)
    StructLine.fieldKey?_toldByText key).trans ⟨?_, ?_⟩
  · rintro ⟨inner, hi, lines, renders, hk⟩
    obtain ⟨directives, hm⟩ := Selection.mem_inlinesUnder.1 hi
    exact ⟨directives, inner, hm, (renders.mem_fieldKeys_iff h (passed inner hi) key).1 hk⟩
  · rintro ⟨directives, inner, hm, hk⟩
    have hi := Selection.mem_inlinesUnder.2 ⟨directives, hm⟩
    obtain ⟨lines, renders, -⟩ := kept.covers inner hi
    exact ⟨inner, hi, lines, renders, (renders.mem_fieldKeys_iff h (passed inner hi) key).2 hk⟩

theorem Gathers.two_le_count_under (h : context.AllUnquoted) {selections : List Selection}
    {collected : Collected} (names : NamesUnquoted parent selections)
    (hg : context.Gathers context.rendering parent selections collected)
    {condition? : Option String} (flattens : context.Flattens parent condition?) (key : String) :
    2 ≤ ((collected.entriesUnder condition?).flatMap fun entry => fieldKeys entry.lines).count key ↔
      (∃ directives inner lines, .inline condition? directives inner ∈ selections ∧
        context.Renders (condition?.getD parent) false inner lines ∧
        2 ≤ (fieldKeys lines).count key) ∨
      ∃ directives others first second, .inline condition? directives first ∈ selections ∧
        .inline condition? others second ∈ selections ∧
        context.SelectsKey (condition?.getD parent) [first] key ∧
        context.SelectsKey (condition?.getD parent) [second] key ∧
        context.WrittenDifferently (condition?.getD parent) false first second := by
  have kept := hg.keepsApart flattens
  have passed := names.inlines h condition?
  refine (kept.two_le_count (Renders.writesLegibly h false passed)
    StructLine.fieldKey?_toldByText key).trans (or_congr ⟨?_, ?_⟩ ⟨?_, ?_⟩)
  · rintro ⟨inner, hi, lines, renders, hc⟩
    obtain ⟨directives, hm⟩ := Selection.mem_inlinesUnder.1 hi
    exact ⟨directives, inner, lines, hm, renders, hc⟩
  · rintro ⟨directives, inner, lines, hm, renders, hc⟩
    exact ⟨inner, Selection.mem_inlinesUnder.2 ⟨directives, hm⟩, lines, renders, hc⟩
  · rintro ⟨first, hf, second, hs, lines, others, rf, rs, texts, kf, ks⟩
    obtain ⟨directives, mf⟩ := Selection.mem_inlinesUnder.1 hf
    obtain ⟨more, ms⟩ := Selection.mem_inlinesUnder.1 hs
    exact ⟨directives, more, first, second, mf, ms,
      (rf.mem_fieldKeys_iff h (passed first hf) key).1 kf,
      (rs.mem_fieldKeys_iff h (passed second hs) key).1 ks, lines, others, rf, rs, texts⟩
  · rintro ⟨directives, more, first, second, mf, ms, kf, ks, lines, others, rf, rs, texts⟩
    have hf := Selection.mem_inlinesUnder.2 ⟨directives, mf⟩
    have hs := Selection.mem_inlinesUnder.2 ⟨more, ms⟩
    exact ⟨first, hf, second, hs, lines, others, rf, rs, texts,
      (rf.mem_fieldKeys_iff h (passed first hf) key).2 kf,
      (rs.mem_fieldKeys_iff h (passed second hs) key).2 ks⟩

theorem two_le_count_flattenedKeys (collected : Collected) (key : String) :
    2 ≤ (collected.fragments.entries.flatMap fun entry =>
        context.flattenedKeys parent entry.1 entry.2).count key ↔
      (∃ condition?, context.Flattens parent condition? ∧
        2 ≤ ((collected.entriesUnder condition?).flatMap fun entry =>
          fieldKeys entry.lines).count key) ∨
      ∃ condition? other?, condition? ≠ other? ∧
        key ∈ context.flattenedKeys parent condition? (collected.entriesUnder condition?) ∧
        key ∈ context.flattenedKeys parent other? (collected.entriesUnder other?) := by
  have present : ∀ {condition?},
      key ∈ context.flattenedKeys parent condition? (collected.entriesUnder condition?) →
        (condition?, collected.entriesUnder condition?) ∈ collected.fragments.entries := by
    intro condition? hk
    obtain ⟨-, entry, he, -⟩ := mem_flattenedKeys.1 hk
    exact Collected.mem_of_entriesUnder_ne_nil (List.ne_nil_of_mem he)
  rw [two_le_count_flatMap collected.fragments.nodup.of_map]
  constructor
  · rintro (⟨⟨condition?, entries⟩, he, hc⟩ |
      ⟨⟨condition?, entries⟩, he, ⟨other?, others⟩, ho, hne, hk, hm⟩)
    · obtain ⟨flattens, -⟩ := mem_flattenedKeys.1
        (List.count_pos_iff.1 (Nat.lt_of_lt_of_le Nat.two_pos hc))
      rw [flattenedKeys, flattens_iff.1 flattens] at hc
      rw [← Collected.entriesUnder_of_mem he] at hc
      exact .inl ⟨condition?, flattens, hc⟩
    · obtain rfl := Collected.entriesUnder_of_mem he
      obtain rfl := Collected.entriesUnder_of_mem ho
      exact .inr ⟨condition?, other?, fun e => hne (by rw [e]), hk, hm⟩
  · rintro (⟨condition?, flattens, hc⟩ | ⟨condition?, other?, hne, hk, hm⟩)
    · have keys : context.flattenedKeys parent condition? (collected.entriesUnder condition?) =
          (collected.entriesUnder condition?).flatMap fun entry => fieldKeys entry.lines := by
        rw [flattenedKeys, flattens_iff.1 flattens]
        rfl
      rw [← keys] at hc
      exact .inl ⟨_, present (List.count_pos_iff.1 (Nat.lt_of_lt_of_le Nat.two_pos hc)), hc⟩
    · exact .inr ⟨_, present hk, _, present hm, fun e => hne (congrArg Prod.fst e), hk, hm⟩

theorem Renders.two_le_count_iff (h : context.AllUnquoted) {withTypename : Bool}
    {selections : List Selection} {lines : List StructLine}
    (names : NamesUnquoted parent selections)
    (renders : context.Renders parent withTypename selections lines) (key : String) :
    2 ≤ (fieldKeys lines).count key ↔ context.RepeatsKey key parent selections := by
  induction selections using Selection.nested_induction
    generalizing parent withTypename lines with
  | step selections fields inlines =>
    have whole := renders
    obtain ⟨queried, ok⟩ := renders
    obtain ⟨collected, links, hr, -⟩ := exists_rendered ok
    have held := hr.gathers.fields
    have selects : ∀ {condition?}, context.Flattens parent condition? →
        ((∃ entry ∈ collected.entriesUnder condition?, key ∈ fieldKeys entry.lines) ↔
          ∃ directives inner, .inline condition? directives inner ∈ selections ∧
            context.SelectsKey (condition?.getD parent) [inner] key) :=
      fun flattens => hr.gathers.mem_fieldKeys_iff h names flattens key
    rw [hr.fieldKeys_eq, two_le_count_append collected.leaves.nodup_keys
      collected.aliased.nodup_keys collected.links.nodup_keys, held.mem_keys_iff,
      held.mem_leaves_keys, held.mem_aliased_keys, held.mem_links_keys, mem_flatMap_flattenedKeys,
      two_le_count_flattenedKeys]
    constructor
    · rintro (hc | ⟨⟨field, hf, hk⟩, condition?, flattens, he⟩ | ⟨condition?, flattens, hc⟩ |
        ⟨condition?, other?, hne, hk, hm⟩)
      · obtain ⟨first, hf, second, hs, kf, ks, unlike⟩ := DefinedField.exists_unlike_iff.2 hc
        exact .fields hf hs kf ks unlike
      · obtain ⟨directives, inner, hm, hs⟩ := (selects flattens).1 he
        exact .beside hf hk flattens hm hs
      · rcases (hr.gathers.two_le_count_under h names flattens key).1 hc with
          ⟨directives, inner, made, hm, renders, hc⟩ |
          ⟨directives, others, first, second, mf, ms, sf, ss, apart⟩
        · exact .within flattens hm ((inlines condition? directives inner hm
            ((namesUnquoted_passedOn h.schema).inline names hm) renders).1 hc)
        · exact .between flattens flattens mf ms sf ss (.inr apart)
      · obtain ⟨fc, ec⟩ := mem_flattenedKeys.1 hk
        obtain ⟨fo, eo⟩ := mem_flattenedKeys.1 hm
        obtain ⟨directives, first, mf, sf⟩ := (selects fc).1 ec
        obtain ⟨others, second, ms, ss⟩ := (selects fo).1 eo
        exact .between fc fo mf ms sf ss (.inl hne)
    · intro repeats
      cases repeats with
      | fields hf hs kf ks unlike =>
        exact .inl (DefinedField.exists_unlike_iff.1 ⟨_, hf, _, hs, kf, ks, unlike⟩)
      | beside hf hk flattens hm hs =>
        exact .inr (.inl ⟨⟨_, hf, hk⟩, _, flattens, (selects flattens).2 ⟨_, _, hm, hs⟩⟩)
      | @between _ _ first second condition? other? directives others fc fo mf ms sf ss apart =>
        by_cases hc : condition? = other?
        · subst hc
          refine .inr (.inr (.inl ⟨condition?, fc, ?_⟩))
          exact (hr.gathers.two_le_count_under h names fc key).2
            (.inr ⟨_, _, first, second, mf, ms, sf, ss, apart.resolve_left (not_not_intro rfl)⟩)
        · refine .inr (.inr (.inr ⟨condition?, other?, hc, ?_, ?_⟩))
          · exact mem_flattenedKeys.2 ⟨fc, (selects fc).2 ⟨_, _, mf, sf⟩⟩
          · exact mem_flattenedKeys.2 ⟨fo, (selects fo).2 ⟨_, _, ms, ss⟩⟩
      | @within _ _ inner condition? directives flattens hm repeats =>
        obtain ⟨made, renders⟩ := whole.inline hm
        rw [flattens_iff.1 flattens] at renders
        refine .inr (.inr (.inl ⟨condition?, flattens, ?_⟩))
        refine (hr.gathers.two_le_count_under h names flattens key).2
          (.inl ⟨directives, inner, made, hm, renders, ?_⟩)
        exact (inlines condition? directives inner hm
          ((namesUnquoted_passedOn h.schema).inline names hm) renders).2 repeats

/-! ## Tags that come twice -/

/-- Two lines of a struct for lists of selections have the tag: two for one list, or one each for
lists that are written differently. -/
def RepeatsTag (context : SelectionContext) (parent : String) (lists : List (List Selection))
    (tag : String) : Prop :=
  (∃ list ∈ lists, context.RepeatsKey tag parent list ∨
    tag = Schema.typenameField ∧ context.HasTypename parent list ∧
      context.SelectsKey parent [list] tag) ∨
  ∃ first ∈ lists, ∃ second ∈ lists, context.WrittenDifferently parent true first second ∧
    context.GivesTag parent first tag ∧ context.GivesTag parent second tag

theorem Renders.two_le_count_tags_iff (h : context.AllUnquoted) {selections : List Selection}
    {lines : List StructLine} (names : NamesUnquoted parent selections)
    (renders : context.Renders parent true selections lines) (tag : String) :
    2 ≤ (tags lines).count tag ↔ context.RepeatsKey tag parent selections ∨
      tag = Schema.typenameField ∧ context.HasTypename parent selections ∧
        context.SelectsKey parent [selections] tag := by
  rw [← renders.two_le_count_iff h names tag, ← renders.mem_fieldKeys_iff h names tag,
    ← List.count_pos_iff]
  rcases renders.tags_cases with ⟨has, tags⟩ | ⟨has, tags⟩
  · rw [tags, List.count_cons]
    by_cases ht : tag = Schema.typenameField
    · subst ht
      simp only [beq_self_eq_true, if_true, has, true_and]
      omega
    · simp [ht, Ne.symm ht]
  · rw [tags, or_iff_left fun h => has h.2.1]

theorem IsStruct.two_le_count_iff (h : context.AllUnquoted) {lists : List (List Selection)}
    {lines : List StructLine} (names : ∀ list ∈ lists, NamesUnquoted parent list)
    (struct : context.IsStruct parent lists lines) (tag : String) :
    2 ≤ (tags lines).count tag ↔ context.RepeatsTag parent lists tag := by
  obtain ⟨entries, kept, rfl⟩ := struct
  have count := kept.two_le_count (Renders.writesLegibly h true names)
    StructLine.tag?_toldByText tag
  have split : tags (entries.flatMap (·.lines)) =
      entries.flatMap fun entry => entry.lines.filterMap StructLine.tag? := List.filterMap_flatMap
  rw [split, count]
  refine or_congr ⟨?_, ?_⟩ ⟨?_, ?_⟩
  · rintro ⟨list, hl, lines, renders, hc⟩
    exact ⟨list, hl, (renders.two_le_count_tags_iff h (names list hl) tag).1 hc⟩
  · rintro ⟨list, hl, repeats⟩
    obtain ⟨lines, renders, -⟩ := kept.covers list hl
    exact ⟨list, hl, lines, renders,
      (renders.two_le_count_tags_iff h (names list hl) tag).2 repeats⟩
  · rintro ⟨first, hf, second, hs, lines, others, rf, rs, texts, kf, ks⟩
    exact ⟨first, hf, second, hs, ⟨lines, others, rf, rs, texts⟩,
      (rf.mem_tags_iff h (names first hf) tag).1 kf,
      (rs.mem_tags_iff h (names second hs) tag).1 ks⟩
  · rintro ⟨first, hf, second, hs, ⟨lines, others, rf, rs, texts⟩, kf, ks⟩
    exact ⟨first, hf, second, hs, lines, others, rf, rs, texts,
      (rf.mem_tags_iff h (names first hf) tag).2 kf,
      (rs.mem_tags_iff h (names second hs) tag).2 ks⟩

/-- The tags that come twice are exactly those that the selections repeat. -/
def HasRepeatedTags (context : SelectionContext) (parent : String)
    (lists : List (List Selection)) (lines : List StructLine) : Prop :=
  ∀ tag, 2 ≤ (tags lines).count tag ↔ context.RepeatsTag parent lists tag

/-- In every struct, a tag stands on two lines exactly when its selections repeat it: through fields
of different classes, through a line for `__typename`, or through inline fragments. -/
theorem structs_repeat_tags (h : context.AllUnquoted) {selections : List Selection}
    (names : NamesUnquoted parent selections) (nonempty : selections ≠ []) {text : String}
    (ok : (context.structText parent selections).outcome = .ok text) :
    ∃ lines, (context.structLines parent selections).outcome = .ok lines ∧
      text = StructLine.structText lines ∧
      context.EveryStruct context.HasRepeatedTags parent [selections] lines := by
  obtain ⟨lines, hl, rfl⟩ := structText_eq_ok nonempty ok
  refine ⟨lines, hl, rfl, (namesUnquoted_passedOn h.schema).everyStruct ?_ names hl⟩
  intro parent lists lines passed struct tag
  exact struct.two_le_count_iff h passed tag

/-- The selections `id ... { id }`. -/
def catSelections : List Selection := [
  .field { name := "id" } [],
  .inline none [] [.field { name := "id" } []]]

theorem cat_struct_repeats_tags :
    petContext.AllUnquoted ∧ NamesUnquoted "Cat" catSelections ∧ catSelections ≠ [] ∧
      ∃ text, (petContext.structText "Cat" catSelections).outcome = .ok text ∧
        ∃ lines, (petContext.structLines "Cat" catSelections).outcome = .ok lines ∧
          text = StructLine.structText lines ∧
          petContext.EveryStruct petContext.HasRepeatedTags "Cat" [catSelections] lines := by
  have context : petContext.AllUnquoted := ⟨by decide, by decide⟩
  have names : NamesUnquoted "Cat" catSelections := ⟨by decide, by decide⟩
  have nonempty : catSelections ≠ [] := List.cons_ne_nil _ _
  obtain ⟨text, ok⟩ := Generation.exists_eq_ok
    (x := petContext.structText "Cat" catSelections) (by decide +kernel)
  exact ⟨context, names, nonempty, text, ok, structs_repeat_tags context names nonempty ok⟩

/-- Consistent selections can repeat a tag, since the field of an inline fragment is not joined with
that of the list. -/
theorem consistent_selections_repeat_tag : Selection.Consistent catSelections ∧
    ((petContext.structLines "Cat" catSelections).outcome.map tags).toOption =
      some ["id", "id"] :=
  ⟨by decide +kernel, by decide +kernel⟩

end SelectionContext

end SchemaBindings
