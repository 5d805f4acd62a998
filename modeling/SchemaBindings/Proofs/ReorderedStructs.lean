import SchemaBindings.Proofs.EmbeddedSpreads
import SchemaBindings.Proofs.FieldPresence
import SchemaBindings.Proofs.ReorderedSelections

/-!
# Structs of reordered selections

What the order of selections makes of the lines of a struct. The lines are the same in every order,
at any depth (`SameLines`), but for their own order, for how often a line comes and for the pointers
of fields without sub-selections: such a field has the type of the first field under its key, so
that it is optional or not as the first one is. Where all fields under a key have one type
(`LeavesAgree`), the pointers are the same too.
-/

namespace SchemaBindings

/-- Two types that differ in the pointer at most. -/
def GoType.SameButPointer (type other : GoType) : Prop :=
  type.depth = other.depth ∧ type.base = other.base

namespace StructLine

mutual

/-- Two lines say the same: the types of fields without sub-selections are related, and nested
structs have the same lines. Lines that are written alike are not told apart. -/
inductive Same (related : GoType → GoType → Prop) : StructLine → StructLine → Prop
  | refl (line : StructLine) : Same related line line
  | leaf (name : String) {type other : GoType} (types : related type other) :
      Same related (.leaf name type) (.leaf name other)
  | aliased (key name : String) {type other : GoType} (types : related type other) :
      Same related (.aliased key name type) (.aliased key name other)
  | link (key : String) (depth : Nat) (pointer : Bool) {lines others : List StructLine}
      (forth : Among related lines others) (back : Among related others lines) :
      Same related (.link key depth pointer lines) (.link key depth pointer others)
  | branch (identifier onType : String) {lines others : List StructLine}
      (forth : Among related lines others) (back : Among related others lines) :
      Same related (.branch identifier onType lines) (.branch identifier onType others)
  | written {line other another : StructLine} (same : Same related line other)
      (text : another.text = other.text) : Same related line another

/-- Each of the lines says the same as one of the others. -/
inductive Among (related : GoType → GoType → Prop) : List StructLine → List StructLine → Prop
  | nil {others : List StructLine} : Among related [] others
  | cons {line other : StructLine} {lines others : List StructLine} (mem : other ∈ others)
      (same : Same related line other) (rest : Among related lines others) :
      Among related (line :: lines) others

end

/-- Lines that are the same up to their order and how often they come. -/
structure SameLines (related : GoType → GoType → Prop) (lines others : List StructLine) : Prop where
  forth : Among related lines others
  back : Among related others lines

variable {related : GoType → GoType → Prop} {lines others : List StructLine}

theorem among_iff : Among related lines others ↔
    ∀ line ∈ lines, ∃ other ∈ others, Same related line other := by
  induction lines with
  | nil => exact iff_of_true .nil (by simp)
  | cons line rest ih =>
    rw [List.forall_mem_cons, ← ih]
    constructor
    · intro h
      cases h with
      | cons mem same rest => exact ⟨⟨_, mem, same⟩, rest⟩
    · rintro ⟨⟨other, mem, same⟩, rest⟩
      exact .cons mem same rest

theorem Among.refl (lines : List StructLine) : Among related lines lines :=
  among_iff.2 fun line mem => ⟨line, mem, .refl line⟩

/-- Lines are still among others once those are exchanged for some that are written alike. -/
theorem Among.written {again : List StructLine} (h : Among related lines others)
    (texts : texts others = texts again) : Among related lines again := by
  refine among_iff.2 fun line mem => ?_
  obtain ⟨other, mem, same⟩ := among_iff.1 h line mem
  obtain ⟨another, mem, text⟩ := exists_of_mem_texts (texts ▸ text_mem_texts mem)
  exact ⟨another, mem, .written same text⟩

end StructLine

open StructLine (Same Among SameLines)

namespace SelectionContext

open Selection (Reordered heights inlinesUnder)

variable {context : SelectionContext} {parent : String} {selections others : List Selection}

/-! ## Fields without sub-selections -/

/-- Fields without sub-selections that are selected under one key have one type, in each list of
selections that a struct is made of. -/
inductive LeavesAgree (context : SelectionContext) : String → List Selection → Prop
  | intro {parent : String} {selections : List Selection}
      (own : ∀ {first second : DefinedField}, first ∈ context.definedFields parent selections →
        second ∈ context.definedFields parent selections → first.isLink = false →
          second.isLink = false → first.key = second.key →
            context.leafType first = context.leafType second)
      (links : ∀ {key : String} {link : Link},
        DefinedField.link? (context.definedFields parent selections) key = some link →
          LeavesAgree context link.type.baseName link.selections)
      (inlines : ∀ {condition? : Option String} {directives : List Directive}
        {inner : List Selection}, .inline condition? directives inner ∈ selections →
          LeavesAgree context (condition?.getD parent) inner) :
      LeavesAgree context parent selections

theorem leafType_congr {field other : DefinedField} (call : other.call = field.call)
    (type : other.type = field.type) : context.leafType other = context.leafType field := by
  unfold leafType
  rw [call, type]

theorem LeavesAgree.reordered (agree : context.LeavesAgree parent selections)
    (consistent : Selection.Consistent selections) (h : Reordered selections others) :
    context.LeavesAgree parent others := by
  induction agree generalizing others with
  | @intro parent selections own links inlines links_ih inlines_ih =>
    refine .intro (fun hf hs first second key => ?_) (fun under => ?_) fun mem => ?_
    · obtain ⟨first', hf, call, type, isLink⟩ := exists_definedField h.symm hf
      obtain ⟨second', hs, call', type', isLink'⟩ := exists_definedField h.symm hs
      rw [← leafType_congr call type, ← leafType_congr call' type']
      refine own hf hs (isLink.trans first) (isLink'.trans second) ?_
      unfold DefinedField.key at key ⊢
      rw [call, call', key]
    · obtain ⟨link, before, type, -, within⟩ :=
        exists_link_of_reordered h.symm (h.consistent consistent) under
      rw [← type]
      exact links_ih before (consistent_link consistent before).2 within.symm
    · obtain ⟨body, mem, within⟩ := h.symm.exists_inline mem
      exact inlines_ih mem (consistent.inline mem) within.symm

/-- What is passed on to nested selections makes them consistent, and relates the types of fields
without sub-selections that are selected under one key. -/
structure RelatesLeaves (context : SelectionContext) (related : GoType → GoType → Prop)
    (I : String → List Selection → Prop) : Prop where
  passedOn : context.PassedOn I
  consistent : ∀ {parent : String} {selections : List Selection}, I parent selections →
    Selection.Consistent selections
  types : ∀ {parent : String} {selections : List Selection} {first second : DefinedField},
    I parent selections → first ∈ context.definedFields parent selections →
      second ∈ context.definedFields parent selections → first.isLink = false →
        second.isLink = false → first.key = second.key →
          related (context.leafType first) (context.leafType second)

theorem consistent_passedOn : context.PassedOn fun _ => Selection.Consistent where
  inline consistent mem := consistent.inline mem
  link consistent under := (consistent_link consistent under).2

/-- Of consistent selections, the types of fields under one key differ in the pointer at most. -/
theorem relatesLeaves_sameButPointer :
    context.RelatesLeaves GoType.SameButPointer fun _ => Selection.Consistent where
  passedOn := consistent_passedOn
  consistent := id
  types := by
    intro parent selections first second consistent hf hs _ _ key
    obtain ⟨hf, -, type⟩ := mem_definedFields.1 hf
    obtain ⟨hs, -, type'⟩ := mem_definedFields.1 hs
    rw [consistent.same hf hs key, type', Option.some.injEq] at type
    unfold leafType GoType.SameButPointer GoType.ofSelection
    rw [type]
    exact ⟨rfl, rfl⟩

theorem relatesLeaves_eq : context.RelatesLeaves Eq fun parent selections =>
    Selection.Consistent selections ∧ context.LeavesAgree parent selections where
  passedOn := {
    inline := by
      rintro parent selections inner condition? directives ⟨consistent, agree⟩ mem
      cases agree with
      | intro own links inlines => exact ⟨consistent.inline mem, inlines mem⟩
    link := by
      rintro parent key selections link ⟨consistent, agree⟩ under
      cases agree with
      | intro own links inlines => exact ⟨(consistent_link consistent under).2, links under⟩ }
  consistent := And.left
  types := by
    rintro parent selections first second ⟨-, agree⟩ hf hs leaf leaf' key
    cases agree with
    | intro own links inlines => exact own hf hs leaf leaf' key

/-! ## Two orders -/

/-- Selections in two orders that nest less deeply than a bound, with what is passed on to nested
ones. -/
structure TwoOrders (I : String → List Selection → Prop) (bound : Nat) (parent : String)
    (selections others : List Selection) : Prop where
  reordered : Reordered selections others
  first : I parent selections
  second : I parent others
  first_lt : heights selections < bound
  second_lt : heights others < bound

namespace TwoOrders

variable {related : GoType → GoType → Prop} {I : String → List Selection → Prop} {bound : Nat}

theorem symm (h : TwoOrders I bound parent selections others) :
    TwoOrders I bound parent others selections :=
  ⟨h.reordered.symm, h.second, h.first, h.second_lt, h.first_lt⟩

theorem inline (h : TwoOrders I (bound + 1) parent selections others)
    (relates : context.RelatesLeaves related I) {condition? : Option String}
    {directives : List Directive} {inner : List Selection}
    (mem : .inline condition? directives inner ∈ selections) :
    ∃ body, .inline condition? directives body ∈ others ∧
      TwoOrders I bound (condition?.getD parent) inner body := by
  obtain ⟨body, mem', within⟩ := h.reordered.exists_inline mem
  have lower := Selection.heights_lt_of_inline mem
  have lower' := Selection.heights_lt_of_inline mem'
  have := h.first_lt
  have := h.second_lt
  exact ⟨body, mem', within, relates.passedOn.inline h.first mem,
    relates.passedOn.inline h.second mem', by omega, by omega⟩

theorem link (h : TwoOrders I (bound + 1) parent selections others)
    (relates : context.RelatesLeaves related I) {key : String} {link : Link}
    (under : DefinedField.link? (context.definedFields parent selections) key = some link) :
    ∃ other, DefinedField.link? (context.definedFields parent others) key = some other ∧
      context.linkType other = context.linkType link ∧ other.type = link.type ∧
      TwoOrders I bound link.type.baseName link.selections other.selections := by
  obtain ⟨other, under', type, conditional, within⟩ :=
    exists_link_of_reordered h.reordered (relates.consistent h.first) under
  have lower := heights_link_lt under
  have lower' := heights_link_lt under'
  have := h.first_lt
  have := h.second_lt
  refine ⟨other, under', ?_, type, within, relates.passedOn.link h.first under, ?_, by omega,
    by omega⟩
  · unfold linkType
    rw [type, conditional]
  · rw [← type]
    exact relates.passedOn.link h.second under'

theorem exists_firstUnder (h : TwoOrders I bound parent selections others)
    (relates : context.RelatesLeaves related I) {kind : DefinedField → Bool}
    (test : FieldCall → Bool) (told : ∀ field, kind field = (!field.isLink && test field.call))
    {field : DefinedField} (mem : field ∈ context.definedFields parent selections)
    (isKind : kind field = true) :
    ∃ other, DefinedField.firstUnder kind (context.definedFields parent others) field.key =
        some other ∧
      other.call.name = field.call.name ∧
      related (context.leafType field) (context.leafType other) := by
  have leaf : ∀ {field : DefinedField}, kind field = true → field.isLink = false := by
    intro field isKind
    rw [told, Bool.and_eq_true, Bool.not_eq_true'] at isKind
    exact isKind.1
  obtain ⟨again, mem', call, -, isLink⟩ := exists_definedField h.reordered mem
  have again_key : again.key = field.key := by
    unfold DefinedField.key
    rw [call]
  have again_kind : kind again = true := by rw [told, isLink, call, ← told, isKind]
  obtain ⟨other, first'⟩ := Option.isSome_iff_exists.1
    (DefinedField.firstUnder_isSome_iff.2 ⟨again, mem', again_kind, again_key⟩)
  obtain ⟨mem', isKind', key'⟩ := DefinedField.firstUnder_eq_some first'
  -- the field that is first in the other order stands in this one too
  obtain ⟨back, mem'', call', type', isLink'⟩ := exists_definedField h.symm.reordered mem'
  have back_key : field.key = back.key := by
    rw [← key']
    unfold DefinedField.key
    rw [call']
  refine ⟨other, first', ?_, ?_⟩
  · obtain ⟨listed, -, -⟩ := mem_definedFields.1 mem
    obtain ⟨listed', -, -⟩ := mem_definedFields.1 mem''
    rw [← call', (relates.consistent h.first).same listed listed' back_key]
  · rw [← leafType_congr call' type']
    exact relates.types h.first mem mem'' (leaf isKind) (isLink'.trans (leaf isKind')) back_key

end TwoOrders

/-! ## The lines of one struct -/

namespace Rendered

variable {withTypename : Bool} {lines links : List StructLine} {collected : Collected}

theorem leaf_mem (h : context.Rendered parent withTypename selections lines collected links)
    {key : String} {field : DefinedField} (first : DefinedField.firstUnder (·.isPlain)
      (context.definedFields parent selections) key = some field) :
    .leaf key (context.leafType field) ∈ lines := by
  have entry : (key, context.leafType field) ∈ collected.leaves.entries := by
    rw [OrderedMap.mem_entries_iff, h.gathers.fields.leaves, first]
    rfl
  rw [h.lines_eq]
  simp only [List.mem_append, or_assoc]
  exact .inr (.inl (List.mem_map.2 ⟨_, entry, rfl⟩))

theorem aliased_mem (h : context.Rendered parent withTypename selections lines collected links)
    {key : String} {field : DefinedField} (first : DefinedField.firstUnder (·.isAliased)
      (context.definedFields parent selections) key = some field) :
    .aliased key field.call.name (context.leafType field) ∈ lines := by
  have entry : (key, field.call.name, context.leafType field) ∈ collected.aliased.entries := by
    rw [OrderedMap.mem_entries_iff, h.gathers.fields.aliased, first]
    rfl
  rw [h.lines_eq]
  simp only [List.mem_append, or_assoc]
  exact .inr (.inr (.inl (List.mem_map.2 ⟨_, entry, rfl⟩)))

end Rendered

/-! ## The lines of two orders -/

/-- Selections that nest less deeply than the bound have in one order the lines that they have in
another one. -/
def AmongBelow (context : SelectionContext) (related : GoType → GoType → Prop)
    (I : String → List Selection → Prop) (bound : Nat) : Prop :=
  ∀ {parent : String} {withTypename : Bool} {selections others : List Selection}
    {lines made : List StructLine}, TwoOrders I bound parent selections others →
      context.Renders parent withTypename selections lines →
        context.Renders parent withTypename others made → Among related lines made

section Step

variable {related : GoType → GoType → Prop} {I : String → List Selection → Prop} {bound : Nat}
  {withTypename : Bool} {lines made links madeLinks : List StructLine} {collected again : Collected}

theorem exists_entry_among (below : context.AmongBelow related I bound)
    (relates : context.RelatesLeaves related I)
    (orders : TwoOrders I (bound + 1) parent selections others)
    (gathers : context.Gathers context.rendering parent selections collected)
    (gathers' : context.Gathers context.rendering parent others again)
    (keeps : context.KeepsSpreads others again) {condition? : Option String}
    {entry : FragmentEntry} (mem : entry ∈ collected.entriesUnder condition?) :
    ∃ other ∈ again.entriesUnder condition?, Among related entry.lines other.lines := by
  cases entry with
  | spread type =>
    obtain ⟨name, directives, loaded, spread, known, rfl, rfl⟩ := gathers.spreads _ type mem
    obtain ⟨other, mem', agrees⟩ :=
      keeps name directives loaded (orders.reordered.spread_mem spread) known
    obtain rfl := eq_of_spreadEntry_agrees agrees
    exact ⟨_, mem', .refl _⟩
  | inline lines =>
    obtain ⟨inner, mem, renders⟩ := (gathers.inlines condition?).sound lines mem
    obtain ⟨directives, mem⟩ := Selection.mem_inlinesUnder.1 mem
    obtain ⟨body, mem, within⟩ := orders.inline relates mem
    obtain ⟨made, renders', other, mem, agrees⟩ := (gathers'.inlines condition?).covers body
      (Selection.mem_inlinesUnder.2 ⟨directives, mem⟩)
    refine ⟨other, mem, ?_⟩
    cases other with
    | spread type => cases agrees
    | inline kept =>
      have lines := below within renders renders'
      exact lines.written (FragmentEntry.agrees_inline.1 agrees)

theorem among_flatMap_lines {entries others : List FragmentEntry}
    (h : ∀ entry ∈ entries, ∃ other ∈ others, Among related entry.lines other.lines) :
    Among related (entries.flatMap (·.lines)) (others.flatMap (·.lines)) := by
  refine StructLine.among_iff.2 fun line mem => ?_
  obtain ⟨entry, he, mem⟩ := List.mem_flatMap.1 mem
  obtain ⟨other, ho, among⟩ := h entry he
  obtain ⟨another, mem, same⟩ := StructLine.among_iff.1 among line mem
  exact ⟨another, List.mem_flatMap.2 ⟨other, ho, mem⟩, same⟩

/-- Entries with the same lines make the same lines, also where these are a branch. -/
theorem among_fragmentLines {condition? : Option String} {entries others : List FragmentEntry}
    (forth : Among related (entries.flatMap (·.lines)) (others.flatMap (·.lines)))
    (back : Among related (others.flatMap (·.lines)) (entries.flatMap (·.lines))) :
    Among related (context.fragmentLines parent condition? entries)
      (context.fragmentLines parent condition? others) := by
  rw [fragmentLines_eq, fragmentLines_eq]
  split
  · exact .cons (List.mem_singleton_self _) (.branch _ _ forth back) .nil
  · exact forth

theorem exists_fragmentLine_same (below : context.AmongBelow related I bound)
    (relates : context.RelatesLeaves related I)
    (orders : TwoOrders I (bound + 1) parent selections others)
    (rendered : context.Rendered parent withTypename selections lines collected links)
    (rendered' : context.Rendered parent withTypename others made again madeLinks)
    (keeps : context.KeepsSpreads selections collected) (keeps' : context.KeepsSpreads others again)
    {condition? : Option String} (nonempty : collected.entriesUnder condition? ≠ [])
    {line : StructLine}
    (mem : line ∈ context.fragmentLines parent condition? (collected.entriesUnder condition?)) :
    ∃ other ∈ made, Same related line other := by
  have forth : ∀ entry ∈ collected.entriesUnder condition?,
      ∃ other ∈ again.entriesUnder condition?, Among related entry.lines other.lines :=
    fun _ => exists_entry_among below relates orders rendered.gathers rendered'.gathers keeps'
  have back : ∀ entry ∈ again.entriesUnder condition?,
      ∃ other ∈ collected.entriesUnder condition?, Among related entry.lines other.lines :=
    fun _ => exists_entry_among below relates orders.symm rendered'.gathers rendered.gathers keeps
  have among : Among related
      (context.fragmentLines parent condition? (collected.entriesUnder condition?))
      (context.fragmentLines parent condition? (again.entriesUnder condition?)) :=
    among_fragmentLines (among_flatMap_lines forth) (among_flatMap_lines back)
  obtain ⟨other, mem', same⟩ := StructLine.among_iff.1 among line mem
  obtain ⟨first, first_mem⟩ := List.exists_mem_of_ne_nil _ nonempty
  obtain ⟨second, second_mem, -⟩ := forth first first_mem
  exact ⟨other, rendered'.mem_of_fragmentLines (List.ne_nil_of_mem second_mem) mem', same⟩

theorem AmongBelow.step (below : context.AmongBelow related I bound)
    (relates : context.RelatesLeaves related I) : context.AmongBelow related I (bound + 1) := by
  intro parent withTypename selections others lines made orders renders renders'
  obtain ⟨collected, links, rendered, keeps, ok⟩ := exists_keeping renders
  obtain ⟨again, madeLinks, rendered', keeps', ok'⟩ := exists_keeping renders'
  refine StructLine.among_iff.2 fun line mem => ?_
  rw [rendered.lines_eq] at mem
  simp only [List.mem_append, or_assoc] at mem
  rcases mem with mem | mem | mem | mem | mem
  · have queried : again.typenameQueried = collected.typenameQueried := by
      rw [Bool.eq_iff_iff, queried_iff_asksTypename ok, queried_iff_asksTypename ok']
      exact ⟨.reordered orders.symm.reordered, .reordered orders.reordered⟩
    refine ⟨line, ?_, .refl line⟩
    rw [rendered'.lines_eq, queried]
    simp only [List.mem_append, or_assoc]
    exact .inl mem
  · obtain ⟨⟨key, type⟩, entry, rfl⟩ := List.mem_map.1 mem
    rw [OrderedMap.mem_entries_iff, rendered.gathers.fields.leaves, Option.map_eq_some_iff] at entry
    obtain ⟨field, first, rfl⟩ := entry
    obtain ⟨defined, plain, rfl⟩ := DefinedField.firstUnder_eq_some first
    obtain ⟨other, first', -, types⟩ := orders.exists_firstUnder relates
      (fun call => call.responseName == call.name) (fun _ => rfl) defined plain
    exact ⟨_, rendered'.leaf_mem first', .leaf _ types⟩
  · obtain ⟨⟨key, name, type⟩, entry, rfl⟩ := List.mem_map.1 mem
    rw [OrderedMap.mem_entries_iff, rendered.gathers.fields.aliased,
      Option.map_eq_some_iff] at entry
    obtain ⟨field, first, same⟩ := entry
    cases same
    obtain ⟨defined, aliased, rfl⟩ := DefinedField.firstUnder_eq_some first
    obtain ⟨other, first', name, types⟩ := orders.exists_firstUnder relates
      (fun call => call.responseName != call.name) (fun _ => rfl) defined aliased
    refine ⟨_, rendered'.aliased_mem first', ?_⟩
    rw [name]
    exact .aliased _ _ types
  · obtain ⟨key, link, inner, under, nested, rfl⟩ := rendered.exists_link mem
    obtain ⟨other, under', linkType, type, within⟩ := orders.link relates under
    obtain ⟨inner', nested', mem⟩ := rendered'.exists_link_mem under'
    rw [linkType] at mem
    rw [type] at nested'
    exact ⟨_, mem, .link _ _ _ (below within nested nested') (below within.symm nested' nested)⟩
  · obtain ⟨⟨condition?, entries⟩, entry, mem⟩ := List.mem_flatMap.1 mem
    obtain rfl := Collected.entriesUnder_of_mem entry
    exact exists_fragmentLine_same below relates orders rendered rendered' keeps keeps'
      (rendered.gathers.nonempty condition? (List.mem_map_of_mem entry)) mem

end Step

/-- In every order selections are rendered to the same lines. -/
theorem amongBelow {related : GoType → GoType → Prop} {I : String → List Selection → Prop}
    (relates : context.RelatesLeaves related I) (bound : Nat) :
    context.AmongBelow related I bound := by
  induction bound with
  | zero => exact fun orders => absurd orders.first_lt (Nat.not_lt_zero _)
  | succ bound ih => exact ih.step relates

theorem Renders.sameLines {related : GoType → GoType → Prop} {I : String → List Selection → Prop}
    (relates : context.RelatesLeaves related I) {withTypename : Bool} {lines made : List StructLine}
    (renders : context.Renders parent withTypename selections lines)
    (renders' : context.Renders parent withTypename others made)
    (reordered : Reordered selections others) (first : I parent selections)
    (second : I parent others) : SameLines related lines made := by
  have orders : TwoOrders I (max (heights selections) (heights others) + 1) parent selections
      others := ⟨reordered, first, second, by omega, by omega⟩
  exact ⟨amongBelow relates _ orders renders renders',
    amongBelow relates _ orders.symm renders' renders⟩

theorem structText_of_structLines (nonempty : selections ≠ []) {lines : List StructLine}
    (ok : (context.structLines parent selections).outcome = .ok lines) :
    (context.structText parent selections).outcome = .ok (StructLine.structText lines) := by
  unfold structText
  rw [if_neg (by simpa using nonempty), Generation.outcome_bind, ok]
  rfl

/-- Consistent selections have one struct in every order, up to the order of lines and how often
they come. Only whether a field without sub-selections is optional is decided by the first one under
its key. -/
theorem structs_of_reordered_selections (context : SelectionContext) (parent : String)
    {selections others : List Selection} (consistent : Selection.Consistent selections)
    (reordered : Reordered selections others) (nonempty : selections ≠ []) {text : String}
    (ok : (context.structText parent selections).outcome = .ok text) :
    ∃ lines made, (context.structLines parent selections).outcome = .ok lines ∧
      text = StructLine.structText lines ∧
      (context.structText parent others).outcome = .ok (StructLine.structText made) ∧
      SameLines GoType.SameButPointer lines made ∧
      (context.LeavesAgree parent selections → SameLines Eq lines made) := by
  obtain ⟨lines, rendered, rfl⟩ := structText_eq_ok nonempty ok
  have renders : context.Renders parent true selections lines := structLines_eq_ok.1 rendered
  obtain ⟨made, renders'⟩ := renders.reordered consistent reordered
  have nonempty' : others ≠ [] := by
    rintro rfl
    exact nonempty reordered.symm.eq_nil
  have consistent' := reordered.consistent consistent
  refine ⟨lines, made, rendered, rfl,
    structText_of_structLines nonempty' (structLines_eq_ok.2 renders'), ?_, fun agree => ?_⟩
  · exact renders.sameLines relatesLeaves_sameButPointer renders' reordered consistent consistent'
  · exact renders.sameLines relatesLeaves_eq renders' reordered ⟨consistent, agree⟩
      ⟨consistent', agree.reordered consistent reordered⟩

/-- Where pointers are avoided, the fields under each key agree. -/
theorem leavesAgree_of_avoidOptionals (avoids : context.options.avoidOptionals = true)
    (consistent : Selection.Consistent selections) : context.LeavesAgree parent selections := by
  induction hn : heights selections using Nat.strongRecOn generalizing parent selections with
  | ind n ih =>
    subst hn
    refine .intro (fun hf hs _ _ key => ?_) (fun under => ?_) fun mem => ?_
    · obtain ⟨hf, -, type⟩ := mem_definedFields.1 hf
      obtain ⟨hs, -, type'⟩ := mem_definedFields.1 hs
      rw [consistent.same hf hs key, type', Option.some.injEq] at type
      unfold leafType GoType.ofSelection
      rw [type, avoids]
      simp
    · exact ih _ (heights_link_lt under) (consistent_link consistent under).2 rfl
    · exact ih _ (Selection.heights_lt_of_inline mem) (consistent.inline mem) rfl

/-- Selections on types of `ownerContext`, with pointers avoided. -/
def avoidingContext : SelectionContext :=
  { ownerContext with options := { avoidOptionals := true } }

/-- The field `id`. -/
def idField : Selection := .field { name := "id" } []

/-- The field `own: id`. -/
def ownIdField : Selection := .field { alias? := some "own", name := "id" } []

/-- The field `key: id`. -/
def keyIdField : Selection := .field { alias? := some "key", name := "id" } []

/-- The field `id @include(if: $shown)`. -/
def shownIdField : Selection := .field { name := "id", directives := [includeShown] } []

/-- The field `owner { id own: id }`. -/
def ownerField : Selection := .field { name := "owner" } [idField, ownIdField]

/-- The field `owner { own: id id }`. -/
def turnedOwnerField : Selection := .field { name := "owner" } [ownIdField, idField]

/-- The field `owner @include(if: $shown) { id @include(if: $shown) }`. -/
def shownOwnerField : Selection :=
  .field { name := "owner", directives := [includeShown] } [shownIdField]

theorem reordered_ownerField :
    Reordered [ownerField, shownOwnerField] [shownOwnerField, turnedOwnerField] := by
  have turned : Reordered ([shownOwnerField] ++ ownerField :: [])
      ([shownOwnerField] ++ turnedOwnerField :: []) := .field (.perm (.swap _ _ _))
  exact .trans (.perm (.swap _ _ _)) turned

theorem owner_structs_of_reordered_selections :
    Selection.Consistent [ownerField, shownOwnerField] ∧
      Reordered [ownerField, shownOwnerField] [shownOwnerField, turnedOwnerField] ∧
      avoidingContext.LeavesAgree "Query" [ownerField, shownOwnerField] ∧
      ∃ text, (avoidingContext.structText "Query" [ownerField, shownOwnerField]).outcome =
          .ok text ∧
        ∃ lines made, (avoidingContext.structLines "Query"
              [ownerField, shownOwnerField]).outcome = .ok lines ∧
          text = StructLine.structText lines ∧
          (avoidingContext.structText "Query" [shownOwnerField, turnedOwnerField]).outcome =
            .ok (StructLine.structText made) ∧
          SameLines GoType.SameButPointer lines made ∧ SameLines Eq lines made := by
  have consistent : Selection.Consistent [ownerField, shownOwnerField] := by decide +kernel
  have agree : avoidingContext.LeavesAgree "Query" [ownerField, shownOwnerField] :=
    leavesAgree_of_avoidOptionals rfl consistent
  obtain ⟨text, ok⟩ := Generation.exists_eq_ok
    (x := avoidingContext.structText "Query" [ownerField, shownOwnerField]) (by decide +kernel)
  obtain ⟨lines, made, rendered, same, rendered', loosely, exactly⟩ :=
    structs_of_reordered_selections avoidingContext "Query" consistent reordered_ownerField
      (List.cons_ne_nil _ _) ok
  exact ⟨consistent, reordered_ownerField, agree, text, ok, lines, made, rendered, same, rendered',
    loosely, exactly agree⟩

/-- The first field under a key decides whether it is optional, but any of them makes a link so. -/
theorem field_is_optional_as_first :
    Selection.Consistent [idField, shownIdField] ∧
      Reordered [idField, shownIdField] [shownIdField, idField] ∧
      (ownerContext.structLines "Owner" [idField, shownIdField]).outcome.toOption.map
        StructLine.texts = some ["Id string `json:\"id\"`"] ∧
      (ownerContext.structLines "Owner" [shownIdField, idField]).outcome.toOption.map
        StructLine.texts = some ["Id *string `json:\"id\"`"] :=
  ⟨by decide +kernel, .perm (.swap _ _ _), by decide +kernel, by decide +kernel⟩

-- How often a line comes depends on the order: of inline fragments that are written alike only one
-- is kept, and the order inside of them decides how they are written.
example :
    (ownerContext.structLines "Owner" [.inline none [] [ownIdField, keyIdField],
      .inline none [] [ownIdField, keyIdField]]).outcome.toOption.map List.length = some 2 ∧
    (ownerContext.structLines "Owner" [.inline none [] [ownIdField, keyIdField],
      .inline none [] [keyIdField, ownIdField]]).outcome.toOption.map List.length = some 4 := by
  decide +kernel

end SelectionContext

end SchemaBindings
