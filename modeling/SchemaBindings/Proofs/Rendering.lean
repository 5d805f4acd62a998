import SchemaBindings.Proofs.CollectedSelections
import SchemaBindings.Proofs.SelectionNesting

/-!
# Rendering without a bound

`linesWithin` takes a bound on the nesting. Every bound above the nesting of the selections gives
the same lines (`linesWithin_congr`), so that `rendering` needs none and meets the equation of
`linesWithin` with itself for the nested lines (`rendering_eq`). `Rendered` is what a rendering that
succeeds has made, and `rendered_of_ok` says that it has.
-/

namespace SchemaBindings

namespace SelectionContext

open Selection (heights)

variable {context : SelectionContext} {parent : String} {selections : List Selection}

/-! ## The bound -/

/-- The sub-selections under a key nest less deeply than the list of the fields. -/
theorem heights_link_lt {key : String} {link : Link}
    (h : DefinedField.link? (context.definedFields parent selections) key = some link) :
    heights link.selections < heights selections := by
  obtain ⟨⟨first, hf, -⟩, hs⟩ := DefinedField.link?_eq_some h
  have inside : ∀ field ∈ DefinedField.linksUnder (context.definedFields parent selections) key,
      heights field.selections < heights selections := by
    intro field hm
    obtain ⟨hd, -⟩ := DefinedField.mem_linksUnder.1 hm
    exact Selection.heights_lt_of_field (mem_definedFields.1 hd).1
  rw [hs]
  exact Selection.heights_flatMap_lt (Nat.zero_lt_of_lt (inside first hf)) inside

theorem collect_congr {nested other : Nested}
    (h : ∀ condition? directives inner, .inline condition? directives inner ∈ selections →
      ∀ onType withTypename, nested onType withTypename inner = other onType withTypename inner) :
    context.collect nested parent selections = context.collect other parent selections := by
  refine Generation.foldlM_congr_of_mem fun collected selection hm => ?_
  cases selection with
  | field call inner => rfl
  | spread fragment directives => rfl
  | inline condition? directives inner =>
    simp only [collectOne, collectInline, h condition? directives inner hm]

theorem lines_congr {nested other : Nested} {collected : Collected} (withTypename : Bool)
    (h : ∀ key link, collected.links.find? key = some link →
      nested link.type.baseName true link.selections =
        other link.type.baseName true link.selections) :
    context.lines nested parent withTypename collected =
      context.lines other parent withTypename collected := by
  unfold lines
  rw [mapM_congr_of_mem]
  rintro ⟨key, link⟩ hm
  show context.linkLine nested key link = context.linkLine other key link
  unfold linkLine
  rw [h key link ((OrderedMap.mem_entries_iff _ _ _).1 hm)]

/-- Two bounds above the nesting give the same lines. -/
theorem linesWithin_congr {bound other : Nat} {withTypename : Bool}
    (hb : heights selections < bound) (ho : heights selections < other) :
    context.linesWithin bound parent withTypename selections =
      context.linesWithin other parent withTypename selections := by
  induction bound generalizing other parent withTypename selections with
  | zero => omega
  | succ bound ih =>
    obtain ⟨other, rfl⟩ : ∃ n, other = n + 1 := ⟨other - 1, by omega⟩
    have collects : context.collect (context.linesWithin bound) parent selections =
        context.collect (context.linesWithin other) parent selections := by
      refine collect_congr fun condition? directives inner hm onType withTypename => ?_
      have := Selection.heights_lt_of_inline hm
      exact ih (by omega) (by omega)
    unfold linesWithin
    dsimp only
    rw [collects]
    refine Generation.bind_congr_of_ok fun collected hc => ?_
    rw [lines_congr withTypename fun key link hl => ?_]
    have := heights_link_lt ((gathers_of_collect hc).fields.links key ▸ hl)
    exact ih (by omega) (by omega)

/-! ## The rendering -/

/-- The lines for selections on a type, without a bound. -/
def rendering (context : SelectionContext) : Nested := fun parent withTypename selections =>
  context.linesWithin (heights selections + 1) parent withTypename selections

theorem linesWithin_eq_rendering {bound : Nat} {withTypename : Bool}
    (h : heights selections < bound) :
    context.linesWithin bound parent withTypename selections =
      context.rendering parent withTypename selections :=
  linesWithin_congr h (Nat.lt_succ_self _)

theorem rendering_eq (parent : String) (withTypename : Bool) (selections : List Selection) :
    context.rendering parent withTypename selections = do
      let collected ← context.collect context.rendering parent selections
      return (collected.typenameQueried,
        ← context.lines context.rendering parent withTypename collected) := by
  have collects : context.collect (context.linesWithin (heights selections)) parent selections =
      context.collect context.rendering parent selections :=
    collect_congr fun _ _ _ hm _ _ => linesWithin_eq_rendering (Selection.heights_lt_of_inline hm)
  show context.linesWithin (heights selections + 1) parent withTypename selections = _
  unfold linesWithin
  dsimp only
  rw [collects]
  refine Generation.bind_congr_of_ok fun collected hc => ?_
  rw [lines_congr withTypename fun key link hl => ?_]
  exact linesWithin_eq_rendering
    (heights_link_lt ((gathers_of_collect hc).fields.links key ▸ hl))

theorem structLines_eq_ok {lines : List StructLine} :
    (context.structLines parent selections).outcome = .ok lines ↔
      ∃ queried, (context.rendering parent true selections).outcome = .ok (queried, lines) := by
  unfold structLines
  rw [Generation.outcome_bind_eq_ok]
  simp [rendering]

/-! ## What a rendering makes -/

/-- What a rendering that succeeds has collected, and the lines that it has made of it. -/
structure Rendered (context : SelectionContext) (parent : String) (withTypename : Bool)
    (selections : List Selection) (lines : List StructLine) (collected : Collected)
    (links : List StructLine) : Prop where
  gathers : context.Gathers context.rendering parent selections collected
  links_made : List.Forall₂
    (fun entry line => (context.linkLine context.rendering entry.1 entry.2).outcome = .ok line)
    collected.links.entries links
  lines_eq : lines =
    (if withTypename then
      (context.typenameLine? parent collected.typenameQueried).toList else []) ++
      collected.leaves.entries.map (fun entry => .leaf entry.1 entry.2) ++
      collected.aliased.entries.map (fun entry => .aliased entry.1 entry.2.1 entry.2.2) ++
      links ++
      collected.fragments.entries.flatMap fun entry =>
        context.fragmentLines parent entry.1 entry.2

theorem exists_collected {withTypename queried : Bool} {lines : List StructLine}
    (ok : (context.rendering parent withTypename selections).outcome = .ok (queried, lines)) :
    ∃ collected,
      (context.collect context.rendering parent selections).outcome = .ok collected ∧
      (context.lines context.rendering parent withTypename collected).outcome = .ok lines ∧
      queried = collected.typenameQueried := by
  rw [rendering_eq, Generation.outcome_bind_eq_ok] at ok
  obtain ⟨collected, hc, ok⟩ := ok
  rw [Generation.outcome_bind_eq_ok] at ok
  obtain ⟨made, hm, ok⟩ := ok
  rw [Generation.outcome_pure, Except.ok.injEq, Prod.mk.injEq] at ok
  obtain ⟨rfl, rfl⟩ := ok
  exact ⟨collected, hc, hm, rfl⟩

theorem exists_rendered_of_collected {withTypename : Bool} {lines : List StructLine}
    {collected : Collected}
    (collects : (context.collect context.rendering parent selections).outcome = .ok collected)
    (makes : (context.lines context.rendering parent withTypename collected).outcome = .ok lines) :
    ∃ links, context.Rendered parent withTypename selections lines collected links := by
  unfold SelectionContext.lines at makes
  rw [Generation.outcome_bind_eq_ok] at makes
  obtain ⟨links, hl, makes⟩ := makes
  rw [Generation.outcome_pure, Except.ok.injEq] at makes
  exact ⟨links, ⟨gathers_of_collect collects, Generation.outcome_mapM_eq_ok.1 hl, makes.symm⟩⟩

theorem exists_rendered {withTypename queried : Bool} {lines : List StructLine}
    (ok : (context.rendering parent withTypename selections).outcome = .ok (queried, lines)) :
    ∃ collected links, context.Rendered parent withTypename selections lines collected links ∧
      queried = collected.typenameQueried := by
  obtain ⟨collected, collects, makes, asked⟩ := exists_collected ok
  obtain ⟨links, rendered⟩ := exists_rendered_of_collected collects makes
  exact ⟨collected, links, rendered, asked⟩

/-- The slices and the pointer of a link. The struct in its line stands for the base type. -/
def linkType (context : SelectionContext) (link : Link) : GoType :=
  .ofSelection link.type link.conditional context.options.avoidOptionals ""

theorem linkLine_eq_ok {nested : Nested} {key : String} {link : Link} {line : StructLine}
    (ok : (context.linkLine nested key link).outcome = .ok line) :
    ∃ queried lines,
      (nested link.type.baseName true link.selections).outcome = .ok (queried, lines) ∧
        line = .link key (context.linkType link).depth (context.linkType link).pointer lines := by
  unfold linkLine at ok
  rw [Generation.outcome_bind_eq_ok] at ok
  obtain ⟨⟨queried, lines⟩, hn, ok⟩ := ok
  exact ⟨queried, lines, hn, (Except.ok.inj ok).symm⟩

/-- What the identifier of a branch for the type has after `On`. -/
def branchIdentifier (context : SelectionContext) (onType : String) : String :=
  context.resolver.names.convertWith { usesTypesPrefix := false } onType

/-- A fragment without a type condition is on the type it stands on. -/
theorem fragmentLines_eq (condition? : Option String) (entries : List FragmentEntry) :
    context.fragmentLines parent condition? entries =
      if context.isBranch parent (condition?.getD parent) then
        [.branch (context.branchIdentifier (condition?.getD parent)) (condition?.getD parent)
          (entries.flatMap (·.lines))]
      else entries.flatMap (·.lines) := by
  cases condition? with
  | none =>
    rw [if_neg (by simp [isBranch])]
    rfl
  | some onType => rfl

end SelectionContext

end SchemaBindings
