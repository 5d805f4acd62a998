import SchemaBindings.Proofs.ResponseKeys

/-!
# Wrapped selections

A selection list that stands as a whole in an inline fragment on its own type makes the struct of
the list itself. The two are made in different ways: the wrapped list is rendered without a line for
`__typename`, and its lines and whether it asks for one are passed on to the struct around it. The
flag of a rendering adds the line for `__typename` in front and does nothing else
(`rendering_true`), and an inline fragment that is no branch gives its lines back as they are
(`lines_ofWrapped`). `structText_wrapped` is the result. It equates computations: text, error and
warnings are all the same.
-/

namespace SchemaBindings

namespace Collected

/-- What a list is collected to that holds an inline fragment on its own type and nothing else. -/
def ofWrapped (condition? : Option String) (queried : Bool) (lines : List StructLine) : Collected :=
  addFragment { typenameQueried := queried } condition? (.inline lines)

theorem typenameQueried_ofWrapped (condition? : Option String) (queried : Bool)
    (lines : List StructLine) : (ofWrapped condition? queried lines).typenameQueried = queried :=
  rfl

theorem fields_ofWrapped (condition? : Option String) (queried : Bool) (lines : List StructLine) :
    (ofWrapped condition? queried lines).leaves.entries = [] ∧
      (ofWrapped condition? queried lines).aliased.entries = [] ∧
      (ofWrapped condition? queried lines).links.entries = [] :=
  ⟨rfl, rfl, rfl⟩

theorem fragments_ofWrapped (condition? : Option String) (queried : Bool)
    (lines : List StructLine) :
    (ofWrapped condition? queried lines).fragments.entries = [(condition?, [.inline lines])] :=
  rfl

end Collected

namespace SelectionContext

variable {context : SelectionContext} {parent : String} {condition? : Option String}

/-! ## The line for the typename -/

/-- The flag adds the line for `__typename` in front of the others. -/
theorem lines_true (nested : Nested) (parent : String) (collected : Collected) :
    context.lines nested parent true collected = (do
      let lines ← context.lines nested parent false collected
      return (context.typenameLine? parent collected.typenameQueried).toList ++ lines) := by
  simp [lines]

theorem rendering_true (parent : String) (selections : List Selection) :
    context.rendering parent true selections = (do
      let (queried, lines) ← context.rendering parent false selections
      return (queried, (context.typenameLine? parent queried).toList ++ lines)) := by
  rw [rendering_eq, rendering_eq]
  simp only [lines_true, bind_assoc, pure_bind]

/-! ## Inline fragments on the type they stand on -/

theorem isBranch_self (context : SelectionContext) (parent : String) :
    context.isBranch parent parent = false := by
  simp [isBranch]

/-- An inline fragment on the type it stands on is rendered without a line for `__typename`. -/
theorem collect_wrapped (nested : Nested) (directives : List Directive)
    (selections : List Selection) (own : condition?.getD parent = parent)
    (known : ∀ type, condition? = some type → (context.schema.kind? type).isSome = true) :
    context.collect nested parent [.inline condition? directives selections] = (do
      let (queried, lines) ← nested parent false selections
      return .ofWrapped condition? queried lines) := by
  cases condition? with
  | none => simp [collect, collectOne, collectInline, Collected.ofWrapped, isBranch_self]
  | some type =>
    obtain rfl : type = parent := own
    obtain ⟨kind, hk⟩ := Option.isSome_iff_exists.1 (known type rfl)
    simp [collect, collectOne, collectInline, Collected.ofWrapped, isBranch_self, hk]

/-- A wrapped list has the lines that it has without the fragment around it. -/
theorem lines_ofWrapped (nested : Nested) (withTypename queried : Bool) (lines : List StructLine)
    (own : condition?.getD parent = parent) :
    context.lines nested parent withTypename (.ofWrapped condition? queried lines) =
      pure ((if withTypename then (context.typenameLine? parent queried).toList else []) ++
        lines) := by
  have spliced : context.fragmentLines parent condition? [.inline lines] = lines := by
    simp [fragmentLines_eq, own, isBranch_self, FragmentEntry.lines]
  obtain ⟨leaves, aliased, links⟩ := Collected.fields_ofWrapped condition? queried lines
  unfold SelectionContext.lines
  simp [leaves, aliased, links, Collected.typenameQueried_ofWrapped,
    Collected.fragments_ofWrapped, spliced]

theorem rendering_wrapped (directives : List Directive) (selections : List Selection)
    (own : condition?.getD parent = parent)
    (known : ∀ type, condition? = some type → (context.schema.kind? type).isSome = true) :
    context.rendering parent true [.inline condition? directives selections] =
      context.rendering parent true selections := by
  rw [rendering_eq, collect_wrapped _ _ _ own known, rendering_true]
  simp only [bind_assoc, pure_bind, Collected.typenameQueried_ofWrapped,
    lines_ofWrapped _ _ _ _ own, if_true]

theorem structText_inline (directives : List Directive) {selections : List Selection}
    (nonempty : selections ≠ []) (own : condition?.getD parent = parent)
    (known : ∀ type, condition? = some type → (context.schema.kind? type).isSome = true) :
    context.structText parent [.inline condition? directives selections] =
      context.structText parent selections := by
  have lines : context.structLines parent [.inline condition? directives selections] =
      context.structLines parent selections :=
    congrArg (fun rendered => (do let (_, lines) ← rendered; return lines))
      (rendering_wrapped directives selections own known)
  unfold structText
  rw [lines, List.isEmpty_cons, List.isEmpty_eq_false_iff.2 nonempty]

/-- Wrapping a whole selection list in an inline fragment without a type condition, or on the type
of the selections, makes no difference. -/
theorem structText_wrapped (context : SelectionContext) (parent : String)
    (selections : List Selection) (nonempty : selections ≠ []) :
    context.structText parent [.inline none [] selections] =
        context.structText parent selections ∧
      ((context.schema.kind? parent).isSome = true →
        context.structText parent [.inline (some parent) [] selections] =
          context.structText parent selections) := by
  constructor
  · exact structText_inline [] nonempty rfl fun type none => nomatch none
  · intro defined
    refine structText_inline [] nonempty rfl ?_
    rintro _ ⟨⟩
    exact defined

/-- The selections `__typename ... on Cat { mother { id } } ... { id }` on an interface. -/
def catAmongPets : List Selection := [
  .field { name := "__typename" } [],
  .inline (some "Cat") [] [.field { name := "mother" } [.field { name := "id" } []]],
  .inline none [] [.field { name := "id" } []]]

theorem catAmongPets_wrapped :
    catAmongPets ≠ [] ∧ (petContext.schema.kind? "Pet").isSome = true ∧
      petContext.structText "Pet" [.inline none [] catAmongPets] =
        petContext.structText "Pet" catAmongPets ∧
      petContext.structText "Pet" [.inline (some "Pet") [] catAmongPets] =
        petContext.structText "Pet" catAmongPets := by
  have nonempty : catAmongPets ≠ [] := List.cons_ne_nil _ _
  have defined : (petContext.schema.kind? "Pet").isSome = true := by decide
  obtain ⟨bare, typed⟩ := structText_wrapped petContext "Pet" catAmongPets nonempty
  exact ⟨nonempty, defined, bare, typed defined⟩

end SelectionContext

end SchemaBindings
