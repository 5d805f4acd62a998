import SchemaBindings.Naming
import SchemaBindings.OrderedMap
import SchemaBindings.Scalars
import SchemaBindings.TypeRef

/-!
Types as generated code writes them, and how references to schema types become such types.

A list is a slice, and a slice already has a value that means absence. So nullability shows only at
the named type at the bottom, as a pointer.
-/

namespace SchemaBindings

/-- A type in generated code: `depth` slices of a base type, which may be behind a pointer. -/
structure GoType where
  depth : Nat
  pointer : Bool
  base : String
  deriving Repr, DecidableEq, Inhabited

namespace GoType

/-- The marks in front of the base type. -/
def marks (depth : Nat) (pointer : Bool) : String :=
  String.join (List.replicate depth "[]") ++ (if pointer then "*" else "")

/-- The type as it is written. -/
def text (type : GoType) : String := marks type.depth type.pointer ++ type.base

/-- The type of an output position: a pointer where the named type may be null, unless pointers are
avoided. -/
def ofOutput (ref : TypeRef) (avoidOptionals : Bool) (base : String) : GoType :=
  { depth := ref.listDepth, pointer := ref.isBaseNullable && !avoidOptionals, base }

/-- The type of an input position. A list is written as in an output position; anything else is a
pointer where it may be left out. -/
def ofInput (ref : TypeRef) (hasDefault avoidOptionals : Bool) (base : String) : GoType :=
  if ref.isList then ofOutput ref avoidOptionals base
  else { depth := 0, pointer := !ref.isNonNull && !hasDefault && !avoidOptionals, base }

/-- The type of a selected field. A condition makes a field that is no list a pointer too. -/
def ofSelection (ref : TypeRef) (conditional avoidOptionals : Bool) (base : String) : GoType :=
  { depth := ref.listDepth
    pointer := (ref.isBaseNullable || (conditional && !ref.isList)) && !avoidOptionals
    base }

/-- A value of the type is one of the base type: there is neither a slice nor a pointer in
between. -/
def IsByValue (type : GoType) : Prop := type.depth = 0 ∧ type.pointer = false

instance (type : GoType) : Decidable type.IsByValue := inferInstanceAs (Decidable (_ ∧ _))

theorem marks_eq_empty_iff (depth : Nat) (pointer : Bool) :
    marks depth pointer = "" ↔ depth = 0 ∧ pointer = false := by
  unfold marks
  rw [String.append_eq_empty_iff]
  refine and_congr ?_ ?_
  · cases depth with
    | zero => exact iff_of_true String.join_nil rfl
    | succ depth => simp [List.replicate_succ, String.join_cons, String.append_eq_empty_iff]
  · cases pointer <;> simp

/-- A type is by value exactly when nothing is written in front of its base type. -/
theorem isByValue_iff_text_eq (type : GoType) : type.IsByValue ↔ type.text = type.base := by
  unfold IsByValue text
  rw [← marks_eq_empty_iff]
  constructor
  · intro nothing
    rw [nothing, String.empty_append]
  · intro h
    have length := congrArg String.length h
    rw [String.length_append] at length
    rw [← String.length_eq_zero_iff]
    omega

theorem isByValue_ofOutput {ref : TypeRef} {avoidOptionals : Bool} {base : String} :
    (ofOutput ref avoidOptionals base).IsByValue ↔
      ref.isList = false ∧ (ref.isNonNull = true ∨ avoidOptionals = true) := by
  unfold ofOutput IsByValue
  rw [← ref.isList_eq_false_iff]
  refine and_congr_right fun hl => ?_
  rw [ref.isNonNull_eq hl]
  cases ref.isBaseNullable <;> simp

theorem isByValue_ofInput {ref : TypeRef} {hasDefault avoidOptionals : Bool} {base : String} :
    (ofInput ref hasDefault avoidOptionals base).IsByValue ↔
      ref.isList = false ∧
        (ref.isNonNull = true ∨ hasDefault = true ∨ avoidOptionals = true) := by
  unfold ofInput
  cases hl : ref.isList with
  | true => simp [isByValue_ofOutput, hl]
  | false => cases ref.isNonNull <;> cases hasDefault <;> simp [IsByValue]

theorem isByValue_ofSelection {ref : TypeRef} {conditional avoidOptionals : Bool} {base : String} :
    (ofSelection ref conditional avoidOptionals base).IsByValue ↔
      ref.isList = false ∧
        (ref.isNonNull = true ∧ conditional = false ∨ avoidOptionals = true) := by
  unfold ofSelection IsByValue
  rw [← ref.isList_eq_false_iff]
  refine and_congr_right fun hl => ?_
  rw [ref.isNonNull_eq hl, hl]
  cases ref.isBaseNullable <;> cases conditional <;> simp

end GoType

/-- How generated code refers to a scalar: by its own name, where a type of that name is declared,
or by the type that stands for it. -/
inductive ScalarReference
  | declaredName
  | goType
  deriving Repr, DecidableEq, Inhabited

/-- How references to schema types become types of generated code. -/
structure TypeResolver where
  names : NameStyle
  qualifier? : Option String := none
  scalarReference : ScalarReference
  scalars : ScalarTable
  deriving Inhabited

namespace TypeResolver

/-- The type that is written for a schema type. A type that is no scalar may be declared in another
package, whose name then stands in front. -/
def resolve (resolver : TypeResolver) (name : String) : String :=
  match resolver.scalars.find? name with
  | some type =>
    match resolver.scalarReference with
    | .declaredName => name
    | .goType => type
  | none =>
    let converted := resolver.names.convert name
    match resolver.qualifier? with
    | some package => if package.isEmpty then converted else package ++ "." ++ converted
    | none => converted

/-- The type of a field in an output position. -/
def outputType (resolver : TypeResolver) (ref : TypeRef) (avoidOptionals : Bool) : GoType :=
  .ofOutput ref avoidOptionals (resolver.resolve ref.baseName)

/-- The type of a variable, an argument or a field of an input object. -/
def inputType (resolver : TypeResolver) (ref : TypeRef) (hasDefault avoidOptionals : Bool) :
    GoType :=
  .ofInput ref hasDefault avoidOptionals (resolver.resolve ref.baseName)

end TypeResolver

end SchemaBindings
