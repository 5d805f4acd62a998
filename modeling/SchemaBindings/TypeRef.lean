/-!
References to types: a name, possibly inside lists and marked as never null.
-/

namespace SchemaBindings

/-- A reference to a type. -/
inductive TypeRef
  | named (name : String)
  | list (item : TypeRef)
  | nonNull (inner : TypeRef)
  deriving Repr, DecidableEq, Inhabited

namespace TypeRef

/-- The name at the bottom of the reference. -/
def baseName : TypeRef → String
  | named name => name
  | list item => item.baseName
  | nonNull inner => inner.baseName

/-- Whether the outermost mark says that the value is never null. -/
def isNonNull : TypeRef → Bool
  | nonNull _ => true
  | named _ => false
  | list _ => false

/-- Whether the reference is a list, whatever its nullability. -/
def isList : TypeRef → Bool
  | named _ => false
  | list _ => true
  | nonNull inner => inner.isList

/-- Whether the named type at the bottom may be null: so it is in `[String]!`, but not in
`[String!]`. -/
def isBaseNullable : TypeRef → Bool
  | named _ => true
  | list item => item.isBaseNullable
  | nonNull (named _) => false
  | nonNull inner => inner.isBaseNullable

/-- The number of lists around the named type. -/
def listDepth : TypeRef → Nat
  | named _ => 0
  | list item => item.listDepth + 1
  | nonNull inner => inner.listDepth

/-- The reference as it is written in a schema. -/
def text : TypeRef → String
  | named name => name
  | list item => "[" ++ item.text ++ "]"
  | nonNull inner => inner.text ++ "!"

theorem isList_iff_listDepth_pos (ref : TypeRef) : ref.isList = true ↔ 0 < ref.listDepth := by
  induction ref with
  | named => simp [isList, listDepth]
  | list => simp [isList, listDepth]
  | nonNull inner ih => simpa [isList, listDepth] using ih

theorem isList_eq_false_iff (ref : TypeRef) : ref.isList = false ↔ ref.listDepth = 0 := by
  rw [← Bool.not_eq_true, ref.isList_iff_listDepth_pos, Nat.not_lt, Nat.le_zero]

/-- Of a reference that is no list, the outermost mark is the one at the named type. -/
theorem isNonNull_eq (ref : TypeRef) (h : ref.isList = false) :
    ref.isNonNull = !ref.isBaseNullable := by
  induction ref with
  | named name => rfl
  | list item ih => cases h
  | nonNull inner ih =>
    cases inner with
    | named name => rfl
    | list item => cases h
    | nonNull deep => exact ih h

end TypeRef

end SchemaBindings
