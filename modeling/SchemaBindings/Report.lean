import SchemaBindings.Document.Definition
import SchemaBindings.Text.Quoted

/-!
What generation reports besides its result: warnings, which come in order and do not stop it, and
errors, which do. A computation that fails keeps the warnings it gave before.
-/

namespace SchemaBindings

/-- Something in the input that is left out of the generated code. -/
inductive Warning
  | extensionOfUndefined (type : String)
  | extensionOfOtherKind (type : String)
  | unknownField (parent field : String)
  | unknownSpread (fragment : String)
  | anonymousOperation (kind : OperationKind)
  | omittedFragment (fragment : String)
  deriving Repr, DecidableEq

/-- The text of a warning. -/
def Warning.message : Warning → String
  | extensionOfUndefined type => s!"Skipping extension of undefined type `{type}`."
  | extensionOfOtherKind type =>
    s!"Skipping extension of `{type}`: the extension kind does not match the kind of the type " ++
      "it extends."
  | unknownField parent field =>
    s!"Skipping selection of `{parent}.{field}`: no such field is defined in the schema."
  | unknownSpread fragment => s!"Skipping spread of unknown fragment `{fragment}`."
  | anonymousOperation kind =>
    let word := kind.keyword
    s!"Skipping anonymous {word} operation: operations must be named to generate types for them."
  | omittedFragment fragment => s!"Omitting unknown fragment `{fragment}` from document constants."

/-- A reason why nothing can be generated. A file is named where the text came from one. -/
inductive GenerationError
  | schemaUnreadable (file? : Option String)
  | documentUnreadable (file? : Option String)
  | missingRootType (kind : OperationKind)
  | unknownType (name : String)
  deriving Repr, DecidableEq

/-- Stands in a message for the account that a reader or the system gives of a failure. -/
def failureDetail : String := "<detail>"

/-- The name of a file in a message, with a space in front. -/
def namedFile (file? : Option String) : String :=
  match file? with
  | some file => " " ++ Text.quoted file
  | none => ""

/-- The text of an error. -/
def GenerationError.message : GenerationError → String
  | schemaUnreadable file? =>
    "Error parsing GraphQL schema" ++ namedFile file? ++ ": " ++ failureDetail
  | documentUnreadable file? =>
    "Error parsing GraphQL document" ++ namedFile file? ++ ": " ++ failureDetail
  | missingRootType kind =>
    "Unable to find root schema type for operation type \"" ++ kind.keyword ++ "\"!"
  | unknownType name =>
    s!"The type `{name}` is used as a type condition but is not defined in the schema."

/-- A result and the warnings given on the way to it, in order. -/
structure Logged (α : Type) where
  value : α
  warnings : List Warning := []
  deriving Repr

namespace Logged

instance : Monad Logged where
  pure a := ⟨a, []⟩
  bind x f := ⟨(f x.value).value, x.warnings ++ (f x.value).warnings⟩

@[simp] theorem value_pure {α : Type} (a : α) : (pure a : Logged α).value = a := rfl

@[simp] theorem warnings_pure {α : Type} (a : α) : (pure a : Logged α).warnings = [] := rfl

@[simp] theorem value_bind {α β : Type} (x : Logged α) (f : α → Logged β) :
    (x >>= f).value = (f x.value).value := rfl

@[simp] theorem warnings_bind {α β : Type} (x : Logged α) (f : α → Logged β) :
    (x >>= f).warnings = x.warnings ++ (f x.value).warnings := rfl

@[ext] theorem ext {α : Type} {x y : Logged α} (value : x.value = y.value)
    (warnings : x.warnings = y.warnings) : x = y := by
  cases x; cases y; cases value; cases warnings; rfl

instance : LawfulMonad Logged :=
  LawfulMonad.mk' Logged
    (fun x => by apply ext <;> simp [Functor.map])
    (fun a f => by apply ext <;> simp)
    (fun x f g => by apply ext <;> simp)

@[simp] theorem value_map {α β : Type} (f : α → β) (x : Logged α) :
    (f <$> x).value = f x.value := rfl

@[simp] theorem warnings_map {α β : Type} (f : α → β) (x : Logged α) :
    (f <$> x).warnings = x.warnings := List.append_nil _

/-- Gives a warning. -/
def warn (warning : Warning) : Logged Unit := ⟨(), [warning]⟩

end Logged

/-- A generation step: it may give warnings, and may fail. -/
abbrev Generation := ExceptT GenerationError Logged

namespace Generation

/-- The result or the error, without the warnings. -/
def outcome {α : Type} (step : Generation α) : Except GenerationError α := step.run.value

/-- The warnings, which are kept also where the step fails. -/
def warnings {α : Type} (step : Generation α) : List Warning := step.run.warnings

/-- Gives a warning. -/
def warn (warning : Warning) : Generation Unit := ExceptT.lift (Logged.warn warning)

end Generation

end SchemaBindings
