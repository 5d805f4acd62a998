import SchemaBindings.Proofs.ClosedTypes

/-!
# Identifiers

The identifiers that the code for the types of a schema declares at its top level: the scalars, and
those of the items for the definitions (`TypeGenerator.identifiers`). Each of them is declared in
the code (`Plugin.runTypes_declares`). Those for a type are its converted name with different
endings, and the name of a list (`TypeGenerator.identifiers_eq`).
-/

namespace SchemaBindings

open Text

/-! ## Declarations in code -/

/-- A line of the code starts with the text. -/
def HasLineStart (code start : String) : Prop :=
  ∃ before after, code = before ++ start ++ after ∧ EndsLine before

namespace HasLineStart

variable {code start : String}

theorem refl (text : String) : HasLineStart text text :=
  ⟨"", "", by rw [String.empty_append, String.append_empty], .inl rfl⟩

theorem append (h : HasLineStart code start) (more : String) :
    HasLineStart (code ++ more) start := by
  obtain ⟨before, after, rfl, ends⟩ := h
  exact ⟨before, after ++ more, by rw [String.append_assoc], ends⟩

theorem prepend (h : HasLineStart code start) {front : String} (ends : EndsLine front) :
    HasLineStart (front ++ code) start := by
  obtain ⟨before, after, rfl, within⟩ := h
  exact ⟨front ++ before, after, by simp only [String.append_assoc], ends.append within⟩

theorem trans {text : String} (h : HasLineStart code text) (within : HasLineStart text start) :
    HasLineStart code start := by
  obtain ⟨before, after, rfl, ends⟩ := h
  exact (within.prepend ends).append after

theorem intercalate {texts : List String} {text : String} (mem : text ∈ texts)
    (h : HasLineStart text start) : HasLineStart ("\n".intercalate texts) start := by
  obtain ⟨before, after, split, ends⟩ := exists_intercalate_eq mem
  rw [split]
  exact (h.prepend ends).append after

/-- A text is followed by its line feed, also where it is the last one. -/
theorem intercalate_newline {texts : List String} {text : String} (mem : text ∈ texts) :
    HasLineStart ("\n".intercalate texts ++ "\n") (text ++ "\n") := by
  induction texts with
  | nil => cases mem
  | cons first rest ih =>
    cases rest with
    | nil =>
      obtain rfl := List.mem_singleton.1 mem
      exact .refl _
    | cons second rest =>
      rw [String.intercalate_cons_cons, String.append_assoc]
      rcases List.mem_cons.1 mem with rfl | mem
      · exact (HasLineStart.refl _).append _
      · exact (ih mem).prepend (endsLine_append_newline first)

theorem of_append {more : String} (h : HasLineStart code (start ++ more)) :
    HasLineStart code start :=
  h.trans ((HasLineStart.refl start).append more)

end HasLineStart

/-- The code declares an identifier at its top level: as a type, as a constant of a type, or as a
variable. -/
inductive Declares (code name : String) : Prop
  | type (h : HasLineStart code ("type " ++ name ++ " "))
  | constant (type : String) (h : HasLineStart code ("\t" ++ name ++ " " ++ type ++ " = \""))
  | list (h : HasLineStart code ("var " ++ name ++ " = "))

namespace Declares

variable {code name : String}

theorem of_declaresType (h : DeclaresType code name) : Declares code name := by
  obtain ⟨before, after, rfl, ends⟩ := h
  exact .type ⟨before, after, by simp only [String.append_assoc], ends⟩

theorem imp {other : String} (keeps : ∀ start, HasLineStart code start → HasLineStart other start)
    (h : Declares code name) : Declares other name := by
  cases h with
  | type h => exact .type (keeps _ h)
  | constant type h => exact .constant type (keeps _ h)
  | list h => exact .list (keeps _ h)

theorem intercalate {texts : List String} {text : String} (mem : text ∈ texts)
    (h : Declares text name) : Declares ("\n".intercalate texts) name :=
  h.imp fun _ => .intercalate mem

end Declares

/-! ## Lines of constants -/

namespace EnumConstant

/-- The line of a constant, below its description. -/
def line (enum : String) (constant : EnumConstant) : String :=
  "\t" ++ constant.name ++ " " ++ enum ++ " = \"" ++ constant.value ++ "\""

theorem text_eq (enum : String) (constant : EnumConstant) :
    constant.text enum = commentText constant.description? 1 ++ constant.line enum := by
  unfold text line
  simp only [String.append_assoc]

end EnumConstant

/-! ## Identifiers of items -/

namespace TypeItem

/-- The name of the variable that lists the constants of an enum. -/
def listName (enum : String) : String := "All" ++ enum

/-- The identifiers that an item declares. -/
def identifiers : TypeItem → List String
  | record name _ _ _ => [name]
  | union name _ _ => [name]
  | constants name _ values checked =>
    name :: values.map (·.name) ++ if checked then [listName name] else []
  | plainString name _ _ => [name]
  | typeAlias name _ _ => [name]

theorem hasLineStart_checkText (enum : String) (values : List EnumConstant) :
    HasLineStart (checkText enum values) ("var " ++ listName enum ++ " = ") := by
  have starts : ∀ rest, HasLineStart ("var All" ++ (enum ++ (" = []" ++ rest)))
      ("var " ++ listName enum ++ " = ") := by
    refine fun rest => ⟨"", "[]" ++ rest, ?_, .inl rfl⟩
    rw [listName, show "var All" = "var " ++ "All" from rfl, show " = []" = " = " ++ "[]" from rfl]
    simp only [String.append_assoc, String.empty_append]
  unfold checkText
  simp only [String.append_assoc]
  exact starts _

theorem hasLineStart_constantLine {values : List EnumConstant} {constant : EnumConstant}
    (mem : constant ∈ values) (enum : String) (description? : Option String) (checked : Bool)
    (style : BlockStyle) :
    HasLineStart ((TypeItem.constants enum description? values checked).text style)
      (constant.line enum ++ "\n") := by
  unfold text
  dsimp only
  generalize (Declaration.describe _ _).text style = head
  have opened : EndsLine (head ++ "\nconst (\n") :=
    .inr ⟨head ++ "\nconst (", by rw [String.append_assoc]; rfl⟩
  have block := HasLineStart.intercalate_newline (List.mem_map_of_mem mem (f := (·.text enum)))
  have line : HasLineStart (constant.text enum ++ "\n") (constant.line enum ++ "\n") := by
    rw [EnumConstant.text_eq, String.append_assoc]
    exact (HasLineStart.refl _).prepend (commentText_endsLine _ 1)
  have closed := ((block.trans line).prepend opened).append (")\n" ++
    if checked then "\n" ++ checkText enum values else "")
  rw [show "\n)\n" = "\n" ++ ")\n" from rfl]
  simpa only [String.append_assoc] using closed

theorem declares (item : TypeItem) (style : BlockStyle) {name : String}
    (mem : name ∈ item.identifiers) : Declares (item.text style) name := by
  have own : Declares (item.text style) item.name := .of_declaresType (item.declaresType style)
  cases item with
  | record _ _ _ _ =>
    obtain rfl := List.mem_singleton.1 mem
    exact own
  | union _ _ _ =>
    obtain rfl := List.mem_singleton.1 mem
    exact own
  | plainString _ _ _ =>
    obtain rfl := List.mem_singleton.1 mem
    exact own
  | typeAlias _ _ _ =>
    obtain rfl := List.mem_singleton.1 mem
    exact own
  | constants enum description? values checked =>
    rw [identifiers, List.cons_append] at mem
    rcases List.mem_cons.1 mem with rfl | mem
    · exact own
    rcases List.mem_append.1 mem with constant | list
    · obtain ⟨value, value_mem, rfl⟩ := List.mem_map.1 constant
      have line := hasLineStart_constantLine value_mem enum description? checked style
      rw [EnumConstant.line, String.append_assoc, String.append_assoc] at line
      exact .constant enum line.of_append
    · cases checked with
      | false => cases list
      | true =>
        obtain rfl := List.mem_singleton.1 list
        have line := hasLineStart_checkText enum values
        have closed : ∀ front : String, EndsLine (front ++ "\n)\n") := fun front =>
          .inr ⟨front ++ "\n)", by rw [String.append_assoc]; rfl⟩
        unfold text
        exact .list ((line.prepend (.inr ⟨"", rfl⟩)).prepend (closed _))

end TypeItem

namespace TypeGenerator

variable {generator : TypeGenerator} {schema : Schema}

/-- The identifiers that are declared for a schema, in the order of their declarations. -/
def identifiers (generator : TypeGenerator) (schema : Schema) : List String :=
  generator.scalars.keys ++
    schema.definitions.flatMap fun definition =>
      (generator.items definition).flatMap TypeItem.identifiers

end TypeGenerator

theorem Plugin.hasLineStart_typesOutput {generator : TypeGenerator} {schema : Schema}
    {definition : SchemaDefinition} (hd : definition ∈ schema.definitions) {item : TypeItem}
    (mem : item ∈ generator.items definition) (options : Options) (info : PluginInfo) :
    HasLineStart (typesOutput generator schema options info).content
      (item.text generator.style) := by
  have written := List.mem_filterMap.2 ⟨definition, hd, TypeGenerator.text?_of_mem mem⟩
  exact .intercalate (List.mem_cons_of_mem _ written)
    (.intercalate (List.mem_map_of_mem mem) (.refl _))

theorem Plugin.runTypes_declares {schema : Schema} {options : Options} (info : PluginInfo)
    {name : String} (mem : name ∈ (TypeGenerator.ofSchema schema options).identifiers schema) :
    Declares (runTypes schema options info).content name := by
  rcases List.mem_append.1 mem with scalar | item
  · have listed := (OrderedMap.contains_iff_mem_keys _ _).2 scalar
    have declared :
        DeclaresType ((TypeGenerator.ofSchema schema options).scalarsText schema) name :=
      TypeGenerator.declaresType_scalarsText schema listed
    exact .intercalate List.mem_cons_self (.of_declaresType (declared.append "\n"))
  · obtain ⟨definition, definition_mem, mem⟩ := List.mem_flatMap.1 item
    obtain ⟨item, item_mem, mem⟩ := List.mem_flatMap.1 mem
    have declared := (item.declares {} mem).intercalate (List.mem_map.2 ⟨item, item_mem, rfl⟩)
    have written := List.mem_filterMap.2 ⟨definition, definition_mem,
      TypeGenerator.text?_of_mem item_mem⟩
    exact declared.intercalate (List.mem_cons_of_mem _ written)

/-! ## Identifiers of types -/

/-- The names of the values of an enum. -/
def TypeBody.valueNames : TypeBody → List String
  | enum values => values.map (·.name)
  | inputObject _ | interface _ _ | object _ _ | scalar | union _ => []

/-- The types that are defined. -/
def Schema.types (schema : Schema) : List TypeDefinition :=
  schema.definitions.filterMap fun
    | .type definition => some definition
    | .roots _ => none
    | .directive _ => none

namespace TypeGenerator

variable {generator : TypeGenerator} {schema : Schema}

/-- The values of an enum that constants are declared for. -/
def constantValues (generator : TypeGenerator) (definition : TypeDefinition) : List String :=
  if (generator.options.externalEnum? definition.name).isSome || generator.options.enumsAsTypes then
    []
  else definition.body.valueNames

/-- The fields that a struct for arguments is declared for. -/
def argumentFields (definition : TypeDefinition) : List String :=
  (definition.body.outputFields.filter (!·.arguments.isEmpty)).map (·.name)

/-- The name that a type is declared by. -/
def typeName (generator : TypeGenerator) (definition : TypeDefinition) : String :=
  generator.options.names.convert definition.name

/-- What stands behind the name of a type in identifiers that are declared for it: nothing in that
of the type itself, the value in that of a constant, and the field in that of a struct for
arguments. -/
def endings (generator : TypeGenerator) (definition : TypeDefinition) : List String :=
  if definition.kind = .scalar then []
  else
    "" :: (generator.constantValues definition).map camelCase ++
      (argumentFields definition).map fun field => camelCase field ++ "Args"

/-- Whether a variable is declared that lists the constants of an enum. -/
def declaresList (generator : TypeGenerator) (definition : TypeDefinition) : Bool :=
  definition.kind == .enum && generator.options.constEnums && !generator.options.enumsAsTypes &&
    (generator.options.externalEnum? definition.name).isNone

/-- The identifiers that are declared for a type. -/
def typeIdentifiers (generator : TypeGenerator) (definition : TypeDefinition) : List String :=
  (generator.endings definition).map (generator.typeName definition ++ ·) ++
    if generator.declaresList definition then [TypeItem.listName (generator.typeName definition)]
    else []

theorem constantValues_eq_nil {definition : TypeDefinition}
    (values : definition.body.valueNames = []) : generator.constantValues definition = [] := by
  unfold constantValues
  rw [values, ite_self]

theorem filterMap_argumentsItem? (type : String) (fields : List FieldDefinition) :
    fields.filterMap (generator.argumentsItem? type) =
      (fields.filter (!·.arguments.isEmpty)).map fun field =>
        .record (type ++ camelCase field.name ++ "Args") none
          (field.arguments.map generator.inputField) [] := by
  induction fields with
  | nil => rfl
  | cons field rest ih =>
    cases empty : field.arguments.isEmpty with
    | true =>
      have nothing : generator.argumentsItem? type field = none := if_pos empty
      rw [List.filterMap_cons_none nothing, List.filter_cons_of_neg (by simp [empty]), ih]
    | false =>
      have item : generator.argumentsItem? type field = some _ := if_neg (by simp [empty])
      rw [List.filterMap_cons_some item, List.filter_cons_of_pos (by simp [empty]), ih,
        List.map_cons]

theorem flatMap_identifiers_argumentsItem? (name : String) (fields : List FieldDefinition) :
    (fields.filterMap (generator.argumentsItem? name)).flatMap TypeItem.identifiers =
      ((fields.filter (!·.arguments.isEmpty)).map (·.name)).map fun field =>
        name ++ (camelCase field ++ "Args") := by
  rw [filterMap_argumentsItem?, List.flatMap_map, List.map_map, List.map_eq_flatMap]
  simp [TypeItem.identifiers, String.append_assoc]

theorem typeIdentifiers_eq {definition : TypeDefinition} (values : definition.body.valueNames = [])
    (noScalar : definition.kind ≠ .scalar) (noEnum : definition.kind ≠ .enum) :
    generator.typeIdentifiers definition =
      generator.typeName definition ::
        (argumentFields definition).map fun field =>
          generator.typeName definition ++ (camelCase field ++ "Args") := by
  have list : generator.declaresList definition = false := by
    simp [declaresList, noEnum]
  unfold typeIdentifiers endings
  rw [if_neg noScalar, constantValues_eq_nil values, list]
  simp [Function.comp_def]

theorem flatMap_identifiers_compositeItems {definition : TypeDefinition}
    {interfaces : List String} {fields : List FieldDefinition}
    (outputs : definition.body.outputFields = fields) (values : definition.body.valueNames = [])
    (noScalar : definition.kind ≠ .scalar) (noEnum : definition.kind ≠ .enum) :
    (generator.compositeItems definition interfaces fields).flatMap TypeItem.identifiers =
      generator.typeIdentifiers definition := by
  rw [typeIdentifiers_eq values noScalar noEnum, argumentFields, outputs]
  unfold compositeItems
  dsimp only
  rw [List.flatMap_cons, flatMap_identifiers_argumentsItem?]
  rfl

theorem identifiers_enumItem {definition : TypeDefinition} {values : List EnumValue}
    (enum : definition.body = .enum values) :
    (generator.enumItem definition values).identifiers =
      generator.typeIdentifiers definition := by
  have kind : definition.kind = .enum := by
    unfold TypeDefinition.kind
    rw [enum]
    rfl
  have noArguments : argumentFields definition = [] := by
    unfold argumentFields
    rw [enum]
    rfl
  have noScalar : definition.kind ≠ .scalar := by
    rw [kind]
    decide
  unfold typeIdentifiers endings declaresList constantValues enumItem typeName
  rw [if_neg noScalar, noArguments, kind, enum]
  cases generator.options.externalEnum? definition.name with
  | some target => simp [TypeItem.identifiers]
  | none =>
    cases generator.options.enumsAsTypes with
    | true => simp [TypeItem.identifiers]
    | false =>
      simp [TypeItem.identifiers, TypeBody.valueNames, enumConstantName, Function.comp_def]

theorem flatMap_identifiers_typeItems (full : generator.included? = none)
    (definition : TypeDefinition) :
    (generator.typeItems definition).flatMap TypeItem.identifiers =
      generator.typeIdentifiers definition := by
  have includes : generator.includes definition.name = true := by
    unfold includes
    rw [full]
  obtain ⟨name, description?, directives, body⟩ := definition
  cases body with
  | enum values =>
    unfold typeItems
    dsimp only at includes ⊢
    rw [includes, if_pos rfl, List.flatMap_singleton]
    exact identifiers_enumItem rfl
  | inputObject fields =>
    refine (typeIdentifiers_eq rfl ?_ ?_).symm
    exacts [nofun, nofun]
  | interface interfaces fields =>
    refine flatMap_identifiers_compositeItems rfl rfl ?_ ?_
    exacts [nofun, nofun]
  | object interfaces fields =>
    unfold typeItems
    dsimp only at includes ⊢
    rw [includes, if_pos rfl]
    refine flatMap_identifiers_compositeItems rfl rfl ?_ ?_
    exacts [nofun, nofun]
  | scalar => rfl
  | union members =>
    refine (typeIdentifiers_eq rfl ?_ ?_).symm
    exacts [nofun, nofun]

theorem identifiers_eq (full : generator.included? = none) (schema : Schema) :
    generator.identifiers schema =
      generator.scalars.keys ++ schema.types.flatMap generator.typeIdentifiers := by
  have own : ∀ definitions : List SchemaDefinition,
      (definitions.flatMap fun definition =>
        (generator.items definition).flatMap TypeItem.identifiers) =
      (definitions.filterMap fun
        | .type definition => some definition
        | .roots _ => none
        | .directive _ => none).flatMap generator.typeIdentifiers := by
    intro definitions
    induction definitions with
    | nil => rfl
    | cons definition rest ih =>
      rw [List.flatMap_cons, ih]
      cases definition with
      | type definition =>
        rw [show generator.items (.type definition) = generator.typeItems definition from rfl,
          flatMap_identifiers_typeItems full]
        rfl
      | roots roots => rfl
      | directive directive => rfl
  unfold identifiers Schema.types
  rw [own]

end TypeGenerator

end SchemaBindings
