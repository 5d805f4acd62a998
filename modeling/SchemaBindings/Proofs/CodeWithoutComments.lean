import Mathlib.Data.List.Forall2
import SchemaBindings.Plugin
import SchemaBindings.Proofs.DeclaredTypes

/-!
# Code without comments

Descriptions are written as line comments and nowhere else. Two texts have the same code if they
agree up to lines that are comments, whatever follows them (`SameCode`); each part of an output that
holds a description keeps its code when the description is taken away. So the output for a schema
has, without comments, the lines of the output for the schema without descriptions
(`Plugin.withoutComments_runTypes`).
-/

namespace SchemaBindings

/-! ## Lines that are no comments -/

namespace Text

/-- Whether the first characters after the tabs at the start of the line are `//`. -/
def isCommentLine (line : List Char) : Bool :=
  ['/', '/'].isPrefixOf (line.dropWhile (· == '\t'))

/-- The lines of a text that are no comments. -/
def codeLines (text : String) : List (List Char) :=
  (splitChars '\n' text.toList).filter (!isCommentLine ·)

/-- The text without the lines that are comments. -/
def withoutComments (text : String) : String :=
  "\n".intercalate ((codeLines text).map String.ofList)

theorem codeLines_append_newline (front back : String) :
    codeLines (front ++ "\n" ++ back) = codeLines front ++ codeLines back := by
  unfold codeLines
  rw [String.toList_append, String.toList_append, List.append_assoc]
  show ((splitChars '\n' (front.toList ++ '\n' :: back.toList)).filter _) = _
  rw [splitChars_append, List.filter_append]

/-- What stands in front of a line takes no part in whether the line is a comment. -/
theorem EndsLine.codeLines_append {front : String} (h : EndsLine front) :
    ∃ lines, ∀ back, codeLines (front ++ back) = lines ++ codeLines back := by
  rcases h with rfl | ⟨front, rfl⟩
  · exact ⟨[], fun back => by rw [String.empty_append, List.nil_append]⟩
  · exact ⟨codeLines front, codeLines_append_newline front⟩

/-- Tabs and two slashes begin a comment, which goes on to the end of the line. -/
theorem codeLines_comment (level : Nat) {line : List Char} (h : '\n' ∉ line) :
    codeLines (tabs level ++ "//" ++ String.ofList line) = [] := by
  have characters : (tabs level ++ "//" ++ String.ofList line).toList =
      List.replicate level '\t' ++ '/' :: '/' :: line := by
    simp [tabs]
  have noBreak : '\n' ∉ List.replicate level '\t' ++ '/' :: '/' :: line := by
    simp [h]
  have comment : isCommentLine (List.replicate level '\t' ++ '/' :: '/' :: line) = true := by
    unfold isCommentLine
    rw [List.dropWhile_append_of_pos (by simp)]
    rfl
  unfold codeLines
  rw [characters, splitChars_of_not_mem noBreak, List.filter_cons_of_neg (by simp [comment]),
    List.filter_nil]

example : withoutComments "// pet\ntype Pet string\n\t\t//\nconst x = 1 // one" =
    "type Pet string\nconst x = 1 // one" := by decide

end Text

open Text

/-! ## Texts with the same code -/

/-- The texts have the same lines but for comments, whatever is written after both. -/
def SameCode (first second : String) : Prop :=
  ∀ after, codeLines (first ++ after) = codeLines (second ++ after)

namespace SameCode

variable {first second : String}

theorem refl (text : String) : SameCode text text := fun _ => rfl

theorem trans {third : String} (h : SameCode first second) (h' : SameCode second third) :
    SameCode first third := fun after => (h after).trans (h' after)

theorem symm (h : SameCode first second) : SameCode second first := fun after => (h after).symm

theorem append (h : SameCode first second) (more : String) :
    SameCode (first ++ more) (second ++ more) := by
  intro after
  rw [String.append_assoc, String.append_assoc]
  exact h _

theorem prepend (h : SameCode first second) {front : String} (hf : EndsLine front) :
    SameCode (front ++ first) (front ++ second) := by
  intro after
  obtain ⟨lines, hl⟩ := hf.codeLines_append
  rw [String.append_assoc, String.append_assoc, hl, hl, h after]

theorem append_both (h : SameCode first second) (he : EndsLine second) {third fourth : String}
    (h' : SameCode third fourth) : SameCode (first ++ third) (second ++ fourth) :=
  (h.append third).trans (h'.prepend he)

theorem intercalate {texts others : List String} (h : List.Forall₂ SameCode texts others) :
    SameCode ("\n".intercalate texts) ("\n".intercalate others) := by
  induction h with
  | nil => exact refl _
  | cons hfirst hrest ih =>
    cases hrest with
    | nil =>
      rw [String.intercalate_singleton, String.intercalate_singleton]
      exact hfirst
    | cons hsecond hrest =>
      rw [String.intercalate_cons_cons, String.intercalate_cons_cons]
      exact (hfirst.append "\n").append_both (endsLine_append_newline _) ih

theorem intercalate_map {α : Type} {items : List α} {f g : α → String}
    (h : ∀ item, SameCode (f item) (g item)) :
    SameCode ("\n".intercalate (items.map f)) ("\n".intercalate (items.map g)) := by
  refine intercalate ?_
  rw [List.forall₂_map_left_iff, List.forall₂_map_right_iff, List.forall₂_same]
  exact fun item _ => h item

theorem withoutComments_eq (h : SameCode first second) :
    withoutComments first = withoutComments second := by
  have lines := h ""
  rw [String.append_empty, String.append_empty] at lines
  unfold withoutComments
  rw [lines]

/-- One line of a description adds no code. -/
theorem commentLine {line : List Char} (h : '\n' ∉ line) (level : Nat) :
    SameCode (SchemaBindings.commentLine level line) "" := by
  have ofRest : ∀ rest : List Char, '\n' ∉ rest →
      SameCode (tabs level ++ "//" ++ String.ofList rest ++ "\n") "" := by
    intro rest hr after
    rw [codeLines_append_newline, codeLines_comment level hr, String.empty_append, List.nil_append]
  unfold SchemaBindings.commentLine
  dsimp only
  split
  · have bare := ofRest [] List.not_mem_nil
    rw [String.ofList_nil, String.append_empty, String.append_assoc] at bare
    exact bare
  · have spaced := ofRest (' ' :: trimEndChars line) (by
      rw [List.mem_cons, not_or]
      exact ⟨by decide, fun hn => h (mem_of_mem_trimEndChars hn)⟩)
    have slashes : "// " = "//" ++ String.ofList [' '] := rfl
    rw [← List.singleton_append, String.ofList_append, ← String.append_assoc] at spaced
    rw [slashes, ← String.append_assoc]
    exact spaced

theorem commentText (description? : Option String) (level : Nat) :
    SameCode (SchemaBindings.commentText description? level) "" := by
  cases description? with
  | none => exact refl _
  | some description =>
    have noBreak : ∀ line ∈ lineChars (trim description).toList, '\n' ∉ line :=
      fun _ => not_mem_of_mem_lineChars
    unfold SchemaBindings.commentText
    dsimp only
    revert noBreak
    induction lineChars (trim description).toList with
    | nil => exact fun _ => refl _
    | cons line rest ih =>
      intro noBreak
      rw [List.forall_mem_cons] at noBreak
      have both := (commentLine noBreak.1 level).append_both (.inl rfl) (ih noBreak.2)
      rw [String.append_empty] at both
      rwa [List.map_cons, String.join_cons]

theorem described (description? other? : Option String) (level : Nat) (text : String) :
    SameCode (SchemaBindings.commentText description? level ++ text)
      (SchemaBindings.commentText other? level ++ text) :=
  ((commentText description? level).trans (commentText other? level).symm).append text

end SameCode

/-! ## Declarations -/

namespace Declaration

/-- A description stands in front of what is declared. -/
theorem text_describe (declaration : Declaration) (hc : declaration.comment = "")
    (description? : Option String) (style : BlockStyle) :
    (declaration.describe description?).text style =
      SchemaBindings.commentText description? 0 ++ declaration.text style := by
  unfold describe
  dsimp only
  split
  · rename_i blank
    rw [String.isEmpty_iff] at blank
    rw [blank, String.empty_append]
  · unfold text
    rw [hc]
    simp only [String.append_assoc, String.empty_append]
    rfl

theorem exists_text_block {declaration : Declaration} (hc : declaration.call? = none) :
    ∃ front back, ∀ block : String, block.isEmpty = false →
      ({ declaration with block } : Declaration).text {} = front ++ "\n" ++ block ++ back := by
  refine ⟨declaration.comment ++ "type " ++ declaration.name ++
      (declaration.kind?.elim "" fun kind => " " ++ kind.keyword) ++ " " ++
      declaration.content ++ "\x7b", "\n\x7d" ++
      String.join (declaration.implements.map (markerMethod declaration.name)) ++ "\n", ?_⟩
  intro block he
  have body : ({ declaration with block } : Declaration).body {} =
      " " ++ declaration.content ++ "\x7b" ++ "\n" ++ block ++ "\n\x7d" := by
    unfold Declaration.body blockText
    dsimp only
    rw [he, hc]
    simp [String.append_assoc]
  unfold text
  rw [body]
  simp only [String.append_assoc]
  cases declaration.kind? <;> rfl

theorem sameCode_block {declaration : Declaration} {block : String}
    (hc : declaration.call? = none) (hb : SameCode declaration.block block)
    (he : declaration.block.isEmpty = block.isEmpty) :
    SameCode (declaration.text {}) (({ declaration with block } : Declaration).text {}) := by
  cases empty : declaration.block.isEmpty with
  | true =>
    have same : block = declaration.block := by
      rw [String.isEmpty_iff.1 empty, ← String.isEmpty_iff, ← he, empty]
    rw [same]
    exact .refl _
  | false =>
    obtain ⟨front, back, text_eq⟩ := exists_text_block hc
    rw [show declaration.text {} = _ from text_eq declaration.block empty,
      text_eq block (he ▸ empty)]
    exact (hb.prepend (endsLine_append_newline front)).append back

/-- Neither the description nor those in the block take part in the code. -/
theorem sameCode_describe (declaration : Declaration) {block : String}
    (hn : declaration.comment = "") (hc : declaration.call? = none)
    (hb : SameCode declaration.block block) (he : declaration.block.isEmpty = block.isEmpty)
    (description? other? : Option String) :
    SameCode ((declaration.describe description?).text {})
      ((({ declaration with block } : Declaration).describe other?).text {}) := by
  rw [text_describe declaration hn, text_describe { declaration with block } hn]
  exact (SameCode.described description? other? 0 _).trans
    ((sameCode_block hc hb he).prepend (commentText_endsLine other? 0))

end Declaration

/-! ## Definitions without descriptions -/

/-- The argument or input field without its description. -/
def InputValue.eraseDescription (value : InputValue) : InputValue :=
  { value with description? := none }

/-- The field without its description and those of its arguments. -/
def FieldDefinition.eraseDescriptions (field : FieldDefinition) : FieldDefinition :=
  { field with
    arguments := field.arguments.map InputValue.eraseDescription
    description? := none }

/-- The value without its description. -/
def EnumValue.eraseDescription (value : EnumValue) : EnumValue :=
  { value with description? := none }

/-- The body without the descriptions in it. -/
def TypeBody.eraseDescriptions : TypeBody → TypeBody
  | enum values => enum (values.map EnumValue.eraseDescription)
  | inputObject fields => inputObject (fields.map InputValue.eraseDescription)
  | interface interfaces fields =>
    interface interfaces (fields.map FieldDefinition.eraseDescriptions)
  | object interfaces fields => object interfaces (fields.map FieldDefinition.eraseDescriptions)
  | scalar => scalar
  | union members => union members

/-- The type without its description and those in its body. -/
def TypeDefinition.eraseDescriptions (definition : TypeDefinition) : TypeDefinition :=
  { definition with description? := none, body := definition.body.eraseDescriptions }

/-- The directive without its description and those of its arguments. -/
def DirectiveDefinition.eraseDescriptions (definition : DirectiveDefinition) :
    DirectiveDefinition :=
  { definition with
    description? := none
    arguments := definition.arguments.map InputValue.eraseDescription }

/-- The definition without any description. -/
def SchemaDefinition.eraseDescriptions : SchemaDefinition → SchemaDefinition
  | roots choice => roots choice
  | type definition => type definition.eraseDescriptions
  | directive definition => directive definition.eraseDescriptions

/-- The schema without any description. -/
def Schema.eraseDescriptions (schema : Schema) : Schema :=
  { schema with definitions := schema.definitions.map SchemaDefinition.eraseDescriptions }

theorem Schema.customScalars_eraseDescriptions (schema : Schema) :
    schema.eraseDescriptions.customScalars = schema.customScalars := by
  unfold customScalars eraseDescriptions
  rw [List.filterMap_map]
  congr 1
  funext definition
  cases definition with
  | roots choice => rfl
  | directive definition => rfl
  | type definition =>
    obtain ⟨name, description?, directives, body⟩ := definition
    cases body <;> rfl

/-! ## Items without descriptions -/

/-- The field without its description. -/
def StructField.eraseDescription (field : StructField) : StructField :=
  { field with description? := none }

/-- The constant without its description. -/
def EnumConstant.eraseDescription (constant : EnumConstant) : EnumConstant :=
  { constant with description? := none }

namespace StructField

theorem sameCode_block (fields : List StructField) :
    SameCode (block fields) (block (fields.map eraseDescription)) := by
  unfold block
  rw [List.map_map]
  exact .intercalate_map fun field => SameCode.described field.description? none 1 field.line

theorem isEmpty_block (fields : List StructField) :
    (block fields).isEmpty = fields.isEmpty := by
  have nonempty : ∀ field : StructField, text field ≠ "" := by
    intro field
    simp [text, line]
  unfold block
  cases fields with
  | nil => rfl
  | cons first rest =>
    cases rest with
    | nil => simp [nonempty first]
    | cons second rest => simp [String.intercalate_cons_cons]

end StructField

/-- The constants of an enum have the code of those without descriptions. -/
theorem EnumConstant.sameCode_lines (enum : String) (values : List EnumConstant) :
    SameCode ("\n".intercalate (values.map (text enum)))
      ("\n".intercalate ((values.map eraseDescription).map (text enum))) := by
  rw [List.map_map]
  refine .intercalate_map fun value => ?_
  unfold Function.comp text
  simp only [String.append_assoc]
  exact SameCode.described value.description? none 1 _

namespace TypeItem

/-- The item without the descriptions in it. -/
def eraseDescriptions : TypeItem → TypeItem
  | record name _ fields interfaces =>
    record name none (fields.map StructField.eraseDescription) interfaces
  | union name _ members => union name none members
  | constants name _ values checked =>
    constants name none (values.map EnumConstant.eraseDescription) checked
  | plainString name _ values => plainString name none values
  | typeAlias name _ target => typeAlias name none target

theorem sameCode (item : TypeItem) :
    SameCode (item.text {}) (item.eraseDescriptions.text {}) := by
  cases item with
  | record name description? fields interfaces =>
    let declaration : Declaration :=
      { name
        kind? := some .struct
        block := StructField.block fields
        implements := interfaces }
    have empty : (StructField.block fields).isEmpty =
        (StructField.block (fields.map StructField.eraseDescription)).isEmpty := by
      rw [StructField.isEmpty_block, StructField.isEmpty_block, List.isEmpty_map]
    exact Declaration.sameCode_describe declaration rfl rfl
      (StructField.sameCode_block fields) empty description? none
  | union name description? members =>
    exact Declaration.sameCode_describe _ rfl rfl (.refl _) rfl description? none
  | constants name description? values checked =>
    let declaration : Declaration := { name, kind? := some .enum }
    have declared : SameCode ((declaration.describe description?).text {})
        ((declaration.describe none).text {}) :=
      Declaration.sameCode_describe declaration rfl rfl (.refl _) rfl description? none
    have listed : SameCode ("\n".intercalate (values.map (EnumConstant.text name)))
        ("\n".intercalate
          ((values.map EnumConstant.eraseDescription).map (EnumConstant.text name))) :=
      EnumConstant.sameCode_lines name values
    have check : checkText name (values.map EnumConstant.eraseDescription) =
        checkText name values := by
      unfold checkText
      rw [List.map_map, List.map_map]
      rfl
    have opened : EndsLine ((declaration.describe none).text {} ++ "\nconst (\n") :=
      .inr ⟨(declaration.describe none).text {} ++ "\nconst (", by rw [String.append_assoc]; rfl⟩
    have group := ((declared.append "\nconst (\n").append_both opened listed).append "\n)\n"
    show SameCode _ (_ ++ (if checked = true then "\n" ++ checkText name (values.map _) else ""))
    rw [check]
    exact group.append _
  | plainString name description? values =>
    exact Declaration.sameCode_describe { name, kind? := some .enum } rfl rfl
      (.refl _) rfl (some (describeValues description? values)) (some (describeValues none values))
  | typeAlias name description? target =>
    exact Declaration.sameCode_describe _ rfl rfl (.refl _) rfl description? none

end TypeItem

/-! ## Outputs -/

namespace TypeGenerator

theorem ofSchema_eraseDescriptions (schema : Schema) (options : Options) :
    ofSchema schema.eraseDescriptions options = ofSchema schema options := by
  unfold ofSchema Options.scalarTable ScalarTable.build
  dsimp only
  rw [schema.customScalars_eraseDescriptions]

variable (generator : TypeGenerator)

theorem argumentsItem?_eraseDescriptions (type : String) (field : FieldDefinition) :
    generator.argumentsItem? type field.eraseDescriptions =
      (generator.argumentsItem? type field).map TypeItem.eraseDescriptions := by
  unfold argumentsItem? FieldDefinition.eraseDescriptions
  dsimp only
  rw [List.isEmpty_map, List.map_map]
  split
  · rfl
  · rw [Option.map_some, TypeItem.eraseDescriptions, List.map_map]
    rfl

theorem compositeItems_eraseDescriptions (definition : TypeDefinition) (interfaces : List String)
    (fields : List FieldDefinition) :
    generator.compositeItems definition.eraseDescriptions interfaces
        (fields.map FieldDefinition.eraseDescriptions) =
      (generator.compositeItems definition interfaces fields).map TypeItem.eraseDescriptions := by
  unfold compositeItems
  dsimp only
  rw [List.map_cons, TypeItem.eraseDescriptions, List.map_filterMap, List.filterMap_map,
    List.map_map, List.map_map]
  congr 1
  refine congrArg (fields.filterMap ·) (funext fun field => ?_)
  exact generator.argumentsItem?_eraseDescriptions _ field

theorem enumItem_eraseDescriptions (definition : TypeDefinition) (values : List EnumValue) :
    generator.enumItem definition.eraseDescriptions (values.map EnumValue.eraseDescription) =
      (generator.enumItem definition values).eraseDescriptions := by
  unfold enumItem
  dsimp only [TypeDefinition.eraseDescriptions]
  rw [List.map_map, List.map_map]
  split
  · rfl
  · split
    · rfl
    · rw [TypeItem.eraseDescriptions, List.map_map]
      rfl

theorem items_eraseDescriptions (definition : SchemaDefinition) :
    generator.items definition.eraseDescriptions =
      (generator.items definition).map TypeItem.eraseDescriptions := by
  cases definition with
  | roots choice => rfl
  | directive definition => rfl
  | type definition =>
    show generator.typeItems definition.eraseDescriptions = (generator.typeItems definition).map _
    have erased : definition.eraseDescriptions.body = definition.body.eraseDescriptions := rfl
    have included :
        generator.includes definition.eraseDescriptions.name = generator.includes definition.name :=
      rfl
    unfold typeItems
    rw [erased, included]
    cases definition.body with
    | enum values =>
      dsimp only [TypeBody.eraseDescriptions]
      rw [generator.enumItem_eraseDescriptions definition values]
      split <;> rfl
    | inputObject fields =>
      dsimp only [TypeBody.eraseDescriptions]
      rw [List.map_map, List.map_singleton, TypeItem.eraseDescriptions, List.map_map]
      rfl
    | interface interfaces fields =>
      exact generator.compositeItems_eraseDescriptions definition interfaces fields
    | object interfaces fields =>
      dsimp only [TypeBody.eraseDescriptions]
      rw [generator.compositeItems_eraseDescriptions definition interfaces fields]
      split <;> rfl
    | scalar => rfl
    | union members => rfl

theorem sameCode_text? (hs : generator.style = {}) (definition : SchemaDefinition) :
    Option.Rel SameCode (generator.text? definition)
      (generator.text? definition.eraseDescriptions) := by
  unfold text?
  dsimp only
  rw [generator.items_eraseDescriptions, List.isEmpty_map, List.map_map, hs]
  split
  · exact .none
  · exact .some (.intercalate_map TypeItem.sameCode)

theorem sameCode_texts (hs : generator.style = {}) (schema : Schema) :
    List.Forall₂ SameCode (generator.texts schema)
      (generator.texts schema.eraseDescriptions) := by
  have definitions : List.Forall₂ (fun one other => other = one.eraseDescriptions)
      schema.definitions schema.eraseDescriptions.definitions := by
    unfold Schema.eraseDescriptions
    rw [List.forall₂_map_right_iff, List.forall₂_same]
    exact fun _ _ => rfl
  refine List.rel_filterMap ?_ definitions
  rintro definition _ rfl
  exact generator.sameCode_text? hs definition

theorem sameCode_scalarsText (schema : Schema) :
    SameCode (generator.scalarsText schema) (generator.scalarsText schema.eraseDescriptions) := by
  unfold scalarsText
  refine .intercalate_map fun (name, type) => ?_
  unfold scalarText
  simp only [String.append_assoc]
  exact .described _ _ 0 _

end TypeGenerator

/-- Descriptions take no part in the code for a schema: they make a difference to comments alone. -/
theorem Plugin.withoutComments_runTypes (schema : Schema) (options : Options) (info : PluginInfo) :
    withoutComments (runTypes schema options info).content =
        withoutComments (runTypes schema.eraseDescriptions options info).content ∧
      (runTypes schema options info).header =
        (runTypes schema.eraseDescriptions options info).header := by
  refine ⟨?_, rfl⟩
  apply SameCode.withoutComments_eq
  unfold runTypes
  rw [TypeGenerator.ofSchema_eraseDescriptions]
  let generator := TypeGenerator.ofSchema schema options
  have scalars : SameCode (generator.scalarsText schema ++ "\n")
      (generator.scalarsText schema.eraseDescriptions ++ "\n") :=
    (generator.sameCode_scalarsText schema).append "\n"
  exact .intercalate (.cons scalars (generator.sameCode_texts rfl schema))

end SchemaBindings
