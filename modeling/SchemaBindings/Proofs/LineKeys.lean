import SchemaBindings.Generated.StructLine

/-!
# The keys of lines

The keys that the lines of a struct name in the exchanged data, and how they are read back from the
texts of the lines. A text is read from its end: after the last tag of a line only a backtick
follows, and the value of a tag ends at the first quotation mark on the way back. So lines that are
written alike have the same key (`fieldKey?_toldByText`) and the same tag (`tag?_toldByText`),
provided that the names in them hold no quotation mark (`Legible`).
-/

namespace SchemaBindings

namespace Text

/-- The text holds no quotation mark. -/
def Unquoted (text : String) : Prop := '"' ∉ text.toList

instance (text : String) : Decidable (Unquoted text) :=
  inferInstanceAs (Decidable ('"' ∉ text.toList))

theorem append_quote_inj {before other rest more : List Char} (hr : '"' ∉ rest)
    (hm : '"' ∉ more) (h : before ++ '"' :: rest = other ++ '"' :: more) :
    before = other ∧ rest = more := by
  rcases List.append_eq_append_iff.1 h with ⟨part, hb, hp⟩ | ⟨part, hb, hp⟩
  · cases part with
    | nil =>
      rw [List.nil_append, List.cons.injEq] at hp
      exact ⟨by rw [hb, List.append_nil], hp.2⟩
    | cons c part =>
      rw [List.cons_append, List.cons.injEq] at hp
      exact absurd (by rw [hp.2]; simp) hr
  · cases part with
    | nil =>
      rw [List.nil_append, List.cons.injEq] at hp
      exact ⟨by rw [hb, List.append_nil], hp.2.symm⟩
    | cons c part =>
      rw [List.cons_append, List.cons.injEq] at hp
      exact absurd (by rw [hp.2]; simp) hm

/-- What stands before the last quotation mark and what stands after it are told by the text. -/
theorem quoted_inj {before other value more : String} (hv : Unquoted value) (hm : Unquoted more)
    (h : before ++ "\"" ++ value = other ++ "\"" ++ more) : before = other ∧ value = more := by
  have lists := congrArg String.toList h
  simp only [String.toList_append, String.reduceToList, List.append_assoc, List.singleton_append]
    at lists
  obtain ⟨hb, hr⟩ := append_quote_inj hv hm lists
  exact ⟨String.ext hb, String.ext hr⟩

end Text

open Text

namespace StructLine

/-- The key of a line for a field. The line for `__typename` is none of these. -/
def fieldKey? : StructLine → Option String
  | typename _ _ => none
  | leaf name _ => some name
  | aliased key _ _ => some key
  | link key _ _ _ => some key
  | embedded _ => none
  | branch _ _ _ => none

/-- The key that the tag of a line names in the exchanged data. -/
def tag? : StructLine → Option String
  | typename _ _ => some Schema.typenameField
  | line => line.fieldKey?

/-- The keys of the lines for fields. -/
def fieldKeys (lines : List StructLine) : List String := lines.filterMap fieldKey?

/-- The keys that the tags of the lines name, that of `__typename` among them. -/
def tags (lines : List StructLine) : List String := lines.filterMap tag?

theorem tag?_of_fieldKey? {line : StructLine} {key : String} (h : line.fieldKey? = some key) :
    line.tag? = some key := by
  cases line with
  | typename pointer types => cases h
  | _ => exact h

/-- The tags in the text of the line begin with that of the key. -/
def HasTag (line : StructLine) (key : String) : Prop :=
  ∃ before after, line.text = before ++ " `" ++ keyTag key ++ after

theorem hasTag_of_tag? {line : StructLine} {key : String} (h : line.tag? = some key) :
    line.HasTag key := by
  cases line with
  | typename pointer types =>
    cases h
    refine ⟨"Typename " ++ GoType.marks 0 pointer ++ "string",
      " types:\"" ++ ",".intercalate types ++ "\"`", String.ext ?_⟩
    simp [text]
  | leaf name type =>
    cases h
    exact ⟨camelCase key ++ " " ++ type.text, "`", String.ext (by simp [text])⟩
  | aliased name other type =>
    cases h
    exact ⟨camelCase key ++ " " ++ type.text, " originalField:\"" ++ other ++ "\"`",
      String.ext (by simp [text])⟩
  | link name depth pointer lines =>
    cases h
    exact ⟨camelCase key ++ " " ++ GoType.marks depth pointer ++ structOf (texts lines), "`",
      String.ext (by simp [text])⟩
  | embedded type => cases h
  | branch identifier onType lines => cases h

/-! ## Reading a line from its end -/

/-- The label and the value of the last tag of a line. -/
def lastTag? : StructLine → Option (String × String)
  | typename _ types => some ("types", ",".intercalate types)
  | leaf name _ => some ("json", name)
  | aliased _ name _ => some ("originalField", name)
  | link key _ _ _ => some ("json", key)
  | embedded _ => none
  | branch _ onType _ => some ("graphql", "... on " ++ onType)

/-- The tags of a line can be read from its end. -/
def Legible : StructLine → Prop
  | typename _ types => Unquoted (",".intercalate types)
  | leaf name _ => Unquoted name
  | aliased key name _ => Unquoted key ∧ Unquoted name
  | link key _ _ _ => Unquoted key
  | embedded type => type.toList.getLast? ≠ some '`'
  | branch _ onType _ => Unquoted onType

theorem text_eq_of_lastTag? {line : StructLine} {label value : String}
    (h : line.lastTag? = some (label, value)) :
    ∃ before, line.text = before ++ label ++ ":" ++ "\"" ++ value ++ "\"" ++ "`" := by
  cases line with
  | embedded type => cases h
  | typename pointer types =>
    cases h
    refine ⟨"Typename " ++ GoType.marks 0 pointer ++ "string `" ++
      keyTag Schema.typenameField ++ " ", String.ext ?_⟩
    simp [text]
  | leaf name type =>
    cases h
    refine ⟨camelCase value ++ " " ++ type.text ++ " `", String.ext ?_⟩
    simp [text, keyTag]
  | aliased key name type =>
    cases h
    refine ⟨camelCase key ++ " " ++ type.text ++ " `" ++ keyTag key ++ " ", String.ext ?_⟩
    simp [text]
  | link key depth pointer lines =>
    cases h
    refine ⟨camelCase value ++ " " ++ GoType.marks depth pointer ++ structOf (texts lines) ++
      " `", String.ext ?_⟩
    simp [text, keyTag]
  | branch identifier onType lines =>
    cases h
    refine ⟨"On" ++ identifier ++ " *" ++ structOf (texts lines) ++ " `", String.ext ?_⟩
    simp [text]

/-- The labels of last tags. -/
def lastLabels : List String := ["json", "originalField", "types", "graphql"]

theorem label_mem_of_lastTag? {line : StructLine} {label value : String}
    (h : line.lastTag? = some (label, value)) : label ∈ lastLabels := by
  cases line <;> cases h <;> decide

/-- The labels of last tags differ in their last letters. -/
theorem label_inj {before other first second : String} (hf : first ∈ lastLabels)
    (hs : second ∈ lastLabels) (h : before ++ first = other ++ second) : first = second := by
  have letters : ∀ first ∈ lastLabels, ∀ second ∈ lastLabels,
      first.toList.getLast? = second.toList.getLast? → first = second := by decide
  have letter : ∀ (front : String) {label : String}, label ∈ lastLabels →
      (front ++ label).toList.getLast? = label.toList.getLast? := by
    intro front label hl
    have ends : label.toList.getLast?.isSome = true := by
      revert label
      decide
    rw [String.toList_append, List.getLast?_append, Option.or_of_isSome ends]
  refine letters first hf second hs ?_
  rw [← letter before hf, ← letter other hs, h]

theorem Legible.unquoted {line : StructLine} {label value : String} (h : line.Legible)
    (hl : line.lastTag? = some (label, value)) : Unquoted value := by
  cases line with
  | typename pointer types =>
    cases hl
    exact h
  | leaf name type =>
    cases hl
    exact h
  | aliased key name type =>
    cases hl
    exact h.2
  | link key depth pointer lines =>
    cases hl
    exact h
  | embedded type => cases hl
  | branch identifier onType lines =>
    cases hl
    intro hq
    exact h (by simpa using hq)

/-- Only the line of an embedded struct does not end in a backtick. -/
theorem getLast?_text_of_lastTag? {line : StructLine} {label value : String}
    (h : line.lastTag? = some (label, value)) : line.text.toList.getLast? = some '`' := by
  obtain ⟨before, ht⟩ := text_eq_of_lastTag? h
  rw [ht, String.toList_append, List.getLast?_append]
  rfl

theorem lastTag?_eq_none_iff {line : StructLine} (h : line.Legible) :
    line.lastTag? = none ↔ line.text.toList.getLast? ≠ some '`' := by
  constructor
  · intro hn
    cases line with
    | embedded type => exact h
    | typename pointer types => cases hn
    | leaf name type => cases hn
    | aliased key name type => cases hn
    | link key depth pointer lines => cases hn
    | branch identifier onType lines => cases hn
  · intro hq
    cases ht : line.lastTag? with
    | none => rfl
    | some tag => exact absurd (getLast?_text_of_lastTag? ht) hq

/-- The last tag of a line is told by its text. -/
theorem lastTag?_eq_of_text_eq {line other : StructLine} (h : line.Legible) (ho : other.Legible)
    (e : line.text = other.text) : line.lastTag? = other.lastTag? := by
  cases hl : line.lastTag? with
  | none =>
    rw [eq_comm, lastTag?_eq_none_iff ho, ← e]
    exact (lastTag?_eq_none_iff h).1 hl
  | some tag =>
    cases hm : other.lastTag? with
    | none =>
      rw [lastTag?_eq_none_iff ho, ← e] at hm
      exact absurd (getLast?_text_of_lastTag? hl) hm
    | some more =>
      obtain ⟨before, ht⟩ := text_eq_of_lastTag? hl
      obtain ⟨others, hu⟩ := text_eq_of_lastTag? hm
      rw [ht, hu] at e
      obtain ⟨hb, hv⟩ := quoted_inj (h.unquoted hl) (ho.unquoted hm)
        ((String.append_left_inj _).1 ((String.append_left_inj _).1 e))
      have labels := label_inj (label_mem_of_lastTag? hl) (label_mem_of_lastTag? hm)
        ((String.append_left_inj _).1 hb)
      exact congrArg some (Prod.ext labels hv)

/-- The key of a field under another name stands in the tag before the last one. -/
theorem aliased_key_inj {key other name more : String} {type others : GoType}
    (h : (aliased key name type).Legible) (ho : (aliased other more others).Legible)
    (e : (aliased key name type).text = (aliased other more others).text) : key = other := by
  have names : name = more := by
    simpa [lastTag?] using lastTag?_eq_of_text_eq h ho e
  subst names
  have split : ∀ key type, (aliased key name type).text =
      camelCase key ++ " " ++ type.text ++ " `json:" ++ "\"" ++ key ++
        ("\" originalField:\"" ++ name ++ "\"`") := by
    intro key type
    apply String.ext
    simp [text, keyTag]
  rw [split, split] at e
  exact (quoted_inj h.1 ho.1 ((String.append_left_inj _).1 e)).2

/-! ## Keys that are told by the text -/

/-- Lines that are written alike have the same key; the line of an embedded struct has none. -/
structure ToldByText (key? : StructLine → Option String) : Prop where
  same : ∀ {line other : StructLine}, line.Legible → other.Legible → line.text = other.text →
    key? line = key? other
  embedded : ∀ type, key? (embedded type) = none

theorem fieldKey?_toldByText : ToldByText fieldKey? where
  same := by
    intro line other h ho e
    have last := lastTag?_eq_of_text_eq h ho e
    cases line with
    | aliased key name type =>
      cases other with
      | aliased other more others => rw [aliased_key_inj h ho e, fieldKey?, fieldKey?]
      | _ => simp [lastTag?] at last
    | _ => cases other <;> simp [lastTag?, fieldKey?] at last ⊢ <;> exact last
  embedded _ := rfl

theorem tag?_toldByText : ToldByText tag? where
  same := by
    intro line other h ho e
    have last := lastTag?_eq_of_text_eq h ho e
    have key := fieldKey?_toldByText.same h ho e
    cases line with
    | typename pointer types =>
      cases other with
      | typename pointer types => rfl
      | _ => simp [lastTag?] at last
    | _ => cases other <;> simp [lastTag?, tag?, fieldKey?] at last key ⊢ <;> exact key
  embedded _ := rfl

theorem ToldByText.filterMap_eq {key? : StructLine → Option String} (told : ToldByText key?)
    {lines others : List StructLine} (h : ∀ line ∈ lines, line.Legible)
    (ho : ∀ line ∈ others, line.Legible) (e : texts lines = texts others) :
    lines.filterMap key? = others.filterMap key? := by
  induction lines generalizing others with
  | nil =>
    cases others with
    | nil => rfl
    | cons other rest => simp [texts] at e
  | cons line lines ih =>
    cases others with
    | nil => simp [texts] at e
    | cons other rest =>
      rw [texts, texts, List.cons.injEq] at e
      rw [List.forall_mem_cons] at h ho
      rw [List.filterMap_cons, List.filterMap_cons, told.same h.1 ho.1 e.1, ih h.2 ho.2 e.2]

end StructLine

end SchemaBindings
