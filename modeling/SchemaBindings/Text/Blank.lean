/-!
Blank characters, and texts without the blanks at their ends. A blank is a character with the
Unicode property `White_Space`.
-/

namespace SchemaBindings.Text

/-- Whether `c` has the property `White_Space`. -/
def isBlank (c : Char) : Bool :=
  let n := c.toNat
  (0x09 ≤ n && n ≤ 0x0D) || n == 0x20 || n == 0x85 || n == 0xA0 || n == 0x1680 ||
    (0x2000 ≤ n && n ≤ 0x200A) || n == 0x2028 || n == 0x2029 || n == 0x202F || n == 0x205F ||
    n == 0x3000

/-- The characters without the blanks in front. -/
def trimStartChars (cs : List Char) : List Char := cs.dropWhile isBlank

/-- The characters without the blanks at the end. -/
def trimEndChars : List Char → List Char
  | [] => []
  | c :: cs =>
    match trimEndChars cs with
    | [] => if isBlank c then [] else [c]
    | rest => c :: rest

/-- The text without the blanks at its end. -/
def trimEnd (text : String) : String := String.ofList (trimEndChars text.toList)

/-- The text without the blanks at either end. -/
def trim (text : String) : String := String.ofList (trimEndChars (trimStartChars text.toList))

@[simp] theorem trimEndChars_nil : trimEndChars [] = [] := rfl

theorem trimEndChars_eq_nil {cs : List Char} : trimEndChars cs = [] ↔ ∀ c ∈ cs, isBlank c := by
  induction cs with
  | nil => simp
  | cons c cs ih =>
    simp only [trimEndChars, List.mem_cons, forall_eq_or_imp]
    split
    · rename_i h
      simp [← ih, h]
    · rename_i h
      simp only [reduceCtorEq, false_iff, not_and]
      intro _ hcs
      exact h (ih.2 hcs)

theorem mem_of_mem_trimEndChars {c : Char} {cs : List Char} (h : c ∈ trimEndChars cs) :
    c ∈ cs := by
  induction cs with
  | nil => exact h
  | cons d ds ih =>
    rw [trimEndChars] at h
    split at h
    · split at h
      · cases h
      · exact List.mem_cons.2 (.inl (List.mem_singleton.1 h))
    · rcases List.mem_cons.1 h with rfl | h
      · exact List.mem_cons_self
      · exact List.mem_cons_of_mem _ (ih h)

/-- Nothing but blanks is trimmed. -/
theorem exists_blanks_trimEndChars (cs : List Char) :
    ∃ blanks, cs = trimEndChars cs ++ blanks ∧ ∀ c ∈ blanks, isBlank c = true := by
  induction cs with
  | nil => exact ⟨[], rfl, nofun⟩
  | cons c cs ih =>
    obtain ⟨blanks, split, blank⟩ := ih
    rw [trimEndChars]
    split
    · rename_i nothing
      split
      · rename_i hc
        rw [nothing, List.nil_append] at split
        exact ⟨c :: cs, rfl, List.forall_mem_cons.2 ⟨hc, split ▸ blank⟩⟩
      · rw [nothing, List.nil_append] at split
        exact ⟨cs, rfl, split ▸ blank⟩
    · exact ⟨blanks, by rw [List.cons_append, ← split], blank⟩

/-- The characters do not end in a blank. -/
def EndsInNoBlank (cs : List Char) : Prop := ∀ c ∈ cs.getLast?, isBlank c = false

theorem endsInNoBlank_trimEndChars (cs : List Char) : EndsInNoBlank (trimEndChars cs) := by
  induction cs with
  | nil => exact nofun
  | cons c cs ih =>
    rw [trimEndChars]
    split
    · split
      · exact nofun
      · rename_i hc
        simpa [EndsInNoBlank] using hc
    · rename_i rest ne
      unfold EndsInNoBlank at ih ⊢
      rwa [List.getLast?_cons_of_ne_nil ne]

/-- Where something of the characters behind is left, those in front stay as they are. -/
theorem trimEndChars_append (front : List Char) {back : List Char} (h : trimEndChars back ≠ []) :
    trimEndChars (front ++ back) = front ++ trimEndChars back := by
  induction front with
  | nil => rfl
  | cons c cs ih =>
    rw [List.cons_append, trimEndChars, ih]
    split
    · rename_i nothing
      exact absurd (List.append_eq_nil_iff.1 nothing).2 h
    · rfl

/-- Trimming again changes nothing. -/
theorem trimEndChars_idem (cs : List Char) : trimEndChars (trimEndChars cs) = trimEndChars cs := by
  induction cs with
  | nil => rfl
  | cons c cs ih =>
    rw [trimEndChars]
    cases h : trimEndChars cs with
    | nil => by_cases hc : isBlank c <;> simp [hc, trimEndChars]
    | cons d ds =>
      rw [h] at ih
      simp only [trimEndChars] at ih ⊢
      rw [ih]

end SchemaBindings.Text
