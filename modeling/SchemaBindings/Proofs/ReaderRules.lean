import SchemaBindings.Document.Parser
import SchemaBindings.Schema.Parser

/-!
# Rules for readers

What readers make of tokens that are kept by a condition, such as one on the names among them
(`Reads`). There is a rule for each way to put readers together and for each reader that schema and
executable documents share; a name that is read is always one of the tokens (`reads_readName`).
-/

namespace SchemaBindings.Source

variable {α β : Type} {Kept : Token → Prop} {P : α → Prop} {Q : β → Prop}

/-- From tokens that satisfy the condition, the reader leaves only such tokens, and what it has read
is as said. -/
def Reads (Kept : Token → Prop) (reader : Parse α) (P : α → Prop) : Prop :=
  ∀ tokens value rest, (∀ token ∈ tokens, Kept token) → reader tokens = some (value, rest) →
    (∀ token ∈ rest, Kept token) ∧ P value

/-- From tokens that satisfy the condition, the reader leaves only such tokens. -/
abbrev Leaves (Kept : Token → Prop) (reader : Parse α) : Prop := Reads Kept reader fun _ => True

/-! ## Readers that are put together -/

theorem bind_eq_some {x : Parse α} {f : α → Parse β} {tokens rest : List Token} {b : β} :
    (x >>= f) tokens = some (b, rest) ↔
      ∃ a between, x tokens = some (a, between) ∧ f a between = some (b, rest) := by
  show ((x tokens).bind fun made => f made.1 made.2) = some (b, rest) ↔ _
  rw [Option.bind_eq_some_iff, Prod.exists]

theorem reads_pure {a : α} (h : P a) : Reads Kept (pure a) P := by
  intro tokens value rest kept ok
  cases ok
  exact ⟨kept, h⟩

theorem reads_failure : Reads Kept failure P := by
  intro tokens value rest kept ok
  cases ok

namespace Reads

theorem mono {reader : Parse α} {R : α → Prop} (h : Reads Kept reader P)
    (imp : ∀ a, P a → R a) : Reads Kept reader R := by
  intro tokens value rest kept ok
  obtain ⟨left, read⟩ := h tokens value rest kept ok
  exact ⟨left, imp value read⟩

theorem bind {x : Parse α} {f : α → Parse β} (hx : Reads Kept x P)
    (hf : ∀ a, P a → Reads Kept (f a) Q) : Reads Kept (x >>= f) Q := by
  intro tokens value rest kept ok
  obtain ⟨a, between, ha, hb⟩ := bind_eq_some.1 ok
  obtain ⟨left, read⟩ := hx tokens a between kept ha
  exact hf a read between value rest left hb

end Reads

theorem reads_get {f : List Token → Parse α}
    (h : ∀ tokens, (∀ token ∈ tokens, Kept token) → Reads Kept (f tokens) P) :
    Reads Kept (get >>= f) P := by
  intro tokens value rest kept ok
  exact h tokens kept tokens value rest kept ok

/-- A reader may drop tokens. -/
theorem reads_set {tokens : List Token} {f : PUnit → Parse α} (kept : ∀ token ∈ tokens, Kept token)
    (h : Reads Kept (f ⟨⟩) P) : Reads Kept (set tokens >>= f) P := by
  intro before value rest _ ok
  exact h tokens value rest kept ok

/-! ## Single tokens -/

theorem leaves_peek? : Leaves Kept peek? :=
  reads_get fun _ _ => reads_pure trivial

theorem leaves_accept (token : Token) : Leaves Kept (accept token) := by
  refine reads_get fun tokens kept => ?_
  cases tokens with
  | nil => exact reads_pure trivial
  | cons next rest =>
    dsimp only
    split
    · exact reads_set (fun other ho => kept other (List.mem_cons_of_mem _ ho)) (reads_pure trivial)
    · exact reads_pure trivial

theorem leaves_expect (token : Token) : Leaves Kept (expect token) := by
  refine (leaves_accept token).bind fun accepted _ => ?_
  split
  · exact reads_pure trivial
  · exact reads_failure

theorem leaves_expectMark (c : Char) : Leaves Kept (expectMark c) := leaves_expect _

/-- A name that is read is one of the tokens. -/
theorem reads_readName : Reads Kept readName fun name => Kept (.name name) := by
  refine reads_get fun tokens kept => ?_
  split
  · rw [List.forall_mem_cons] at kept
    exact reads_set kept.2 (reads_pure kept.1)
  · exact reads_failure

theorem reads_readName? : Reads Kept readName? fun name? => ∀ name ∈ name?, Kept (.name name) := by
  refine reads_get fun tokens kept => ?_
  split
  · rw [List.forall_mem_cons] at kept
    refine reads_set kept.2 (reads_pure ?_)
    simpa using kept.1
  · exact reads_pure (by simp)

/-! ## Several items -/

section Items

variable {item : Parse α} (h : Reads Kept item P)
include h

theorem reads_readUntil (close : Char) (bound : Nat) :
    Reads Kept (readUntil close item bound) fun items => ∀ a ∈ items, P a := by
  induction bound with
  | zero => exact reads_failure
  | succ bound ih =>
    refine (leaves_accept _).bind fun accepted _ => ?_
    split
    · exact reads_pure (by simp)
    · refine h.bind fun first hf => ih.bind fun rest hr => reads_pure ?_
      exact List.forall_mem_cons.2 ⟨hf, hr⟩

theorem reads_readSome (close : Char) (bound : Nat) :
    Reads Kept (readSome close item bound) fun items => ∀ a ∈ items, P a := by
  refine (reads_readUntil h close bound).bind fun items hi => ?_
  split
  · exact reads_failure
  · exact reads_pure hi

theorem reads_readGroup (opening close : Char) (bound : Nat) :
    Reads Kept (readGroup opening close item bound) fun items => ∀ a ∈ items, P a := by
  refine (leaves_accept _).bind fun accepted _ => ?_
  split
  · exact reads_readSome h close bound
  · exact reads_pure (by simp)

theorem reads_readSeparated (separator : Char) (bound : Nat) :
    Reads Kept (readSeparated separator item bound) fun items => ∀ a ∈ items, P a := by
  induction bound with
  | zero => exact reads_failure
  | succ bound ih =>
    refine h.bind fun first hf => (leaves_accept _).bind fun accepted _ => ?_
    split
    · exact ih.bind fun rest hr => reads_pure (List.forall_mem_cons.2 ⟨hf, hr⟩)
    · exact reads_pure (by simpa using hf)

theorem reads_readAll (bound : Nat) :
    Reads Kept (readAll item bound) fun items => ∀ a ∈ items, P a := by
  induction bound with
  | zero => exact reads_failure
  | succ bound ih =>
    refine h.bind fun first hf => reads_get fun tokens _ => ?_
    split
    · exact reads_pure (by simpa using hf)
    · exact ih.bind fun rest hr => reads_pure (List.forall_mem_cons.2 ⟨hf, hr⟩)

end Items

/-! ## Shared parts -/

/-- The name at the bottom of a type is one of the tokens. -/
theorem reads_readType (bound : Nat) :
    Reads Kept (readType bound) fun type => Kept (.name type.baseName) := by
  induction bound with
  | zero => exact reads_failure
  | succ bound ih =>
    have ends : ∀ inner : TypeRef, Kept (.name inner.baseName) →
        Reads Kept (do
          if ← accept (.mark '!') then return .nonNull inner
          return inner) fun type => Kept (.name type.baseName) := by
      intro inner hi
      refine (leaves_accept _).bind fun accepted _ => ?_
      split
      · exact reads_pure hi
      · exact reads_pure hi
    refine (leaves_accept _).bind fun accepted _ => ?_
    split
    · exact ih.bind fun item hi => (leaves_expectMark _).bind fun _ _ => ends _ hi
    · exact reads_readName.bind fun name hn => ends (.named name) hn

theorem leaves_readValue (allowsVariables : Bool) (bound : Nat) :
    Leaves Kept (readValue allowsVariables bound) := by
  induction bound with
  | zero => exact reads_failure
  | succ bound ih =>
    refine reads_get fun tokens kept => ?_
    split
    · rw [List.forall_mem_cons] at kept
      have name : Leaves Kept (do
          set ‹List Token›
          return Value.variable (← readName)) :=
        reads_set kept.2 (reads_readName.bind fun _ _ => reads_pure trivial)
      cases allowsVariables with
      | false => exact reads_failure
      | true => exact name
    · rw [List.forall_mem_cons] at kept
      refine reads_set kept.2 ?_
      exact (reads_readUntil ih _ _).bind fun _ _ => reads_pure trivial
    · rw [List.forall_mem_cons] at kept
      refine reads_set kept.2 ((reads_readUntil (P := fun _ => True) ?_ _ _).bind fun _ _ =>
        reads_pure trivial)
      refine reads_readName.bind fun name _ => (leaves_expectMark _).bind fun _ _ => ?_
      exact ih.bind fun value _ => reads_pure trivial
    · rw [List.forall_mem_cons] at kept
      refine reads_set kept.2 ?_
      split
      · exact reads_pure trivial
      · exact reads_failure
    · exact reads_failure

theorem leaves_readArguments (bound : Nat) : Leaves Kept (readArguments bound) := by
  refine (reads_readGroup (P := fun _ => True) ?_ _ _ bound).mono fun _ _ => trivial
  refine reads_readName.bind fun name _ => (leaves_expectMark _).bind fun _ _ => ?_
  exact (leaves_readValue true bound).bind fun value _ => reads_pure trivial

theorem leaves_readDirectives (bound : Nat) : Leaves Kept (readDirectives bound) := by
  induction bound with
  | zero => exact reads_failure
  | succ bound ih =>
    refine (leaves_accept _).bind fun accepted _ => ?_
    split
    · refine reads_readName.bind fun name _ => (leaves_readArguments bound).bind fun _ _ => ?_
      exact ih.bind fun rest _ => reads_pure trivial
    · exact reads_pure trivial

theorem leaves_readDefault? (bound : Nat) : Leaves Kept (readDefault? bound) := by
  refine (leaves_accept _).bind fun accepted _ => ?_
  split
  · exact (leaves_readValue false bound).bind fun value _ => reads_pure trivial
  · exact reads_pure trivial

end SchemaBindings.Source
