import Mathlib.Data.List.Forall2
import SchemaBindings.Report

/-!
# Outcomes of generation steps

How the outcome of a generation step comes from those of its parts. Warnings play no role in it:
a sequence of steps succeeds exactly when each step does on what the one before it has made.
-/

namespace SchemaBindings

theorem mapM_congr_of_mem {m : Type → Type} [Monad m] [LawfulMonad m] {α β : Type} {f g : α → m β}
    {items : List α} (h : ∀ a ∈ items, f a = g a) : items.mapM f = items.mapM g := by
  induction items with
  | nil => rfl
  | cons a rest ih =>
    rw [List.mapM_cons, List.mapM_cons, h a List.mem_cons_self,
      ih fun b hb => h b (List.mem_cons_of_mem _ hb)]

namespace Generation

variable {α β : Type}

theorem outcome_bind (x : Generation α) (f : α → Generation β) :
    (x >>= f).outcome = x.outcome >>= fun a => (f a).outcome := by
  unfold outcome
  show (ExceptT.run (x >>= f)).value = _
  rw [ExceptT.run_bind, Logged.value_bind]
  cases x.run.value <;> rfl

@[simp] theorem outcome_pure (a : α) : (pure a : Generation α).outcome = .ok a := rfl

@[simp] theorem outcome_throw (error : GenerationError) :
    (throw error : Generation α).outcome = .error error := rfl

@[simp] theorem outcome_warn (warning : Warning) : (warn warning).outcome = .ok () := rfl

@[simp] theorem outcome_bind_eq_ok {x : Generation α} {f : α → Generation β} {b : β} :
    (x >>= f).outcome = .ok b ↔ ∃ a, x.outcome = .ok a ∧ (f a).outcome = .ok b := by
  rw [outcome_bind]
  cases x.outcome with
  | error error =>
    constructor
    · intro h
      cases h
    · rintro ⟨_, h, _⟩
      cases h
  | ok a =>
    constructor
    · exact fun h => ⟨a, rfl, h⟩
    · rintro ⟨_, h, hb⟩
      cases h
      exact hb

theorem outcome_bind_eq_error {x : Generation α} {f : α → Generation β} {error : GenerationError} :
    (x >>= f).outcome = .error error ↔
      x.outcome = .error error ∨ ∃ a, x.outcome = .ok a ∧ (f a).outcome = .error error := by
  rw [outcome_bind]
  cases x.outcome with
  | error other =>
    constructor
    · intro h
      cases h
      exact .inl rfl
    · rintro (h | ⟨_, h, _⟩)
      · cases h
        rfl
      · cases h
  | ok a =>
    constructor
    · exact fun h => .inr ⟨a, rfl, h⟩
    · rintro (h | ⟨_, h, he⟩)
      · cases h
      · cases h
        exact he

/-- Where what follows cannot fail, the error is that of what comes first. -/
theorem eq_error_of_bind {x : Generation α} {f : α → Generation β} {error : GenerationError}
    (passes : ∀ a, ∃ b, (f a).outcome = .ok b) (failed : (x >>= f).outcome = .error error) :
    x.outcome = .error error := by
  rcases outcome_bind_eq_error.1 failed with failed | ⟨a, -, failed⟩
  · exact failed
  · obtain ⟨b, ok⟩ := passes a
    rw [ok] at failed
    cases failed

@[simp] theorem outcome_map_eq_ok {x : Generation α} {f : α → β} {b : β} :
    (f <$> x).outcome = .ok b ↔ ∃ a, x.outcome = .ok a ∧ f a = b := by
  rw [map_eq_pure_bind, outcome_bind_eq_ok]
  simp only [outcome_pure, Except.ok.injEq]

theorem exists_eq_ok {x : Generation α} (h : x.outcome.isOk = true) : ∃ a, x.outcome = .ok a := by
  cases hx : x.outcome with
  | error error =>
    rw [hx] at h
    cases h
  | ok a => exact ⟨a, rfl⟩

/-- What follows a step matters only on what the step can make. -/
theorem bind_congr_of_ok {x : Generation α} {f g : α → Generation β}
    (h : ∀ a, x.outcome = .ok a → f a = g a) : x >>= f = x >>= g := by
  refine ExceptT.ext ?_
  rw [ExceptT.run_bind, ExceptT.run_bind]
  unfold outcome at h
  apply Logged.ext
  · rw [Logged.value_bind, Logged.value_bind]
    cases hx : x.run.value with
    | error error => rfl
    | ok a => exact congrArg (fun step : Generation β => step.run.value) (h a hx)
  · rw [Logged.warnings_bind, Logged.warnings_bind]
    cases hx : x.run.value with
    | error error => rfl
    | ok a => exact congrArg (fun step : Generation β => _ ++ step.run.warnings) (h a hx)

theorem outcome_mapM_eq_ok {f : α → Generation β} {items : List α} {made : List β} :
    (items.mapM f).outcome = .ok made ↔
      List.Forall₂ (fun a b => (f a).outcome = .ok b) items made := by
  induction items generalizing made with
  | nil =>
    rw [List.mapM_nil, outcome_pure, List.forall₂_nil_left_iff, Except.ok.injEq, eq_comm]
  | cons a rest ih =>
    simp only [List.mapM_cons, outcome_bind_eq_ok, outcome_pure, Except.ok.injEq, ih,
      List.forall₂_cons_left_iff]
    constructor
    · rintro ⟨b, hb, made, hm, rfl⟩
      exact ⟨b, made, hb, hm, rfl⟩
    · rintro ⟨b, made, hb, hm, rfl⟩
      exact ⟨b, hb, made, hm, rfl⟩

/-- A run over items fails with the error of the first item that fails. -/
theorem outcome_mapM_eq_error {f : α → Generation β} {items : List α} {error : GenerationError}
    (failed : (items.mapM f).outcome = .error error) :
    ∃ before a after, items = before ++ a :: after ∧
      (∀ b ∈ before, (f b).outcome.isOk = true) ∧ (f a).outcome = .error error := by
  induction items with
  | nil => cases failed
  | cons a rest ih =>
    rw [List.mapM_cons, outcome_bind_eq_error] at failed
    rcases failed with failed | ⟨b, made, failed⟩
    · exact ⟨[], a, rest, rfl, by simp, failed⟩
    · have failed := eq_error_of_bind (fun _ => ⟨_, rfl⟩) failed
      obtain ⟨before, c, after, rfl, passed, failed⟩ := ih failed
      refine ⟨a :: before, c, after, rfl, List.forall_mem_cons.2 ⟨?_, passed⟩, failed⟩
      rw [made]
      rfl

theorem exists_of_foldlM_eq_error {f : β → α → Generation β} {items : List α} {start : β}
    {error : GenerationError} (failed : (items.foldlM f start).outcome = .error error) :
    ∃ made, ∃ a ∈ items, (f made a).outcome = .error error := by
  induction items generalizing start with
  | nil => cases failed
  | cons a rest ih =>
    rw [List.foldlM_cons, outcome_bind_eq_error] at failed
    rcases failed with failed | ⟨next, -, failed⟩
    · exact ⟨start, a, List.mem_cons_self, failed⟩
    · obtain ⟨made, b, hb, failed⟩ := ih failed
      exact ⟨made, b, List.mem_cons_of_mem _ hb, failed⟩

theorem exists_mem_of_mem_made {f : α → Generation β} {items : List α} {made : List β}
    (h : List.Forall₂ (fun a b => (f a).outcome = .ok b) items made) {b : β} (hb : b ∈ made) :
    ∃ a ∈ items, (f a).outcome = .ok b := by
  induction h with
  | nil => cases hb
  | cons ha rest ih =>
    rcases List.mem_cons.1 hb with rfl | hb
    · exact ⟨_, List.mem_cons_self, ha⟩
    · obtain ⟨a, hm, ok⟩ := ih hb
      exact ⟨a, List.mem_cons_of_mem _ hm, ok⟩

theorem exists_made_of_mem {f : α → Generation β} {items : List α} {made : List β}
    (h : List.Forall₂ (fun a b => (f a).outcome = .ok b) items made) {a : α} (ha : a ∈ items) :
    ∃ b ∈ made, (f a).outcome = .ok b := by
  induction h with
  | nil => cases ha
  | cons hb rest ih =>
    rcases List.mem_cons.1 ha with rfl | ha
    · exact ⟨_, List.mem_cons_self, hb⟩
    · obtain ⟨b, hm, ok⟩ := ih ha
      exact ⟨b, List.mem_cons_of_mem _ hm, ok⟩

theorem foldlM_congr_of_mem {f g : β → α → Generation β} {items : List α} {start : β}
    (h : ∀ made, ∀ a ∈ items, f made a = g made a) :
    items.foldlM f start = items.foldlM g start := by
  induction items generalizing start with
  | nil => rfl
  | cons a rest ih =>
    rw [List.foldlM_cons, List.foldlM_cons, h start a List.mem_cons_self]
    exact congrArg _ (funext fun made => ih fun made b hb => h made b (List.mem_cons_of_mem _ hb))

/-- What each step of a run over items preserves. It may speak of the items that have been passed.
-/
theorem foldlM_run {P : List α → β → Prop} {f : β → α → Generation β} {items : List α}
    {start made : β} (initial : P [] start)
    (step : ∀ passed a made next, a ∈ items → P passed made → (f made a).outcome = .ok next →
      P (passed ++ [a]) next)
    (h : (items.foldlM f start).outcome = .ok made) : P items made := by
  suffices run : ∀ rest passed start, (∀ a ∈ rest, a ∈ items) → P passed start →
      (rest.foldlM f start).outcome = .ok made → P (passed ++ rest) made by
    simpa using run items [] start (fun _ ha => ha) initial h
  intro rest
  induction rest with
  | nil =>
    intro passed start _ hp hr
    rw [List.foldlM_nil, outcome_pure, Except.ok.injEq] at hr
    rwa [List.append_nil, ← hr]
  | cons a rest ih =>
    intro passed start hs hp hr
    rw [List.foldlM_cons, outcome_bind_eq_ok] at hr
    obtain ⟨next, ha, hr⟩ := hr
    have hn := step passed a start next (hs a List.mem_cons_self) hp ha
    have := ih (passed ++ [a]) next (fun b hb => hs b (List.mem_cons_of_mem _ hb)) hn hr
    rwa [List.append_assoc, List.singleton_append] at this

end Generation

end SchemaBindings
