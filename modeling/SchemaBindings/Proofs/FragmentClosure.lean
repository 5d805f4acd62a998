import Mathlib.Data.List.Count
import Mathlib.Data.List.Nodup
import SchemaBindings.Generated.DocumentConstants
import SchemaBindings.Proofs.SelectionNesting

/-!
# The fragments that selections need

A walk through spreads enters each fragment once. `Discovers` is that walk without a bound: the
names that are met for the first time, each with its own discoveries right behind it.

`neededBy_lists_reachable`: the walk of `neededBy` is this one for every registry, cycles and
unknown names included. It lists the known fragments that are reachable, each once and in the order
of discovery, and warns once for each reachable name that no fragment has.
-/

namespace SchemaBindings

/-! ## Spreads inside selections -/

namespace Selection

/-- A spread of `name` stands in the selections, inside any fields and inline fragments. -/
inductive Spreads (name : String) : List Selection → Prop
  | here {directives : List Directive} {selections : List Selection} :
    .spread name directives ∈ selections → Spreads name selections
  | field {call : FieldCall} {inner selections : List Selection} :
    .field call inner ∈ selections → Spreads name inner → Spreads name selections
  | inline {condition? : Option String} {directives : List Directive}
      {inner selections : List Selection} :
    .inline condition? directives inner ∈ selections → Spreads name inner →
      Spreads name selections

theorem spreadNamesOf_eq_flatMap (selections : List Selection) :
    spreadNamesOf selections = selections.flatMap spreadNames := by
  induction selections with
  | nil => rw [spreadNamesOf, List.flatMap_nil]
  | cons selection rest ih => rw [spreadNamesOf, ih, List.flatMap_cons]

theorem mem_spreadNamesOf {name : String} {selections : List Selection} :
    name ∈ spreadNamesOf selections ↔ Spreads name selections := by
  constructor
  · induction selections using nested_induction with
    | step selections fields inlines =>
      rw [spreadNamesOf_eq_flatMap, List.mem_flatMap]
      rintro ⟨selection, hs, hn⟩
      cases selection with
      | field call inner =>
        rw [spreadNames] at hn
        exact .field hs (fields call inner hs hn)
      | spread fragment directives =>
        rw [spreadNames, List.mem_singleton] at hn
        subst hn
        exact .here hs
      | inline condition? directives inner =>
        rw [spreadNames] at hn
        exact .inline hs (inlines condition? directives inner hs hn)
  · intro h
    induction h with
    | here hs =>
      rw [spreadNamesOf_eq_flatMap]
      exact List.mem_flatMap.2 ⟨_, hs, by rw [spreadNames]; exact List.mem_singleton_self _⟩
    | field hs _ ih =>
      rw [spreadNamesOf_eq_flatMap]
      exact List.mem_flatMap.2 ⟨_, hs, by rw [spreadNames]; exact ih⟩
    | inline hs _ ih =>
      rw [spreadNamesOf_eq_flatMap]
      exact List.mem_flatMap.2 ⟨_, hs, by rw [spreadNames]; exact ih⟩

end Selection

/-! ## Names that have not been met -/

/-- The number of `names` that have not been met. -/
def unmet (names seen : List String) : Nat := (names.filter (· ∉ seen)).length

theorem unmet_le_of_subset (names : List String) {seen more : List String} (h : seen ⊆ more) :
    unmet names more ≤ unmet names seen := by
  apply List.Sublist.length_le
  refine List.monotone_filter_right names fun name hn => ?_
  simp only [decide_eq_true_eq] at hn ⊢
  exact fun met => hn (h met)

/-- Meeting one of the names for the first time leaves one less. -/
theorem unmet_append_lt {names seen : List String} {name : String} (mem : name ∈ names)
    (hn : name ∉ seen) : unmet names (seen ++ [name]) < unmet names seen := by
  have rest : names.filter (· ∉ seen ++ [name]) =
      (names.filter (· ∉ seen)).filter (· ∉ [name]) := by
    rw [List.filter_filter]
    refine List.filter_congr fun other _ => ?_
    rw [Bool.eq_iff_iff]
    simp [and_comm]
  unfold unmet
  rw [rest, List.length_filter_lt_length_iff_exists]
  refine ⟨name, List.mem_filter.2 ⟨mem, ?_⟩, ?_⟩
  · simpa using hn
  · simp

namespace FragmentRegistry

variable {registry : FragmentRegistry}

/-! ## Reachable fragments -/

/-- A spread of the name can be reached: it stands in the selections, or in a known fragment whose
name can be reached. -/
inductive Reaches (registry : FragmentRegistry) (selections : List Selection) : String → Prop
  | direct {name : String} : Selection.Spreads name selections → Reaches registry selections name
  | through {fragment name : String} {loaded : LoadedFragment} :
    Reaches registry selections fragment → registry.find? fragment = some loaded →
      Selection.Spreads name loaded.fragment.selections → Reaches registry selections name

/-- The names spread in the fragment of a name; none where no fragment has it. -/
def spreadsIn (registry : FragmentRegistry) (name : String) : List String :=
  match registry.find? name with
  | some loaded => Selection.spreadNamesOf loaded.fragment.selections
  | none => []

theorem mem_spreadsIn {fragment name : String} :
    name ∈ registry.spreadsIn fragment ↔
      ∃ loaded, registry.find? fragment = some loaded ∧
        Selection.Spreads name loaded.fragment.selections := by
  unfold spreadsIn
  cases h : registry.find? fragment with
  | none => simp
  | some loaded => simp [Selection.mem_spreadNamesOf]

theorem Reaches.of_mem_spreadsIn {selections : List Selection} {fragment name : String}
    (h : registry.Reaches selections fragment) (hn : name ∈ registry.spreadsIn fragment) :
    registry.Reaches selections name := by
  obtain ⟨loaded, hf, hs⟩ := mem_spreadsIn.1 hn
  exact .through h hf hs

/-! ## The order of discovery -/

/-- Following `names` in order, when those in `seen` have been met before, meets `found` for the
first time: the discoveries made inside a fragment stand right behind it, before those of the name
that follows it. -/
inductive Discovers (registry : FragmentRegistry) :
    List String → List String → List String → Prop
  | done {seen : List String} : Discovers registry seen [] []
  | again {seen rest found : List String} {name : String} :
    name ∈ seen → Discovers registry seen rest found →
      Discovers registry seen (name :: rest) found
  | first {seen rest inner later : List String} {name : String} :
    name ∉ seen → Discovers registry (seen ++ [name]) (registry.spreadsIn name) inner →
      Discovers registry (seen ++ name :: inner) rest later →
      Discovers registry seen (name :: rest) (name :: inner ++ later)

namespace Discovers

variable {seen names found : List String}

theorem nodup (h : registry.Discovers seen names found) :
    found.Nodup ∧ ∀ name ∈ found, name ∉ seen := by
  induction h with
  | done => simp
  | again _ _ ih => exact ih
  | @first seen rest inner later name hn _ _ ihInner ihLater =>
    have apartInner : ∀ other ∈ inner, other ∉ seen ∧ other ≠ name := by
      intro other ho
      have := ihInner.2 other ho
      rw [List.mem_append, List.mem_singleton, not_or] at this
      exact this
    have apartLater : ∀ other ∈ later, other ∉ seen ∧ other ∉ name :: inner := by
      intro other ho
      have := ihLater.2 other ho
      rw [List.mem_append, not_or] at this
      exact this
    constructor
    · refine List.nodup_append.2 ⟨List.nodup_cons.2 ⟨?_, ihInner.1⟩, ihLater.1, ?_⟩
      · exact fun hm => (apartInner name hm).2 rfl
      · rintro other ho _ hl rfl
        exact (apartLater other hl).2 ho
    · intro other ho
      rcases List.mem_append.1 ho with ho | ho
      · rcases List.mem_cons.1 ho with rfl | ho
        · exact hn
        · exact (apartInner other ho).1
      · exact (apartLater other ho).1

theorem forall_mem {P : String → Prop} (h : registry.Discovers seen names found)
    (start : ∀ name ∈ names, P name)
    (pass : ∀ fragment, P fragment → ∀ name ∈ registry.spreadsIn fragment, P name) :
    ∀ name ∈ found, P name := by
  induction h with
  | done => simp
  | again _ _ ih => exact ih fun name hn => start name (List.mem_cons_of_mem _ hn)
  | @first seen rest inner later name _ _ _ ihInner ihLater =>
    have here : P name := start name List.mem_cons_self
    intro other ho
    rcases List.mem_append.1 ho with ho | ho
    · rcases List.mem_cons.1 ho with rfl | ho
      · exact here
      · exact ihInner (pass name here) other ho
    · exact ihLater (fun next hn => start next (List.mem_cons_of_mem _ hn)) other ho

/-- Nothing is left out of what is found. -/
theorem closed (h : registry.Discovers seen names found) :
    (∀ name ∈ names, name ∈ seen ++ found) ∧
      ∀ fragment ∈ found, ∀ name ∈ registry.spreadsIn fragment, name ∈ seen ++ found := by
  induction h with
  | done => simp
  | again hn _ ih => exact ⟨List.forall_mem_cons.2 ⟨List.mem_append_left _ hn, ih.1⟩, ih.2⟩
  | @first seen rest inner later name _ _ _ ihInner ihLater =>
    have grow : ∀ other, other ∈ (seen ++ [name]) ++ inner →
        other ∈ seen ++ (name :: inner ++ later) := by
      intro other ho
      rw [List.append_assoc, List.singleton_append] at ho
      rw [← List.append_assoc]
      exact List.mem_append_left _ ho
    have regroup : (seen ++ name :: inner) ++ later = seen ++ (name :: inner ++ later) :=
      List.append_assoc _ _ _
    rw [regroup] at ihLater
    constructor
    · refine List.forall_mem_cons.2 ⟨?_, ihLater.1⟩
      exact List.mem_append_right _ List.mem_cons_self
    · intro fragment hf next hn
      rcases List.mem_append.1 hf with hf | hf
      · rcases List.mem_cons.1 hf with rfl | hf
        · exact grow next (ihInner.1 next hn)
        · exact grow next (ihInner.2 fragment hf next hn)
      · exact ihLater.2 fragment hf next hn

theorem unique (h : registry.Discovers seen names found) {other : List String}
    (ho : registry.Discovers seen names other) : found = other := by
  induction h generalizing other with
  | done => cases ho; rfl
  | again hn _ ih =>
    cases ho with
    | again _ ho => exact ih ho
    | first hn' => exact absurd hn hn'
  | first hn _ _ ihInner ihLater =>
    cases ho with
    | again hn' => exact absurd hn' hn
    | first _ hoInner hoLater =>
      obtain rfl := ihInner hoInner
      obtain rfl := ihLater hoLater
      rfl

/-- The discoveries of a first name, then those of the names that follow it. -/
theorem cons {name : String} {rest inner later : List String}
    (first : registry.Discovers seen [name] inner)
    (next : registry.Discovers (seen ++ inner) rest later) :
    registry.Discovers seen (name :: rest) (inner ++ later) := by
  cases first with
  | again hn done =>
    cases done
    rw [List.append_nil] at next
    exact .again hn next
  | first hn hInner done =>
    cases done
    rw [List.append_nil] at next ⊢
    exact .first hn hInner next

/-- From nothing seen, exactly the reachable names are found. -/
theorem mem_iff_reaches {selections : List Selection}
    (h : registry.Discovers [] (Selection.spreadNamesOf selections) found) (name : String) :
    name ∈ found ↔ registry.Reaches selections name := by
  obtain ⟨starts, inside⟩ := h.closed
  rw [List.nil_append] at starts inside
  constructor
  · refine h.forall_mem (fun name hn => .direct (Selection.mem_spreadNamesOf.1 hn)) ?_ name
    exact fun fragment hf name hn => hf.of_mem_spreadsIn hn
  · intro hr
    induction hr with
    | direct hs => exact starts _ (Selection.mem_spreadNamesOf.2 hs)
    | through _ hf hs ih => exact inside _ ih _ (mem_spreadsIn.2 ⟨_, hf, hs⟩)

end Discovers

/-! ## The bounded search -/

/-- The number of known fragments that have not been met. -/
def unentered (registry : FragmentRegistry) (seen : List String) : Nat := unmet registry.keys seen

theorem unentered_nil (registry : FragmentRegistry) : registry.unentered [] = registry.size := by
  have all : registry.keys.filter (· ∉ ([] : List String)) = registry.keys :=
    List.filter_eq_self.2 (by simp)
  rw [unentered, unmet, all, OrderedMap.keys, OrderedMap.size, List.length_map]

theorem unentered_append_le (registry : FragmentRegistry) (seen met : List String) :
    registry.unentered (seen ++ met) ≤ registry.unentered seen :=
  unmet_le_of_subset registry.keys (List.subset_append_left seen met)

theorem unentered_enter_lt {seen : List String} {name : String}
    (known : registry.contains name = true) (hn : name ∉ seen) :
    registry.unentered (seen ++ [name]) < registry.unentered seen :=
  unmet_append_lt ((registry.contains_iff_mem_keys name).1 known) hn

/-- The search after further discoveries, with a warning for each of them that no fragment has. -/
def discovered (registry : FragmentRegistry) (search : SpreadSearch) (found : List String) :
    Logged SpreadSearch :=
  { value :=
      { seen := search.seen ++ found
        found := search.found ++ found.filter registry.contains }
    warnings := (found.filter (!registry.contains ·)).map .omittedFragment }

theorem discovered_append (search : SpreadSearch) (found later : List String) :
    registry.discovered search (found ++ later) =
      registry.discovered search found >>= fun search => registry.discovered search later := by
  apply Logged.ext
  · simp [discovered, List.append_assoc]
  · simp [discovered]

/-- A bound that suffices for single names suffices for lists of them. -/
theorem foldlM_follow {bound : Nat}
    (single : ∀ (search : SpreadSearch) (name : String), registry.unentered search.seen < bound →
      ∃ found, registry.Discovers search.seen [name] found ∧
        registry.follow bound search name = registry.discovered search found)
    (names : List String) (search : SpreadSearch)
    (h : registry.unentered search.seen < bound) :
    ∃ found, registry.Discovers search.seen names found ∧
      names.foldlM (registry.follow bound) search = registry.discovered search found := by
  induction names generalizing search with
  | nil =>
    refine ⟨[], .done, ?_⟩
    apply Logged.ext <;> simp [discovered]
  | cons name rest ih =>
    obtain ⟨first, hFirst, eFirst⟩ := single search name h
    have fewer := registry.unentered_append_le search.seen first
    obtain ⟨later, hLater, eLater⟩ :=
      ih (registry.discovered search first).value (Nat.lt_of_le_of_lt fewer h)
    refine ⟨first ++ later, hFirst.cons hLater, ?_⟩
    rw [List.foldlM_cons, eFirst, discovered_append]
    apply Logged.ext
    · rw [Logged.value_bind, Logged.value_bind, eLater]
    · rw [Logged.warnings_bind, Logged.warnings_bind, eLater]

/-- A bound above the number of known fragments that are left is never reached. -/
theorem follow_eq_discovered (bound : Nat) (search : SpreadSearch) (name : String)
    (h : registry.unentered search.seen < bound) :
    ∃ found, registry.Discovers search.seen [name] found ∧
      registry.follow bound search name = registry.discovered search found := by
  induction bound generalizing search name with
  | zero => exact absurd h (Nat.not_lt_zero _)
  | succ bound ih =>
    rw [follow]
    by_cases hn : name ∈ search.seen
    · refine ⟨[], .again hn .done, ?_⟩
      rw [if_pos hn]
      apply Logged.ext <;> simp [discovered]
    · rw [if_neg hn]
      cases hf : registry.find? name with
      | none =>
        have unknown : registry.contains name = false := by rw [OrderedMap.contains, hf]; rfl
        have inner : registry.Discovers (search.seen ++ [name]) (registry.spreadsIn name) [] := by
          rw [spreadsIn, hf]
          exact .done
        refine ⟨[name], .first hn inner .done, ?_⟩
        apply Logged.ext <;> simp [discovered, unknown, Logged.warn]
      | some loaded =>
        have known : registry.contains name = true := by rw [OrderedMap.contains, hf]; rfl
        have inside : registry.spreadsIn name =
            Selection.spreadNamesOf loaded.fragment.selections := by rw [spreadsIn, hf]
        have fewer := unentered_enter_lt known hn
        obtain ⟨inner, hInner, eInner⟩ := foldlM_follow ih
          (Selection.spreadNamesOf loaded.fragment.selections)
          { seen := search.seen ++ [name], found := search.found ++ [name] }
          (Nat.lt_of_lt_of_le fewer (Nat.lt_succ_iff.1 h))
        rw [← inside] at hInner
        refine ⟨name :: inner ++ [], .first hn hInner .done, ?_⟩
        rw [List.append_nil]
        refine eInner.trans ?_
        apply Logged.ext <;> simp [discovered, known]

theorem foldlM_follow_eq_discovered {bound : Nat} (names : List String)
    (h : registry.size < bound) :
    ∃ found, registry.Discovers [] names found ∧
      names.foldlM (registry.follow bound) {} = registry.discovered {} found :=
  foldlM_follow (follow_eq_discovered bound) names {} (by rwa [unentered_nil])

theorem neededBy_eq {found : List String} {selections : List Selection}
    (h : (Selection.spreadNamesOf selections).foldlM (registry.follow (registry.size + 1)) {} =
      registry.discovered {} found) :
    registry.neededBy selections =
      { value := found.filter registry.contains
        warnings := (found.filter (!registry.contains ·)).map .omittedFragment } := by
  unfold neededBy
  rw [h]
  apply Logged.ext <;> simp [discovered]

theorem count_omittedFragment {names : List String} (nodup : names.Nodup) {name : String}
    (h : name ∈ names) : (names.map Warning.omittedFragment).count (.omittedFragment name) = 1 := by
  have injective : Function.Injective Warning.omittedFragment := fun _ _ h => by cases h; rfl
  rw [List.count_map_of_injective _ _ injective]
  exact List.count_eq_one_of_mem nodup h

/-- Whatever bound above the size of the registry is used, the fragments that selections need are
the reachable ones, in the order of the walk without a bound, with a warning for each unknown name.
-/
theorem neededBy_lists_reachable (registry : FragmentRegistry) (selections : List Selection) :
    (∃ found, registry.Discovers [] (Selection.spreadNamesOf selections) found ∧
      (registry.neededBy selections).value = found.filter registry.contains ∧
      ∀ bound, registry.size < bound →
        (((Selection.spreadNamesOf selections).foldlM (registry.follow bound) {}).value).found =
          found.filter registry.contains) ∧
      (registry.neededBy selections).value.Nodup ∧
      (∀ name, name ∈ (registry.neededBy selections).value ↔
        registry.contains name = true ∧ registry.Reaches selections name) ∧
      (∀ name, registry.contains name = false → registry.Reaches selections name →
        (registry.neededBy selections).warnings.count (.omittedFragment name) = 1) ∧
      ∀ warning ∈ (registry.neededBy selections).warnings, ∃ name,
        warning = .omittedFragment name ∧ registry.contains name = false ∧
          registry.Reaches selections name := by
  obtain ⟨found, walk, result⟩ := registry.foldlM_follow_eq_discovered
    (Selection.spreadNamesOf selections) (Nat.lt_succ_self registry.size)
  have once := walk.nodup.1
  have reached := walk.mem_iff_reaches
  rw [neededBy_eq result]
  refine ⟨⟨found, walk, rfl, ?_⟩, once.filter _, ?_, ?_, ?_⟩
  · intro bound hb
    obtain ⟨other, walk', result'⟩ := registry.foldlM_follow_eq_discovered _ hb
    obtain rfl := walk.unique walk'
    rw [result']
    simp [discovered]
  · intro name
    rw [List.mem_filter, reached, and_comm]
  · intro name unknown hr
    refine count_omittedFragment (once.filter _) (List.mem_filter.2 ⟨(reached name).2 hr, ?_⟩)
    rw [unknown, Bool.not_false]
  · intro warning hw
    obtain ⟨name, hn, rfl⟩ := List.mem_map.1 hw
    obtain ⟨hn, unknown⟩ := List.mem_filter.1 hn
    exact ⟨name, rfl, by simpa using unknown, (reached name).1 hn⟩

end FragmentRegistry

end SchemaBindings
