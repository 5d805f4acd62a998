import SchemaBindings.Proofs.CamelLetters

/-!
# Converted names that are alike

When two names of types are converted to one, with the same additions at their ends and underscores
kept apart. Where names are left as they are, only equal ones are; otherwise these are the names
that differ in the case of letters at most and in which words begin at the same letters
(`NameStyle.convertWith_eq_iff`). A converted name without the additions is as long as the name and
has its underscores where the name has them.
-/

namespace SchemaBindings

namespace Text

/-! ## Underscores -/

theorem toLower_eq_underscore_iff {c : Char} : c.toLower = '_' ↔ c = '_' := by
  constructor
  · intro lower
    have none : c.isAlpha = false := by
      rw [← Char.isLower_toLower_eq_isAlpha, lower]
      rfl
    rwa [(toUpper_toLower_of_not_isAlpha none).2] at lower
  · rintro rfl
    rfl

theorem getElem?_eq_underscore_iff {first second : List Char}
    (same : first.map Char.toLower = second.map Char.toLower) (i : Nat) :
    first[i]? = some '_' ↔ second[i]? = some '_' := by
  have told : ∀ cs : List Char, cs[i]? = some '_' ↔ (cs.map Char.toLower)[i]? = some '_' := by
    intro cs
    rw [List.getElem?_map]
    cases cs[i]? with
    | none => simp
    | some c => simp [toLower_eq_underscore_iff]
  rw [told first, told second, same]

/-- A text is told by its places of underscores and what stands between them. -/
theorem eq_of_filter_underscore {first second : List Char}
    (same : first.map Char.toLower = second.map Char.toLower)
    (others : first.filter (· != '_') = second.filter (· != '_')) : first = second := by
  induction first generalizing second with
  | nil => exact (List.map_eq_nil_iff.1 same.symm).symm
  | cons c cs ih =>
    obtain ⟨d, ds, rfl, head, tail⟩ := List.map_eq_cons_iff.1 same.symm
    by_cases underscore : c = '_'
    · subst underscore
      obtain rfl := toLower_eq_underscore_iff.1 (head.trans rfl)
      rw [ih tail.symm (by simpa using others)]
    · have also : d ≠ '_' := fun hd =>
        underscore (toLower_eq_underscore_iff.1 (head ▸ toLower_eq_underscore_iff.2 hd))
      rw [List.filter_cons_of_pos (by simpa using underscore),
        List.filter_cons_of_pos (by simpa using also)] at others
      obtain ⟨rfl, rest⟩ := List.cons.inj others
      rw [ih tail.symm rest]

theorem filter_intercalate_underscore {pieces : List (List Char)}
    (kept : ∀ piece ∈ pieces, '_' ∉ piece) :
    (['_'].intercalate pieces).filter (· != '_') = pieces.flatten := by
  have own : ∀ piece : List Char, '_' ∉ piece → piece.filter (· != '_') = piece := by
    intro piece absent
    refine List.filter_eq_self.2 fun c mem => ?_
    rw [bne_iff_ne]
    rintro rfl
    exact absent mem
  induction pieces with
  | nil => rfl
  | cons piece rest ih =>
    obtain ⟨first, others⟩ := List.forall_mem_cons.1 kept
    cases rest with
    | nil => simpa using own piece first
    | cons next rest =>
      rw [List.intercalate_cons_cons, List.filter_append, List.filter_append, own piece first,
        ih others, List.filter_cons_of_neg (by decide), List.filter_nil, List.append_nil]
      rfl

/-! ## Letters of pieces -/

/-- Underscores end words, so the letters of a name are those of its pieces. -/
theorem camelLetters_intercalate {pieces : List (List Char)}
    (alphanumeric : ∀ piece ∈ pieces, ∀ c ∈ piece, c.isAlphanum = true) :
    camelLetters [] (['_'].intercalate pieces) = pieces.flatMap (camelLetters []) := by
  induction pieces with
  | nil => rfl
  | cons piece rest ih =>
    obtain ⟨first, others⟩ := List.forall_mem_cons.1 alphanumeric
    cases rest with
    | nil => simp
    | cons next rest =>
      rw [List.intercalate_cons_cons, List.append_assoc, List.singleton_append,
        camelLetters_append_cons first rfl, ih others]
      rfl

theorem isAlphanum_of_mem_splitChars {cs piece : List Char} (chars : NameChars cs)
    (mem : piece ∈ splitChars '_' cs) : ∀ c ∈ piece, c.isAlphanum = true := by
  intro c hc
  refine (chars c (mem_of_mem_splitChars mem hc)).resolve_left ?_
  rintro rfl
  exact not_mem_of_mem_splitChars mem hc

theorem filter_camelCasePieces {cs : List Char} (chars : NameChars cs) :
    (['_'].intercalate ((splitChars '_' cs).map camelCaseChars)).filter (· != '_') =
      camelCaseChars cs := by
  have alphanumeric : ∀ piece ∈ splitChars '_' cs, ∀ c ∈ piece, c.isAlphanum = true :=
    fun piece mem => isAlphanum_of_mem_splitChars chars mem
  have nameChars : ∀ piece ∈ splitChars '_' cs, NameChars piece :=
    fun piece mem c hc => .inr (alphanumeric piece mem c hc)
  have kept : ∀ piece ∈ (splitChars '_' cs).map camelCaseChars, '_' ∉ piece := by
    rintro _ mem underscore
    obtain ⟨piece, listed, rfl⟩ := List.mem_map.1 mem
    cases isAlphanum_of_mem_camelCaseChars (nameChars piece listed) underscore
  calc (['_'].intercalate ((splitChars '_' cs).map camelCaseChars)).filter (· != '_')
      = (splitChars '_' cs).flatMap camelCaseChars := filter_intercalate_underscore kept
    _ = (splitChars '_' cs).flatMap fun piece => (camelLetters [] piece).map CamelLetter.char :=
        List.flatMap_congr fun piece mem => camelCaseChars_eq (nameChars piece mem)
    _ = ((splitChars '_' cs).flatMap (camelLetters [])).map CamelLetter.char :=
        (List.map_flatMap ..).symm
    _ = (camelLetters [] cs).map CamelLetter.char := by
        rw [← camelLetters_intercalate alphanumeric, intercalate_splitChars]
    _ = camelCaseChars cs := (camelCaseChars_eq chars).symm

end Text

open Text

namespace NameStyle

variable {style : NameStyle} {options : NameOptions}

theorem toList_core_of_pascalCase (pascalCase : style.convention = .pascalCase) (name : String) :
    (style.core false name).toList =
      ['_'].intercalate ((splitChars '_' name.toList).map camelCaseChars) := by
  unfold core
  rw [pascalCase, if_neg Bool.false_ne_true, String.toList_intercalate, splitAt, List.map_map,
    List.map_map]
  refine congrArg _ (List.map_congr_left fun piece _ => ?_)
  simp [camelCase]

/-- The names that conversion, without additions at the ends, makes one of. -/
theorem core_eq_iff (pascalCase : style.convention = .pascalCase) {first second : String}
    (first_chars : NameChars first.toList) (second_chars : NameChars second.toList) :
    style.core false first = style.core false second ↔
      first.toLower = second.toLower ∧
        camelLetters [] first.toList = camelLetters [] second.toList := by
  have letters : ∀ {name : String}, NameChars name.toList →
      (style.core false name).toList.filter (· != '_') = camelCaseChars name.toList :=
    fun chars => by rw [toList_core_of_pascalCase pascalCase, filter_camelCasePieces chars]
  have lower : ∀ {name : String}, NameChars name.toList →
      (style.core false name).toLower = name.toLower := toLower_core
  rw [← camelCase_eq_iff first_chars second_chars, camelCase, camelCase, String.ofList_inj,
    ← letters first_chars, ← letters second_chars, ← lower first_chars, ← lower second_chars]
  constructor
  · intro same
    rw [same]
    exact ⟨rfl, rfl⟩
  · rintro ⟨same, others⟩
    rw [← String.toList_inj, toList_toLower, toList_toLower] at same
    exact String.toList_inj.1 (eq_of_filter_underscore same others)

theorem convertWith_eq_iff_core (separate : options.mergesUnderscores = false)
    (first second : String) : style.convertWith options first = style.convertWith options second ↔
      style.core false first = style.core false second := by
  unfold convertWith
  rw [separate, String.append_left_inj, String.append_right_inj]

/-- A converted name without the additions at its ends is as long as the name, and its underscores
are where those of the name are. -/
structure KeepsUnderscores (name core : String) : Prop where
  length_eq : core.length = name.length
  underscore_iff : ∀ i : Nat, core.toList[i]? = some '_' ↔ name.toList[i]? = some '_'

theorem keepsUnderscores_core {name : String} (chars : NameChars name.toList) :
    KeepsUnderscores name (style.core false name) := by
  have same : (style.core false name).toList.map Char.toLower = name.toList.map Char.toLower := by
    rw [← toList_toLower, ← toList_toLower, toLower_core chars]
  have length := congrArg List.length same
  rw [List.length_map, List.length_map, String.length_toList, String.length_toList] at length
  exact ⟨length, getElem?_eq_underscore_iff same⟩

/-- Names are converted to one exactly if they are equal or, in camel case, if they differ in the
case of letters at most and words begin at the same ones. Underscores stay where they are. -/
theorem convertWith_eq_iff (style : NameStyle) {options : NameOptions}
    (separate : options.mergesUnderscores = false) {first second : String}
    (first_chars : NameChars first.toList) (second_chars : NameChars second.toList) :
    (style.convention = .keep →
      (style.convertWith options first = style.convertWith options second ↔ first = second)) ∧
    (style.convention = .pascalCase →
      (style.convertWith options first = style.convertWith options second ↔
        first.toLower = second.toLower ∧
          camelLetters [] first.toList = camelLetters [] second.toList)) ∧
    ∃ core, style.convertWith options first =
        (if options.usesTypesPrefix then style.typesPrefix else "") ++ core ++ options.suffix ∧
      KeepsUnderscores first core := by
  refine ⟨fun keep => ?_, fun pascalCase => ?_, style.core false first, ?_,
    keepsUnderscores_core first_chars⟩
  · rw [convertWith_eq_iff_core separate, core, core, keep]
  · rw [convertWith_eq_iff_core separate, core_eq_iff pascalCase first_chars second_chars]
  · rw [convertWith, separate]

theorem user_ids_converted_apart :
    let style : NameStyle := { typesPrefix := "Gql" }
    let options : NameOptions := { suffix := "Fragment" }
    (options.mergesUnderscores = false ∧ NameChars "_userID__2".toList ∧
      NameChars "_userid__2".toList) ∧
    "_userID__2".toLower = "_userid__2".toLower ∧
    style.convertWith options "_userID__2" ≠ style.convertWith options "_userid__2" ∧
    ∃ core, style.convertWith options "_userID__2" = "Gql" ++ core ++ "Fragment" ∧
      KeepsUnderscores "_userID__2" core := by
  intro style options
  have separate : options.mergesUnderscores = false := rfl
  have first_chars : NameChars "_userID__2".toList := by decide
  have second_chars : NameChars "_userid__2".toList := by decide
  obtain ⟨-, alike, core⟩ := convertWith_eq_iff style separate first_chars second_chars
  have lower : "_userID__2".toLower = "_userid__2".toLower := by
    rw [← String.toList_inj, toList_toLower, toList_toLower]
    decide
  have apart : camelLetters [] "_userID__2".toList ≠ camelLetters [] "_userid__2".toList := by
    decide
  exact ⟨⟨separate, first_chars, second_chars⟩, lower, fun same => apart ((alike rfl).1 same).2,
    core⟩

end NameStyle

end SchemaBindings
