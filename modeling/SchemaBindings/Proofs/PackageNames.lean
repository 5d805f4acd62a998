import SchemaBindings.Plugin
import SchemaBindings.Proofs.NameCase

/-!
# Names of packages

The package of a file for which none is set is named like the directory of the file. Its name is
always an identifier, but not always one that a package can have: of a directory that is called like
the blank identifier or like a keyword, apart from characters that are left out, the name is taken
over as it is (`packageName_namesPackage_iff`).
-/

namespace SchemaBindings

open Text

/-! ## Names that packages can have -/

/-- The keywords of the generated code. -/
def keywords : List String :=
  ["break", "case", "chan", "const", "continue", "default", "defer", "else", "fallthrough", "for",
   "func", "go", "goto", "if", "import", "interface", "map", "package", "range", "return", "select",
   "struct", "switch", "type", "var"]

/-- The words that are written like identifiers, but that no package can have as its name: the blank
identifier and the keywords. -/
def reservedNames : List String := "_" :: keywords

/-- A letter or an underscore, and then letters, digits and underscores. -/
structure IsIdentifier (name : String) : Prop where
  first : name.toList.head?.any (fun c => c.isAlpha || c == '_') = true
  chars : NameChars name.toList

/-- An identifier that a package can have as its name. -/
structure NamesPackage (name : String) : Prop where
  isIdentifier : IsIdentifier name
  not_reserved : name ∉ reservedNames

theorem namesPackage_defaultPackage : NamesPackage defaultPackage :=
  ⟨⟨by decide, by decide⟩, by decide⟩

theorem noCapitals_defaultPackage : ∀ c ∈ defaultPackage.toList, c.isUpper = false := by
  simp [defaultPackage]

theorem not_startsWithDigit_of_reserved {word : String} (reserved : word ∈ reservedNames) :
    word.toList.head?.any Char.isDigit = false := by
  revert word
  decide

/-- No reserved word starts with an underscore, except the one that consists of it. -/
theorem tail_eq_nil_of_reserved {word : String} (reserved : word ∈ reservedNames) {cs : List Char}
    (text : word.toList = '_' :: cs) : cs = [] := by
  have all : ∀ word ∈ reservedNames, word.toList.head? = some '_' → word.toList.tail = [] := by
    decide
  have tail := all word reserved (by rw [text]; rfl)
  rwa [text] at tail

/-! ## Names of directories -/

/-- The name of the directory that a file is in, where the path of the file tells it. -/
def directoryName? (file? : Option String) : Option String :=
  file?.bind fun file => (Path.parent? file).bind Path.fileName?

/-- The letters, digits and underscores of a name, in lower case. -/
def plainName (name : String) : String :=
  String.ofList ((name.toList.filter fun c => c.isAlphanum || c == '_').map Char.toLower)

theorem nameChar_toLower {c : Char} (h : (c.isAlphanum || c == '_') = true) :
    (c.toLower = '_' ∨ c.toLower.isAlphanum = true) ∧ c.toLower.isUpper = false := by
  rw [Bool.or_eq_true, beq_iff_eq] at h
  rcases h with alphanumeric | rfl
  · have lower : c.isAlphanum = true → c.toLower.isAlphanum = true ∧ c.toLower.isUpper = false :=
      of_ascii (P := fun c => c.isAlphanum = true →
        c.toLower.isAlphanum = true ∧ c.toLower.isUpper = false) (by decide)
        (toNat_lt_of_isAlphanum alphanumeric)
    exact ⟨.inr (lower alphanumeric).1, (lower alphanumeric).2⟩
  · exact ⟨.inl rfl, rfl⟩

theorem nameChars_plainName (name : String) :
    ∀ c ∈ (plainName name).toList, (c = '_' ∨ c.isAlphanum = true) ∧ c.isUpper = false := by
  intro c mem
  rw [plainName, String.toList_ofList] at mem
  obtain ⟨original, kept, rfl⟩ := List.mem_map.1 mem
  exact nameChar_toLower (List.mem_filter.1 kept).2

/-- What is left of a name is put behind an underscore if it starts with a digit. -/
theorem packageOfName_eq (name : String) : packageOfName name =
    if (plainName name).toList.head?.any Char.isDigit then "_" ++ plainName name
    else plainName name := by
  unfold packageOfName plainName
  generalize (name.toList.filter fun c => c.isAlphanum || c == '_').map Char.toLower = kept
  rw [String.toList_ofList]
  cases kept with
  | nil => rfl
  | cons c cs =>
    show (if c.isDigit = true then String.ofList ('_' :: c :: cs) else String.ofList (c :: cs)) =
      if c.isDigit = true then "_" ++ String.ofList (c :: cs) else String.ofList (c :: cs)
    rw [String.ofList_cons]
    rfl

theorem packageOfName_eq_empty_iff {name : String} :
    packageOfName name = "" ↔ plainName name = "" := by
  rw [packageOfName_eq]
  split
  · rename_i digit
    refine iff_of_false (fun empty => ?_) (fun empty => ?_)
    · simp at empty
    · rw [empty] at digit
      cases digit
  · rfl

theorem isIdentifier_packageOfName {name : String} (nonempty : plainName name ≠ "") :
    IsIdentifier (packageOfName name) ∧ ∀ c ∈ (packageOfName name).toList, c.isUpper = false := by
  have plain := nameChars_plainName name
  rw [packageOfName_eq]
  split
  · have text : ("_" ++ plainName name).toList = '_' :: (plainName name).toList := by simp
    have all := List.forall_mem_cons.2 ⟨⟨.inl rfl, rfl⟩, plain⟩
    refine ⟨⟨by rw [text]; rfl, fun c mem => ?_⟩, fun c mem => ?_⟩
    · exact (all c (text ▸ mem)).1
    · exact (all c (text ▸ mem)).2
  · rename_i noDigit
    refine ⟨⟨?_, fun c mem => (plain c mem).1⟩, fun c mem => (plain c mem).2⟩
    cases text : (plainName name).toList with
    | nil => exact absurd (String.toList_eq_nil_iff.1 text) nonempty
    | cons c cs =>
      rw [text] at plain noDigit
      rw [List.head?_cons, Option.any_some]
      rcases (plain c List.mem_cons_self).1 with rfl | alphanumeric
      · rfl
      · have letter : c.isAlpha = true := by
          simpa [Char.isAlphanum, show c.isDigit = false by simpa using noDigit] using alphanumeric
        rw [letter, Bool.true_or]

/-- It is reserved exactly if what is left of the directory's name is. -/
theorem packageOfName_reserved_iff (name : String) :
    packageOfName name ∈ reservedNames ↔ plainName name ∈ reservedNames := by
  rw [packageOfName_eq]
  split
  · rename_i digit
    refine iff_of_false (fun reserved => ?_) (fun reserved => ?_)
    · have text : ("_" ++ plainName name).toList = '_' :: (plainName name).toList := by simp
      rw [tail_eq_nil_of_reserved reserved text] at digit
      cases digit
    · rw [not_startsWithDigit_of_reserved reserved] at digit
      cases digit
  · rfl

/-! ## Derived packages -/

theorem packageName_eq {options : Options}
    (unset : ∀ package, options.package? = some package → package = "") (file? : Option String) :
    packageName options file? =
      let derived := ((directoryName? file?).map packageOfName).getD ""
      if derived = "" then defaultPackage else derived := by
  have none : options.package?.filter (!·.isEmpty) = none := by
    cases own : options.package? with
    | none => rfl
    | some package => rw [unset package own]; rfl
  have derived : (do packageOfName (← Path.fileName? (← Path.parent? (← file?)))) =
      (directoryName? file?).map packageOfName := by
    cases file? with
    | none => rfl
    | some file =>
      cases h : Path.parent? file with
      | none => simp [directoryName?, h]
      | some directory =>
        simp only [directoryName?, h, Option.bind_some, Option.bind_eq_bind, Option.map_eq_bind]
        rfl
  unfold packageName
  rw [none]
  simp only [derived, String.isEmpty_iff]

/-- The package of a file is named by an identifier without capitals, unless what is left of the
directory's name is the blank identifier or a keyword. -/
theorem packageName_namesPackage_iff {options : Options}
    (unset : ∀ package, options.package? = some package → package = "") (file? : Option String) :
    IsIdentifier (packageName options file?) ∧
    (∀ c ∈ (packageName options file?).toList, c.isUpper = false) ∧
    (NamesPackage (packageName options file?) ↔
      ∀ directory, directoryName? file? = some directory →
        plainName directory ∉ reservedNames) := by
  rw [packageName_eq unset]
  cases named : directoryName? file? with
  | none =>
    have default := namesPackage_defaultPackage
    exact ⟨default.isIdentifier, noCapitals_defaultPackage, fun _ _ => nofun, fun _ => default⟩
  | some directory =>
    simp only [Option.map_some, Option.getD_some, packageOfName_eq_empty_iff, Option.some.injEq,
      forall_eq']
    split
    · rename_i empty
      have default := namesPackage_defaultPackage
      exact ⟨default.isIdentifier, noCapitals_defaultPackage, fun _ => by rw [empty]; decide,
        fun _ => default⟩
    · rename_i nonempty
      obtain ⟨identifier, noCapitals⟩ := isIdentifier_packageOfName nonempty
      rw [← packageOfName_reserved_iff]
      exact ⟨identifier, noCapitals, fun h => h.not_reserved, fun h => ⟨identifier, h⟩⟩

theorem digit_directory_names_package :
    let options : Options := { package? := some "" }
    (∀ package, options.package? = some package → package = "") ∧
    packageName options (some "out/2Fa-type/types.go") = "_2fatype" ∧
    NamesPackage (packageName options (some "out/2Fa-type/types.go")) := by
  intro options
  have unset : ∀ package, options.package? = some package → package = "" :=
    fun package own => (Option.some.inj own).symm
  have directory : directoryName? (some "out/2Fa-type/types.go") = some "2Fa-type" := by
    decide +kernel
  obtain ⟨-, -, legal⟩ := packageName_namesPackage_iff unset (some "out/2Fa-type/types.go")
  refine ⟨unset, by decide +kernel, legal.2 fun name named => ?_⟩
  rw [directory, Option.some.injEq] at named
  subst named
  decide +kernel

/-- Directories can be called like keywords, and like the blank identifier. -/
theorem keyword_directory_names_no_package :
    (packageName {} (some "func/types.go") = "func" ∧
      ¬NamesPackage (packageName {} (some "func/types.go"))) ∧
    packageName {} (some "_/types.go") = "_" ∧
      ¬NamesPackage (packageName {} (some "_/types.go")) := by
  have keyword : packageName {} (some "func/types.go") = "func" := by decide +kernel
  have blank : packageName {} (some "_/types.go") = "_" := by decide +kernel
  rw [keyword, blank]
  exact ⟨⟨rfl, fun legal => legal.not_reserved (by decide)⟩, rfl,
    fun legal => legal.not_reserved (by decide)⟩

end SchemaBindings
