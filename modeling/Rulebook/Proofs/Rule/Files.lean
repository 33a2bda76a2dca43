import Rulebook.Proofs.Rule.Size

/-!
# Files one by one

A rule on files says the same of a list of files as of each of them alone, and an empty list
passes none.  The rule on extensions asks for the end of a name: a dot and a listed extension,
which has no dot of its own, since only what stands after the last dot counts.
-/

namespace Rulebook

/-! ## Each file of a list -/

/-- Whether a rule passes a list of files if it passes each of them and there is one. -/
def ValueRule.JudgesEachFile (rule : ValueRule) : Prop :=
  ∀ (patterns : PatternSource) (record : Record) (files : List File) (args : List String),
    rule.holds patterns record (.files files) args = true ↔
      files ≠ [] ∧ ∀ file ∈ files, rule.holds patterns record (.file file) args = true

/-- It is enough that the test does so which a rule makes of what it finds in its arguments: too
few or too many of them fail for a list as for each file. -/
theorem ValueRule.judgesEachFile {α : Type} {arity : Arity}
    {body : Record → Value → List String → Option Bool} (find? : List String → Option α)
    (test : Value → α → Bool)
    (finds : ∀ record value args, body record value args = (find? args).map (test value))
    (each : ∀ files found, test (.files files) found = true ↔
      files ≠ [] ∧ ∀ file ∈ files, test (.file file) found = true) :
    (ValueRule.predicate arity body).JudgesEachFile := by
  intro patterns record files args
  simp only [holds, finds, Bool.and_eq_true, beq_iff_eq, Option.map_eq_some_iff]
  constructor
  · rintro ⟨accepts, found, isFound, passes⟩
    obtain ⟨some, passesEach⟩ := (each files found).mp passes
    exact ⟨some, fun file isMember => ⟨accepts, found, isFound, passesEach file isMember⟩⟩
  · rintro ⟨some, passesEach⟩
    -- Any one file tells that the arguments are accepted, and all find the same in them.
    obtain ⟨first, isMember⟩ := List.exists_mem_of_ne_nil files some
    obtain ⟨accepts, found, isFound, -⟩ := passesEach first isMember
    refine ⟨accepts, found, isFound, (each files found).mpr ⟨some, fun file isMember => ?_⟩⟩
    obtain ⟨-, found', isFound', passes⟩ := passesEach file isMember
    rwa [Option.some.inj (isFound.symm.trans isFound')]

theorem Size.judgesEachFile_withOne {test : Value → String → Bool}
    (each : ∀ files arg, test (.files files) arg = true ↔
      files ≠ [] ∧ ∀ file ∈ files, test (.file file) arg = true) :
    (withOne test).JudgesEachFile := by
  refine ValueRule.judgesEachFile (fun args => args[0]?) test (fun record value args => ?_) each
  exact Option.map_eq_bind.symm

theorem Size.judgesEachFile_withTwo {test : Value → String → String → Bool}
    (each : ∀ files first second, test (.files files) first second = true ↔
      files ≠ [] ∧ ∀ file ∈ files, test (.file file) first second = true) :
    (withTwo test).JudgesEachFile := by
  refine ValueRule.judgesEachFile (fun args => do return (← args[0]?, ← args[1]?))
    (fun value found => test value found.1 found.2) (fun record value args => ?_)
    fun files found => each files found.1 found.2
  cases args[0]? <;> cases args[1]? <;> rfl

namespace Files

/-! ## Extensions -/

section

variable {stem extension name : List Char}

/-- What stands after a dot is the extension if it has no dot itself. -/
theorem extensionChars?_append (noDot : '.' ∉ extension) :
    extensionChars? (stem ++ '.' :: extension) = some extension := by
  have dotted : (stem ++ '.' :: extension).contains '.' = true := by simp
  have backwards : (stem ++ '.' :: extension).reverse =
      extension.reverse ++ '.' :: stem.reverse := by
    simp
  have plain : ∀ c ∈ extension.reverse, (c != '.') = true := by
    intro c isMember
    rw [bne_iff_ne]
    rintro rfl
    exact noDot (List.mem_reverse.mp isMember)
  rw [extensionChars?, if_pos dotted, backwards, List.takeWhile_append_of_pos plain,
    List.takeWhile_cons_of_neg (by simp), List.append_nil, List.reverse_reverse]

/-- An extension is an end of the name without a dot, and the dot in front of it belongs to the
name too. -/
theorem extensionChars?_eq_some_iff :
    extensionChars? name = some extension ↔ '.' ∉ extension ∧ '.' :: extension <:+ name := by
  constructor
  · intro found
    have dotted : '.' ∈ name.reverse := by
      rw [extensionChars?] at found
      split at found
      · next dotted => exact List.mem_reverse.mpr (List.contains_iff_mem.mp dotted)
      · cases found
    obtain ⟨after, before, parts, noDot⟩ := List.eq_append_cons_of_mem dotted
    have whole : name = before.reverse ++ '.' :: after.reverse := by
      rw [← List.reverse_reverse name, parts]
      simp
    have noDot' : '.' ∉ after.reverse := fun isMember => noDot (List.mem_reverse.mp isMember)
    rw [whole, extensionChars?_append noDot'] at found
    cases found
    exact ⟨noDot', before.reverse, whole.symm⟩
  · rintro ⟨noDot, stem, rfl⟩
    exact extensionChars?_append noDot

end

/-- Whether a name ends with a dot and one of these extensions that is not empty and has no dot. -/
def EndsWithOneOf (extensions : List String) (name : String) : Prop :=
  ∃ extension ∈ extensions, extension ≠ "" ∧ '.' ∉ extension.toList ∧
    '.' :: extension.toList <:+ name.toList

theorem extension?_eq_some_iff {name extension : String} :
    extension? name = some extension ↔
      '.' ∉ extension.toList ∧ '.' :: extension.toList <:+ name.toList := by
  rw [← extensionChars?_eq_some_iff, extension?, Option.map_eq_some_iff]
  constructor
  · rintro ⟨chars, found, rfl⟩
    rwa [String.toList_ofList]
  · intro found
    exact ⟨extension.toList, found, String.ofList_toList⟩

theorem isAllowed_iff {extensions : List String} {name : String} :
    isAllowed extensions name = true ↔ EndsWithOneOf extensions name := by
  simp only [isAllowed, Option.any_eq_true, extension?_eq_some_iff, Bool.and_eq_true,
    Bool.not_eq_true', String.isEmpty_eq_false_iff, List.contains_iff_mem]
  constructor
  · rintro ⟨extension, ⟨noDot, ends⟩, notEmpty, listed⟩
    exact ⟨extension, listed, notEmpty, noDot, ends⟩
  · rintro ⟨extension, listed, notEmpty, noDot, ends⟩
    exact ⟨extension, ⟨noDot, ends⟩, notEmpty, listed⟩

theorem haveExtensions_files {files : List File} {extensions : List String} :
    haveExtensions (.files files) extensions = true ↔
      files ≠ [] ∧ ∀ file ∈ files, haveExtensions (.file file) extensions = true := by
  rw [haveExtensions, Bool.and_eq_true, Bool.not_eq_true', List.isEmpty_eq_false_iff,
    List.all_eq_true]
  rfl

/-- The rule on extensions, which are its arguments. -/
def byExtension : ValueRule :=
  .predicate (.atLeast 1) fun _ value args => some (haveExtensions value args)

theorem judgesEachFile_byExtension : byExtension.JudgesEachFile :=
  ValueRule.judgesEachFile some haveExtensions (fun _ _ _ => rfl) fun _ _ => haveExtensions_files

/-- A listed extension is an argument, so the rule need not ask for one apart from it. -/
theorem holds_byExtension_iff {patterns : PatternSource} {record : Record} {value : Value}
    {name : String} {extensions : List String}
    (named : haveExtensions value extensions = isAllowed extensions name) :
    byExtension.holds patterns record value extensions = true ↔ EndsWithOneOf extensions name := by
  simp only [byExtension, ValueRule.holds, Arity.accepts, named, Option.some_beq_some, beq_true,
    Bool.and_eq_true, decide_eq_true_iff, isAllowed_iff]
  refine and_iff_right_of_imp ?_
  rintro ⟨extension, listed, -⟩
  exact List.length_pos_of_mem listed

/-- Lists of files are judged file by file, and a single file or a file name by how the name
ends. -/
theorem files_judged_by_each :
    (∀ name ∈ ["min", "max", "between", "size", "mimes"],
      ∃ rule, Registry.builtIn.values.find? name = some rule ∧ rule.JudgesEachFile) ∧
    ∃ mimes, Registry.builtIn.values.find? "mimes" = some mimes ∧
      ∀ (patterns : PatternSource) (record : Record) (name : String) (extensions : List String),
        (∀ size, mimes.holds patterns record (.file ⟨name, size⟩) extensions = true ↔
          EndsWithOneOf extensions name) ∧
        (mimes.holds patterns record (.string name) extensions = true ↔
          EndsWithOneOf extensions name) := by
  simp only [List.forall_mem_cons, List.not_mem_nil, false_imp_iff, implies_true, and_true]
  refine ⟨⟨⟨_, rfl, ?_⟩, ⟨_, rfl, ?_⟩, ⟨_, rfl, ?_⟩, ⟨_, rfl, ?_⟩, ⟨_, rfl, ?_⟩⟩, byExtension, rfl,
    fun patterns record name extensions => ⟨fun size => ?_, ?_⟩⟩
  · exact Size.judgesEachFile_withOne fun files least => Size.check_files
  · exact Size.judgesEachFile_withOne fun files most => Size.check_files
  · exact Size.judgesEachFile_withTwo fun files least most => Size.check_files
  · exact Size.judgesEachFile_withOne fun files expected => Size.check_files
  · exact judgesEachFile_byExtension
  · exact holds_byExtension_iff rfl
  · exact holds_byExtension_iff rfl

/-- Of an extension in two parts only the last part counts. -/
theorem files_judged_by_each_archives :
    let archives : List File := [⟨"notes.tar.gz", 10240⟩, ⟨".gz", 0⟩]
    let source : PatternSource := fun _ => none
    "mimes" ∈ ["min", "max", "between", "size", "mimes"] ∧ archives ≠ [] ∧
      ∃ mimes, Registry.builtIn.values.find? "mimes" = some mimes ∧
        mimes.holds source [] (.files archives) ["zip", "gz"] = true ∧
        mimes.holds source [] (.files []) ["zip", "gz"] = false ∧
        mimes.holds source [] (.string "notes.tar.gz") ["tar.gz"] = false := by
  intro archives source
  have listed : "mimes" ∈ ["min", "max", "between", "size", "mimes"] := by decide
  obtain ⟨eachFile, mimes, found, byName⟩ := files_judged_by_each
  obtain ⟨rule, foundRule, judges⟩ := eachFile "mimes" listed
  cases found.symm.trans foundRule
  have some : archives ≠ [] := List.cons_ne_nil _ _
  have first : mimes.holds source [] (.file ⟨"notes.tar.gz", 10240⟩) ["zip", "gz"] = true :=
    ((byName source [] "notes.tar.gz" ["zip", "gz"]).1 10240).mpr
      ⟨"gz", by decide, by decide, by decide, "notes.tar".toList, by decide⟩
  have second : mimes.holds source [] (.file ⟨".gz", 0⟩) ["zip", "gz"] = true :=
    ((byName source [] ".gz" ["zip", "gz"]).1 0).mpr
      ⟨"gz", by decide, by decide, by decide, [], by decide⟩
  have passes : mimes.holds source [] (.files archives) ["zip", "gz"] = true :=
    (judges source [] archives ["zip", "gz"]).mpr
      ⟨some, List.forall_mem_cons.mpr ⟨first, List.forall_mem_singleton.mpr second⟩⟩
  have noFile : mimes.holds source [] (.files []) ["zip", "gz"] = false := by
    rw [← Bool.not_eq_true, judges]
    exact fun none => none.1 rfl
  have twoParts : mimes.holds source [] (.string "notes.tar.gz") ["tar.gz"] = false := by
    rw [← Bool.not_eq_true, (byName source [] "notes.tar.gz" ["tar.gz"]).2]
    rintro ⟨_, isListed, -, noDot, -⟩
    cases List.mem_singleton.mp isListed
    exact noDot (by decide)
  exact ⟨listed, some, mimes, found, passes, noFile, twoParts⟩

end Files

end Rulebook
