import Rulebook.Proofs.Validation.Level
import Rulebook.Proofs.Validation.Walk

/-!
# Paths of nested records

To validate a nested record is to validate it by itself and to put the name of its
field before the paths of the rejects.  Where names are not empty and hold no dots,
a dotted path has all that there is to say about the way to a field.
-/

namespace Rulebook

/-! ## Dotted paths -/

/-- A path as it is seen from the record around, where it starts at a field. -/
def prefixPath (name path : String) : String :=
  if path.isEmpty then name else name ++ "." ++ path

/-- The names that the dots of a text separate. -/
def dottedNames (text : String) : List String :=
  (text.split '.').toList.map String.Slice.copy

@[simp]
theorem joinPath_empty (field : String) : joinPath "" field = field :=
  rfl

theorem joinPath_of_ne_empty {path : String} (nonempty : path ≠ "") (field : String) :
    joinPath path field = path ++ "." ++ field := by
  rw [joinPath, if_neg (by simpa using nonempty)]

theorem prefixPath_of_ne_empty (name : String) {path : String} (nonempty : path ≠ "") :
    prefixPath name path = name ++ "." ++ path := by
  rw [prefixPath, if_neg (by simpa using nonempty)]

theorem intercalate_cons_ne_empty {first : String} (nonempty : first ≠ "") (names : List String) :
    ".".intercalate (first :: names) ≠ "" := by
  cases names with
  | nil => simpa using nonempty
  | cons name names => simp [nonempty]

/-- The special case of the empty path does not come up again behind a name. -/
theorem foldl_joinPath_of_ne_empty {first : String} (nonempty : first ≠ "") (names : List String) :
    names.foldl joinPath first = ".".intercalate (first :: names) := by
  induction names generalizing first with
  | nil => simp
  | cons name names ih =>
      have joined : first ++ "." ++ name ≠ "" := by simp [nonempty]
      rw [List.foldl_cons, joinPath_of_ne_empty nonempty, ih joined,
        String.intercalate_cons_append, ← String.intercalate_cons_cons]

theorem foldl_joinPath_eq_intercalate {names : List String}
    (named : ∀ name ∈ names.head?, name ≠ "") :
    names.foldl joinPath "" = ".".intercalate names := by
  cases names with
  | nil => rfl
  | cons name names =>
      rw [List.foldl_cons, joinPath_empty, foldl_joinPath_of_ne_empty (named name rfl)]

/-- The path of a chain with a name before it. -/
theorem foldl_joinPath_cons {name : String} (nonempty : name ≠ "") {names : List String}
    (named : ∀ first ∈ names.head?, first ≠ "") :
    (name :: names).foldl joinPath "" = prefixPath name (names.foldl joinPath "") := by
  rw [foldl_joinPath_eq_intercalate (by simpa using nonempty), foldl_joinPath_eq_intercalate named]
  cases names with
  | nil => rfl
  | cons first names =>
      rw [prefixPath_of_ne_empty name (intercalate_cons_ne_empty (named first rfl) names),
        String.intercalate_cons_cons]

theorem dottedNames_foldl_joinPath {names : List String} (nonempty : names ≠ [])
    (plain : ∀ name ∈ names, name ≠ "" ∧ '.' ∉ name.toList) :
    dottedNames (names.foldl joinPath "") = names := by
  have named : ∀ name ∈ names.head?, name ≠ "" := fun name isHead =>
    (plain name (List.mem_of_mem_head? isHead)).1
  rw [foldl_joinPath_eq_intercalate named]
  have separated := String.toList_split_intercalate (c := '.') fun name isName =>
    (plain name isName).2
  rwa [if_neg nonempty] at separated

/-! ## Occurrences in a nested record -/

namespace Occurrence

/-- The fields that lead from the top to the field of an occurrence. -/
def chain (occurrence : Occurrence) : List String :=
  occurrence.location ++ [occurrence.field]

/-- An occurrence as it is seen from the record around. -/
def below (name : String) (occurrence : Occurrence) : Occurrence :=
  { occurrence with location := name :: occurrence.location }

theorem fullPath_reject (registry : Registry) (occurrence : Occurrence) :
    (occurrence.reject registry).fullPath = occurrence.chain.foldl joinPath "" := by
  rw [chain, List.foldl_append]
  rfl

end Occurrence

mutual

theorem RuleSpec.occurrences_cons_location (name : String) (location : List String)
    (record : Record) (field : String) :
    ∀ spec : RuleSpec, spec.occurrences (name :: location) record field =
      (spec.occurrences location record field).map (Occurrence.below name)
  | .rules text => by
      simp only [RuleSpec.occurrences, List.map_map]
      rfl
  | .nested fields => by
      cases present : record.find? field with
      | none => simp only [RuleSpec.occurrences_nested_of_none present, List.map_nil]
      | some value =>
          simp only [RuleSpec.occurrences_nested_of_some present]
          exact RuleSet.occurrences_cons_location name (location ++ [field]) value.fields fields

/-- A walk comes to the same rules whatever leads to its record. -/
theorem RuleSet.occurrences_cons_location (name : String) (location : List String)
    (record : Record) :
    ∀ fields : List (String × RuleSpec), RuleSet.occurrences (name :: location) record fields =
      (RuleSet.occurrences location record fields).map (Occurrence.below name)
  | [] => rfl
  | (field, spec) :: rest => by
      rw [RuleSet.occurrences_cons, RuleSet.occurrences_cons, List.map_append,
        RuleSpec.occurrences_cons_location name location record field spec,
        RuleSet.occurrences_cons_location name location record rest]

end

namespace Judge

/-- The verdict on a rule does not depend on what leads to its record. -/
theorem violated_below_iff {judge : Judge} {name : String} {occurrence : Occurrence} :
    judge.Violated (occurrence.below name) ↔ judge.Violated occurrence := by
  rw [← passes_eq_false_iff, ← passes_eq_false_iff]
  rfl

theorem rejectsOf_below (judge : Judge) {name : String} (nonempty : name ≠ "")
    {occurrences : List Occurrence}
    (named : ∀ occurrence ∈ occurrences, ∀ first ∈ occurrence.location.head?, first ≠ "") :
    judge.rejectsOf (occurrences.map (Occurrence.below name)) =
      (judge.rejectsOf occurrences).map fun reject =>
        { reject with path := prefixPath name reject.path } := by
  simp only [rejectsOf, List.filter_map, List.map_map, Function.comp_def, violated_below_iff]
  apply List.map_congr_left
  intro occurrence kept
  have pathEq : (occurrence.below name).path = prefixPath name occurrence.path :=
    foldl_joinPath_cons nonempty (named occurrence (List.mem_filter.mp kept).1)
  simp only [Occurrence.reject, pathEq]
  rfl

end Judge

/-! ## Nested validations -/

namespace RuleSet

/-- The first name on the way to an occurrence is that of a field with a nested set. -/
theorem head?_location_ne_empty {rules : RuleSet} {record : Record}
    (unnamed : ∀ fields, ("", RuleSpec.nested fields) ∉ rules) :
    ∀ occurrence ∈ RuleSet.occurrences [] record rules,
      ∀ first ∈ occurrence.location.head?, first ≠ "" := by
  rintro occurrence isMember first isFirst rfl
  obtain ⟨level, text, reaches, _⟩ := writtenIn_of_mem_occurrences isMember
  revert isFirst reaches
  generalize occurrence.location = chain
  intro isFirst reaches
  cases reaches with
  | top => simp at isFirst
  | nested here below =>
      rw [List.head?_cons, Option.mem_def, Option.some.injEq] at isFirst
      exact unnamed _ (isFirst ▸ here)

/-- Every name of a chain is a field of a level on the way. -/
theorem Reaches.mem_names {rules level : RuleSet} {chain : List String}
    (reaches : rules.Reaches chain level) :
    ∀ name ∈ chain, ∃ before outer, rules.Reaches before outer ∧ name ∈ outer.names := by
  induction reaches with
  | top rules => simp
  | @nested rules fields level name chain here below ih =>
      rw [List.forall_mem_cons]
      constructor
      · exact ⟨[], rules, .top rules, List.mem_map_of_mem here⟩
      · intro other isOther
        obtain ⟨before, outer, reachesOuter, isName⟩ := ih other isOther
        exact ⟨name :: before, outer, .nested here reachesOuter, isName⟩

end RuleSet

theorem Walk.rejects_through_map (resume : Bool) (change : Reject → Reject)
    (rejects : List Reject) :
    (through resume (rejects.map change)).rejects =
      (through resume rejects).rejects.map change := by
  cases resume with
  | true => rfl
  | false => exact List.map_take.symm

theorem Walk.rejects_through_subset (resume : Bool) (rejects : List Reject) :
    (through resume rejects).rejects ⊆ rejects := by
  cases resume with
  | true => exact List.Subset.refl rejects
  | false => exact List.take_subset 1 rejects

namespace Validator

/-- The rejects of a nested record are those of the record by itself, with the name of
its field before their paths.  So the names in the full path of a reject are those of
the fields that lead to it, if no name is empty or has a dot in it, and rejects of
different fields have different full paths. -/
theorem validateWith_nested (patterns : PatternSource) (validator : Validator) (record : Record) :
    (∀ (field : String) (value : Value) (nested : RuleSet),
        field ≠ "" → record.find? field = some value →
        (∀ fields, ("", RuleSpec.nested fields) ∉ nested) →
        (validator.validateWith patterns record [(field, .nested nested)]).rejects =
          (validator.validateWith patterns value.fields nested).rejects.map fun reject =>
            { reject with path := prefixPath field reject.path }) ∧
      ∀ rules : RuleSet,
        (∀ chain level, rules.Reaches chain level →
          ∀ name ∈ level.names, name ≠ "" ∧ '.' ∉ name.toList) →
        (∀ reject ∈ (validator.validateWith patterns record rules).rejects,
            ∃ occurrence ∈ RuleSet.occurrences [] record rules,
              occurrence.WrittenIn rules ∧ reject = occurrence.reject validator.registry ∧
                dottedNames reject.fullPath = occurrence.chain) ∧
          ∀ first ∈ RuleSet.occurrences [] record rules,
            ∀ second ∈ RuleSet.occurrences [] record rules,
              (first.reject validator.registry).fullPath =
                  (second.reject validator.registry).fullPath →
                first.location = second.location ∧ first.field = second.field := by
  constructor
  · intro field value nested nonempty present unnamed
    have occurrencesEq : RuleSet.occurrences [] record [(field, .nested nested)] =
        (RuleSet.occurrences [] value.fields nested).map (Occurrence.below field) := by
      rw [RuleSet.occurrences_cons, RuleSet.occurrences_nil, List.append_nil,
        RuleSpec.occurrences_nested_of_some present, List.nil_append,
        RuleSet.occurrences_cons_location]
    rw [rejects_validateWith, rejects_validateWith, occurrencesEq,
      Judge.rejectsOf_below _ nonempty (RuleSet.head?_location_ne_empty unnamed),
      Walk.rejects_through_map]
  · intro rules plain
    have namesEq : ∀ occurrence ∈ RuleSet.occurrences [] record rules,
        dottedNames (occurrence.reject validator.registry).fullPath = occurrence.chain := by
      intro occurrence isMember
      obtain ⟨level, text, reaches, isEntry, _⟩ := RuleSet.writtenIn_of_mem_occurrences isMember
      rw [Occurrence.fullPath_reject]
      apply dottedNames_foldl_joinPath (by simp [Occurrence.chain])
      intro name isName
      rw [Occurrence.chain, List.mem_append, List.mem_singleton] at isName
      rcases isName with onTheWay | rfl
      · obtain ⟨before, outer, reachesOuter, isField⟩ := reaches.mem_names name onTheWay
        exact plain before outer reachesOuter name isField
      · exact plain _ level reaches _ (List.mem_map_of_mem isEntry)
    constructor
    · intro reject found
      rw [rejects_validateWith] at found
      obtain ⟨occurrence, kept, rfl⟩ :=
        List.mem_map.mp (Walk.rejects_through_subset _ _ found)
      have isMember := (List.mem_filter.mp kept).1
      exact ⟨occurrence, isMember, RuleSet.writtenIn_of_mem_occurrences isMember, rfl,
        namesEq occurrence isMember⟩
    · intro first isFirst second isSecond pathEq
      have chainEq : first.chain = second.chain := by
        rw [← namesEq first isFirst, ← namesEq second isSecond, pathEq]
      have parts := List.append_inj' chainEq rfl
      exact ⟨parts.1, List.singleton_inj.mp parts.2⟩

/-- A field that is missed two levels down, in a record that is not there. -/
theorem validateWith_nested_city :
    let validator : Validator := withConfig ⟨true, false⟩
    let home : RuleSet := [("home", .nested [("city", .rules "required")])]
    let record : Record := [("user", .object [("home", .null)])]
    let missed : Reject := ⟨"user.home", "city", "required", [], none⟩
    ("user" ≠ "" ∧ record.find? "user" = some (.object [("home", .null)]) ∧
        (∀ fields, ("", RuleSpec.nested fields) ∉ home) ∧
        (validator.validateWith (fun _ => none) record [("user", .nested home)]).rejects =
          (validator.validateWith (fun _ => none) [("home", .null)] home).rejects.map fun reject =>
            { reject with path := prefixPath "user" reject.path }) ∧
      (∀ chain level, RuleSet.Reaches [("user", .nested home)] chain level →
          ∀ name ∈ level.names, name ≠ "" ∧ '.' ∉ name.toList) ∧
        missed ∈
            (validator.validateWith (fun _ => none) record [("user", .nested home)]).rejects ∧
          ∃ occurrence ∈ RuleSet.occurrences [] record [("user", .nested home)],
            occurrence.WrittenIn [("user", .nested home)] ∧
              missed = occurrence.reject validator.registry ∧
                dottedNames missed.fullPath = occurrence.chain := by
  intro validator home record missed
  have unnamed : ∀ fields, ("", RuleSpec.nested fields) ∉ home := by simp [home]
  have plain : ∀ chain level, RuleSet.Reaches [("user", .nested home)] chain level →
      ∀ name ∈ level.names, name ≠ "" ∧ '.' ∉ name.toList := by
    intro chain level reaches
    cases reaches with
    | top => simp
    | nested here below =>
        simp only [List.mem_singleton, Prod.mk.injEq, RuleSpec.nested.injEq] at here
        rw [here.2] at below
        cases below with
        | top => simp [home]
        | nested here below =>
            simp only [home, List.mem_singleton, Prod.mk.injEq, RuleSpec.nested.injEq] at here
            rw [here.2] at below
            cases below with
            | top => simp
            | nested here below => simp at here
  have found : missed ∈
      (validator.validateWith (fun _ => none) record [("user", .nested home)]).rejects := by
    decide +zetaReduce
  have nested := validateWith_nested (fun _ => none) validator record
  exact ⟨⟨by decide, rfl, unnamed, nested.1 "user" _ home (by decide) rfl unnamed⟩, plain, found,
    (nested.2 _ plain).1 missed found⟩

end Validator

end Rulebook
