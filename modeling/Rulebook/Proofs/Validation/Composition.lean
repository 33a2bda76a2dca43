import Rulebook.Proofs.RuleString.Scan
import Rulebook.Proofs.Validation.Level
import Rulebook.Proofs.Validation.Walk

/-!
# Validation by rules put together

Rules are put together by the fields of one rule set after those of another, or by
a bar between two rule strings of one field.  Either way a walk comes to the rules of
the first part and then to those of the second, whatever the record is and however
deep the rules are nested.  So the rejects of the whole are those of the parts, one
after the other, or the first of them where a failure ends the walk.
-/

namespace Rulebook

/-! ## Parts of a rule set -/

namespace RuleSet

/-- A walk through a rule set comes to what a walk through its first part and then
one through its second part come to. -/
def Splits (whole first second : RuleSet) : Prop :=
  ∀ (location : List String) (record : Record),
    RuleSet.occurrences location record whole =
      RuleSet.occurrences location record first ++ RuleSet.occurrences location record second

theorem splits_append (first second : RuleSet) : Splits (first ++ second) first second := by
  intro location record
  induction first with
  | nil => rfl
  | cons entry first ih =>
      rw [List.cons_append, occurrences_cons, occurrences_cons, ih, List.append_assoc]

/-- Inserting the fields of another rule set puts them behind the ones that are there. -/
theorem splits_insertAll {first second : RuleSet} (distinct : second.Distinct)
    (disjoint : ∀ name ∈ second.names, name ∉ first.names) :
    Splits (first.insertAll second) first second := by
  rw [Table.insertAll_eq_append distinct disjoint]
  exact splits_append first second

theorem splits_bar (field : String) {first : String} (closed : first.toList.getLast? ≠ some '\\')
    (second : String) :
    Splits [(field, .rules (first ++ "|" ++ second))] [(field, .rules first)]
      [(field, .rules second)] := by
  intro location record
  simp only [occurrences_cons, occurrences_nil, List.append_nil, RuleSpec.occurrences,
    Call.parse_bar closed, List.map_append]

theorem Splits.nested {whole first second : RuleSet} (splits : Splits whole first second)
    (name : String) :
    Splits [(name, .nested whole)] [(name, .nested first)] [(name, .nested second)] := by
  intro location record
  simp only [occurrences_cons, occurrences_nil, List.append_nil]
  cases present : record.find? name with
  | none => simp only [RuleSpec.occurrences_nested_of_none present, List.append_nil]
  | some value =>
      simp only [RuleSpec.occurrences_nested_of_some present]
      exact splits (location ++ [name]) value.fields

theorem Splits.under {whole first second : RuleSet} (splits : Splits whole first second)
    (chain : List String) :
    Splits (RuleSet.under chain whole) (RuleSet.under chain first)
      (RuleSet.under chain second) := by
  induction chain with
  | nil => exact splits
  | cons name chain ih => exact ih.nested name

end RuleSet

/-! ## Rejects -/

/-- A walk through failures one after the other finds those of the first part, and
those of the second unless the first ended it. -/
theorem Walk.rejects_through_append (first second : List Reject) :
    (through true (first ++ second)).rejects =
        (through true first).rejects ++ (through true second).rejects ∧
      (through false (first ++ second)).rejects =
        if (through false first).rejects = [] then (through false second).rejects
        else (through false first).rejects := by
  refine ⟨rfl, ?_⟩
  cases first with
  | nil => rfl
  | cons reject rest => rfl

namespace Validator

/-- How the rejects by a rule set come about from the rejects by its parts, where
`rejects` tells the rejects of a validation that resumes after failures or not. -/
structure Composes (rejects : Bool → RuleSet → List Reject) (whole first second : RuleSet) :
    Prop where
  resume : rejects true whole = rejects true first ++ rejects true second
  stop : rejects false whole =
    if rejects false first = [] then rejects false second else rejects false first

theorem composes_of_splits (patterns : PatternSource) (registry : Registry) (strict : Bool)
    (record : Record) {whole first second : RuleSet}
    (splits : RuleSet.Splits whole first second) :
    Composes
      (fun resume rules =>
        (validateWith patterns ⟨registry, ⟨resume, strict⟩⟩ record rules).rejects)
      whole first second := by
  constructor
  · simp only [rejects_validateWith, splits [] record, Judge.rejectsOf_append]
    exact (Walk.rejects_through_append _ _).1
  · simp only [rejects_validateWith, splits [] record, Judge.rejectsOf_append]
    exact (Walk.rejects_through_append _ _).2

/-- Rules for different fields, and rule strings with a bar between them, compose at
every depth: the rejects by the whole are those by the first part followed by those
by the second, and where the first failure ends a validation they are those by the
first part if there are any. -/
theorem validateWith_composes (patterns : PatternSource) (registry : Registry) (strict : Bool)
    (record : Record) (chain : List String) :
    let rejects := fun (resume : Bool) (rules : RuleSet) =>
      (validateWith patterns ⟨registry, ⟨resume, strict⟩⟩ record (rules.under chain)).rejects
    (∀ first second : RuleSet, second.Distinct → (∀ name ∈ second.names, name ∉ first.names) →
        Composes rejects (first.insertAll second) first second) ∧
      ∀ field first second : String, first.toList.getLast? ≠ some '\\' →
        Composes rejects [(field, .rules (first ++ "|" ++ second))] [(field, .rules first)]
          [(field, .rules second)] := by
  intro rejects
  have ofSplits : ∀ {whole first second : RuleSet}, RuleSet.Splits whole first second →
      Composes rejects whole first second := by
    intro whole first second splits
    have composed := composes_of_splits patterns registry strict record (splits.under chain)
    exact ⟨composed.resume, composed.stop⟩
  constructor
  · intro first second distinct disjoint
    exact ofSplits (RuleSet.splits_insertAll distinct disjoint)
  · intro field first second closed
    exact ofSplits (RuleSet.splits_bar field closed second)

/-- An unknown rule whose name has a bar in it, and a rule that fails after it. -/
theorem validateWith_composes_never :
    let registry : Registry := ⟨[], [("never", .predicate .any fun _ _ _ => some false)]⟩
    let rejects := fun (resume : Bool) (rules : RuleSet) =>
      (validateWith (fun _ => none) ⟨registry, ⟨resume, true⟩⟩
        [("user", .object [("age", .null)])] (rules.under ["user"])).rejects
    let named : RuleSet := [("name", .rules "odd")]
    let aged : RuleSet := [("age", .rules "never")]
    (aged.Distinct ∧ (∀ name ∈ aged.names, name ∉ named.names) ∧
        Composes rejects (named.insertAll aged) named aged) ∧
      "odd\\|x".toList.getLast? ≠ some '\\' ∧
        Composes rejects [("age", .rules ("odd\\|x" ++ "|" ++ "never"))]
          [("age", .rules "odd\\|x")] aged := by
  intro registry rejects named aged
  have distinct : aged.Distinct := List.pairwise_singleton _ "age"
  have disjoint : ∀ name ∈ aged.names, name ∉ named.names := by decide +zetaReduce
  have closed : "odd\\|x".toList.getLast? ≠ some '\\' := by decide
  have composed := validateWith_composes (fun _ => none) registry true
    [("user", .object [("age", .null)])] ["user"]
  exact ⟨⟨distinct, disjoint, composed.1 named aged distinct disjoint⟩, closed,
    composed.2 "age" "odd\\|x" "never" closed⟩

end Validator

end Rulebook
