import Rulebook.Validation

/-!
# The rules that a walk comes to

A record and a rule set decide between them which rules are checked, at which
places and in which order.  This module lists them without any regard to
failing, and says apart from that when one of them is violated.

An occurrence keeps the whole chain of fields that leads to its record.  The
dotted path of a reject forgets some of it: a chain that starts with empty
names has the same path as a shorter one.
-/

namespace Rulebook

/-- A rule at a place where a walk comes to it. -/
structure Occurrence where
  /-- The fields that lead to the record, from the top. -/
  location : List String
  /-- The record at that place. -/
  record : Record
  field : String
  call : Call

namespace Occurrence

/-- The dotted path of the record. -/
def path (occurrence : Occurrence) : String :=
  occurrence.location.foldl joinPath ""

/-- The reject that names an occurrence.  It has a remark if neither table of
the registry knows the rule. -/
def reject (registry : Registry) (occurrence : Occurrence) : Reject where
  path := occurrence.path
  field := occurrence.field
  rule := occurrence.call.name
  args := occurrence.call.args
  message :=
    match registry.presence.find? occurrence.call.name,
      registry.values.find? occurrence.call.name with
    | none, none => some "unknown rule"
    | _, _ => none

end Occurrence

/-! ## Evaluation order -/

mutual

/-- The rules for one field of the record at a location.  A nested set is met
only if the field is there; a value other than an object has no fields. -/
def RuleSpec.occurrences (location : List String) (record : Record) (field : String) :
    RuleSpec → List Occurrence
  | .rules text => (Call.parse text).map fun call => ⟨location, record, field, call⟩
  | .nested fields =>
      match record.find? field with
      | some (.object child) => RuleSet.occurrences (location ++ [field]) child fields
      | some _ => RuleSet.occurrences (location ++ [field]) [] fields
      | none => []

/-- The rules of a rule set for the record at a location, field by field. -/
def RuleSet.occurrences (location : List String) (record : Record) :
    List (String × RuleSpec) → List Occurrence
  | [] => []
  | (field, spec) :: rest =>
      spec.occurrences location record field ++ RuleSet.occurrences location record rest

end

/-- One equation for a nested set whose field is there, whatever its value. -/
theorem RuleSpec.occurrences_nested_of_some {record : Record} {field : String} {value : Value}
    (present : record.find? field = some value) (location : List String)
    (fields : List (String × RuleSpec)) :
    (RuleSpec.nested fields).occurrences location record field =
      RuleSet.occurrences (location ++ [field]) value.fields fields := by
  rw [RuleSpec.occurrences, present]
  cases value <;> rfl

theorem RuleSpec.occurrences_nested_of_none {record : Record} {field : String}
    (absent : record.find? field = none) (location : List String)
    (fields : List (String × RuleSpec)) :
    (RuleSpec.nested fields).occurrences location record field = [] := by
  rw [RuleSpec.occurrences, absent]

@[simp]
theorem RuleSet.occurrences_nil (location : List String) (record : Record) :
    RuleSet.occurrences location record [] = [] :=
  rfl

@[simp]
theorem RuleSet.occurrences_cons (location : List String) (record : Record) (field : String)
    (spec : RuleSpec) (rest : List (String × RuleSpec)) :
    RuleSet.occurrences location record ((field, spec) :: rest) =
      spec.occurrences location record field ++ RuleSet.occurrences location record rest :=
  rfl

/-! ## Violations -/

/-- A presence rule fails on a wrong number of arguments or without a yes. -/
def PresenceRule.Fails (rule : PresenceRule) (record : Record) (field : String)
    (args : List String) : Prop :=
  rule.arity.accepts args.length = false ∨ rule.body record field args ≠ some true

/-- A predicate fails on a wrong number of arguments or without a yes, a pattern
if it does not match the text of the value.  A pattern that comes with the
arguments fails as well if there are none or it does not compile. -/
def ValueRule.Fails (patterns : PatternSource) (record : Record) (value : Value)
    (args : List String) : ValueRule → Prop
  | .predicate arity body =>
      arity.accepts args.length = false ∨ body record value args ≠ some true
  | .pattern regex => regex.isMatch value.stringify = false
  | .argumentPattern =>
      args = [] ∨ ∀ regex, patterns (ValueRule.patternOf args) = some regex →
        regex.isMatch value.stringify = false

theorem PresenceRule.holds_eq_false_iff (rule : PresenceRule) (record : Record) (field : String)
    (args : List String) :
    rule.holds record field args = false ↔ rule.Fails record field args := by
  simp only [PresenceRule.holds, PresenceRule.Fails, Bool.and_eq_false_iff, beq_eq_false_iff_ne]

theorem ValueRule.holds_eq_false_iff (patterns : PatternSource) (rule : ValueRule)
    (record : Record) (value : Value) (args : List String) :
    rule.holds patterns record value args = false ↔ rule.Fails patterns record value args := by
  cases rule with
  | predicate arity body =>
      simp only [ValueRule.holds, ValueRule.Fails, Bool.and_eq_false_iff, beq_eq_false_iff_ne]
  | pattern regex => rfl
  | argumentPattern =>
      simp only [ValueRule.holds, ValueRule.Fails, Bool.and_eq_false_iff]
      refine or_congr ?_ ?_
      · cases args <;> simp [Arity.accepts]
      · cases compiled : patterns (ValueRule.patternOf args) with
        | none => simp
        | some regex => simp

namespace Judge

/-- When an occurrence counts as a failure. -/
inductive Violated (judge : Judge) (occurrence : Occurrence) : Prop
  /-- A presence rule is asked whether or not the field is there. -/
  | presence {rule : PresenceRule}
      (found : judge.registry.presence.find? occurrence.call.name = some rule)
      (fails : rule.Fails occurrence.record occurrence.field occurrence.call.args)
  /-- A value rule is asked only about a value. -/
  | value {rule : ValueRule} {value : Value}
      (noPresence : judge.registry.presence.find? occurrence.call.name = none)
      (found : judge.registry.values.find? occurrence.call.name = some rule)
      (present : occurrence.record.find? occurrence.field = some value)
      (fails : rule.Fails judge.patterns occurrence.record value occurrence.call.args)
  | unknown
      (noPresence : judge.registry.presence.find? occurrence.call.name = none)
      (noValue : judge.registry.values.find? occurrence.call.name = none)
      (strict : judge.config.strictRules = true)

/-- The verdict on a rule is a failure exactly where the rule is violated. -/
theorem passes_eq_false_iff (judge : Judge) (occurrence : Occurrence) :
    judge.passes occurrence.record occurrence.field occurrence.call = false ↔
      judge.Violated occurrence := by
  constructor
  · intro failed
    unfold passes at failed
    cases presence : judge.registry.presence.find? occurrence.call.name with
    | some rule =>
        rw [presence] at failed
        exact .presence presence ((rule.holds_eq_false_iff _ _ _).mp failed)
    | none =>
        rw [presence] at failed
        cases values : judge.registry.values.find? occurrence.call.name with
        | none =>
            rw [values] at failed
            exact .unknown presence values (by simpa using failed)
        | some rule =>
            rw [values] at failed
            cases present : occurrence.record.find? occurrence.field with
            | none => simp [present] at failed
            | some value =>
                rw [present] at failed
                exact .value presence values present
                  ((rule.holds_eq_false_iff _ _ _ _).mp failed)
  · rintro (⟨found, fails⟩ | ⟨noPresence, found, present, fails⟩ | ⟨noPresence, noValue, strict⟩)
    · simp only [passes, found]
      exact (PresenceRule.holds_eq_false_iff _ _ _ _).mpr fails
    · simp only [passes, noPresence, found, present]
      exact (ValueRule.holds_eq_false_iff _ _ _ _ _).mpr fails
    · simp only [passes, noPresence, noValue, strict]
      rfl

instance (judge : Judge) : DecidablePred judge.Violated := fun occurrence =>
  decidable_of_iff _ (judge.passes_eq_false_iff occurrence)

/-- The reject that a walk records names the occurrence. -/
theorem reject_eq (judge : Judge) (occurrence : Occurrence) :
    judge.reject occurrence.path occurrence.field occurrence.call =
      occurrence.reject judge.registry := by
  unfold reject Occurrence.reject Registry.contains Table.has
  cases judge.registry.presence.find? occurrence.call.name <;>
    cases judge.registry.values.find? occurrence.call.name <;> rfl

end Judge

end Rulebook
