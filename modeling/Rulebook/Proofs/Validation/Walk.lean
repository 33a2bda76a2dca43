import Rulebook.Proofs.Validation.Occurrence
import Rulebook.Validator

/-!
# What a walk finds

A walk that resumes after a failure finds all violated occurrences in the order
in which it comes to them.  A walk that does not resume finds the first of them,
at whatever depth it is.  Both follow from one description of a walk: its policy
decides only how much is kept of the same list of rejects.
-/

namespace Rulebook

namespace Walk

/-- The walk through failures that have these rejects.  One that does not
resume keeps the first reject and ends there. -/
def through (resume : Bool) (rejects : List Reject) : Walk :=
  if resume then ⟨rejects, false⟩ else ⟨rejects.take 1, !rejects.isEmpty⟩

@[simp]
theorem through_nil (resume : Bool) : through resume [] = clear := by
  cases resume <;> rfl

/-- A stop at any depth is a stop of the whole: two parts of a walk find what a
walk through both lists of failures finds. -/
theorem through_andThen (resume : Bool) (first second : List Reject) :
    (through resume first).andThen (fun _ => through resume second) =
      through resume (first ++ second) := by
  cases resume with
  | true => rfl
  | false =>
      cases first with
      | nil => simp [through, andThen]
      | cons reject rest => simp [through, andThen]

/-- No policy makes rejects disappear altogether. -/
theorem rejects_through_eq_nil_iff {resume : Bool} {rejects : List Reject} :
    (through resume rejects).rejects = [] ↔ rejects = [] := by
  cases resume <;> simp [through]

end Walk

namespace Judge

/-- The rejects of the violated ones among some occurrences. -/
def rejectsOf (judge : Judge) (occurrences : List Occurrence) : List Reject :=
  (occurrences.filter fun occurrence => judge.Violated occurrence).map
    (Occurrence.reject judge.registry)

@[simp]
theorem rejectsOf_nil (judge : Judge) : judge.rejectsOf [] = [] :=
  rfl

@[simp]
theorem rejectsOf_append (judge : Judge) (first second : List Occurrence) :
    judge.rejectsOf (first ++ second) = judge.rejectsOf first ++ judge.rejectsOf second := by
  simp [rejectsOf]

theorem rejectsOf_cons_of_passes {judge : Judge} {occurrence : Occurrence}
    (passed : judge.passes occurrence.record occurrence.field occurrence.call = true)
    (rest : List Occurrence) :
    judge.rejectsOf (occurrence :: rest) = judge.rejectsOf rest := by
  have kept : ¬judge.Violated occurrence := by
    rw [← passes_eq_false_iff, passed]
    decide
  simp [rejectsOf, kept]

theorem rejectsOf_cons_of_violated {judge : Judge} {occurrence : Occurrence}
    (violated : judge.Violated occurrence) (rest : List Occurrence) :
    judge.rejectsOf (occurrence :: rest) =
      occurrence.reject judge.registry :: judge.rejectsOf rest := by
  simp [rejectsOf, violated]

/-- Whether a walk resumes has no part in which rules are violated. -/
theorem rejectsOf_resumeOnFailed (registry : Registry) (first second strict : Bool)
    (patterns : PatternSource) (occurrences : List Occurrence) :
    rejectsOf ⟨registry, ⟨first, strict⟩, patterns⟩ occurrences =
      rejectsOf ⟨registry, ⟨second, strict⟩, patterns⟩ occurrences := by
  have same : ∀ occurrence,
      Violated ⟨registry, ⟨first, strict⟩, patterns⟩ occurrence ↔
        Violated ⟨registry, ⟨second, strict⟩, patterns⟩ occurrence := by
    intro occurrence
    rw [← passes_eq_false_iff, ← passes_eq_false_iff]
    rfl
  simp only [rejectsOf, same]

theorem walkCalls_eq (judge : Judge) (location : List String) (record : Record) (field : String)
    (calls : List Call) :
    judge.walkCalls record (location.foldl joinPath "") field calls =
      .through judge.config.resumeOnFailed
        (judge.rejectsOf (calls.map fun call => ⟨location, record, field, call⟩)) := by
  induction calls with
  | nil => simp [walkCalls]
  | cons call calls ih =>
      rw [walkCalls, List.map_cons]
      split
      · next passed => rw [rejectsOf_cons_of_passes passed, ih]
      · next failed =>
          have violated : judge.Violated ⟨location, record, field, call⟩ :=
            (judge.passes_eq_false_iff _).mp (by simpa using failed)
          have found : (⟨[judge.reject (location.foldl joinPath "") field call],
              !judge.config.resumeOnFailed⟩ : Walk) =
                .through judge.config.resumeOnFailed
                  [Occurrence.reject judge.registry ⟨location, record, field, call⟩] := by
            rw [← judge.reject_eq ⟨location, record, field, call⟩]
            cases judge.config.resumeOnFailed <;> rfl
          rw [rejectsOf_cons_of_violated violated, found, ih, Walk.through_andThen,
            List.singleton_append]

mutual

/-- A walk through the rules for a field finds the violated ones among them. -/
theorem walkSpec_eq (judge : Judge) (location : List String) (record : Record) (field : String) :
    ∀ spec : RuleSpec,
      judge.walkSpec record (location.foldl joinPath "") field spec =
        .through judge.config.resumeOnFailed
          (judge.rejectsOf (spec.occurrences location record field))
  | .rules text => judge.walkCalls_eq location record field (Call.parse text)
  | .nested fields => by
      rw [walkSpec]
      cases present : record.find? field with
      | none => simp [RuleSpec.occurrences_nested_of_none present]
      | some value =>
          have nested := walkFields_eq judge (location ++ [field]) value.fields fields
          rw [List.foldl_append] at nested
          rw [RuleSpec.occurrences_nested_of_some present]
          exact nested

/-- A walk through a rule set finds the violated rules at all levels. -/
theorem walkFields_eq (judge : Judge) (location : List String) (record : Record) :
    ∀ fields : List (String × RuleSpec),
      judge.walkFields record (location.foldl joinPath "") fields =
        .through judge.config.resumeOnFailed
          (judge.rejectsOf (RuleSet.occurrences location record fields))
  | [] => by simp [walkFields]
  | (field, spec) :: rest => by
      rw [walkFields, walkSpec_eq judge location record field spec,
        walkFields_eq judge location record rest, Walk.through_andThen,
        RuleSet.occurrences_cons, rejectsOf_append]

end

/-! Walks for two records -/

section

variable {judge : Judge} {first second : Record} {path field : String}

theorem walkCalls_congr {calls : List Call}
    (same : ∀ call ∈ calls, judge.passes first field call = judge.passes second field call) :
    judge.walkCalls first path field calls = judge.walkCalls second path field calls := by
  induction calls with
  | nil => rfl
  | cons call calls ih =>
      rw [List.forall_mem_cons] at same
      rw [walkCalls, walkCalls, same.1, ih same.2]

theorem walkSpec_nested_congr {fields : List (String × RuleSpec)}
    (same : Option.Rel (fun a b =>
        judge.walkFields a.fields (joinPath path field) fields =
          judge.walkFields b.fields (joinPath path field) fields)
      (first.find? field) (second.find? field)) :
    judge.walkSpec first path field (.nested fields) =
      judge.walkSpec second path field (.nested fields) := by
  rw [walkSpec, walkSpec]
  cases atFirst : first.find? field <;> cases atSecond : second.find? field <;>
    simp_all

theorem walkFields_congr {fields : List (String × RuleSpec)}
    (same : ∀ field spec, (field, spec) ∈ fields →
      judge.walkSpec first path field spec = judge.walkSpec second path field spec) :
    judge.walkFields first path fields = judge.walkFields second path fields := by
  induction fields with
  | nil => rfl
  | cons entry fields ih =>
      obtain ⟨field, spec⟩ := entry
      have here := same field spec List.mem_cons_self
      have rest := ih fun other otherSpec isLater =>
        same other otherSpec (List.mem_cons_of_mem _ isLater)
      rw [walkFields, walkFields, here, rest]

end

end Judge

namespace Validator

/-- Records for which the walks are the same have the same outcome. -/
theorem validateWith_congr {patterns : PatternSource} {validator : Validator}
    {first second : Record} {rules : RuleSet}
    (same : Judge.walkFields ⟨validator.registry, validator.config, patterns⟩ first "" rules =
      Judge.walkFields ⟨validator.registry, validator.config, patterns⟩ second "" rules) :
    validator.validateWith patterns first rules = validator.validateWith patterns second rules :=
  congrArg (fun walk : Walk => Outcome.ofRejects walk.rejects) same

/-- The outcome of a validation, which its configuration cuts to the first
reject or not. -/
theorem validateWith_eq (patterns : PatternSource) (validator : Validator) (record : Record)
    (rules : RuleSet) :
    validator.validateWith patterns record rules =
      .ofRejects (Walk.through validator.config.resumeOnFailed
        (Judge.rejectsOf ⟨validator.registry, validator.config, patterns⟩
          (RuleSet.occurrences [] record rules))).rejects := by
  have found := Judge.walkFields_eq ⟨validator.registry, validator.config, patterns⟩ [] record rules
  exact congrArg (fun walk : Walk => Outcome.ofRejects walk.rejects) found

theorem rejects_validateWith (patterns : PatternSource) (validator : Validator) (record : Record)
    (rules : RuleSet) :
    (validator.validateWith patterns record rules).rejects =
      (Walk.through validator.config.resumeOnFailed
        (Judge.rejectsOf ⟨validator.registry, validator.config, patterns⟩
          (RuleSet.occurrences [] record rules))).rejects := by
  rw [validateWith_eq, Outcome.rejects_ofRejects]

/-- A validation succeeds exactly if no rule that a walk comes to is violated. -/
theorem status_validateWith_eq_success_iff {patterns : PatternSource} {validator : Validator}
    {record : Record} {rules : RuleSet} :
    (validator.validateWith patterns record rules).status = .success ↔
      Judge.rejectsOf ⟨validator.registry, validator.config, patterns⟩
        (RuleSet.occurrences [] record rules) = [] := by
  rw [validateWith_eq, Outcome.status_ofRejects_eq_success_iff, Walk.rejects_through_eq_nil_iff]

/-- A validation that resumes after failures rejects the violated occurrences,
every one of them and nothing else, in the order in which a walk comes to them. -/
theorem rejects_validateWith_resume (patterns : PatternSource) (registry : Registry)
    (strict : Bool) (record : Record) (rules : RuleSet) :
    (validateWith patterns ⟨registry, ⟨true, strict⟩⟩ record rules).rejects =
      ((RuleSet.occurrences [] record rules).filter fun occurrence =>
        Judge.Violated ⟨registry, ⟨true, strict⟩, patterns⟩ occurrence).map
          (Occurrence.reject registry) := by
  rw [validateWith_eq]
  rfl

/-- A validation that ends at the first failure has the first reject of the one
that resumes, or none if that has none, and the same status. -/
theorem validateWith_stop_eq_first (patterns : PatternSource) (registry : Registry)
    (strict : Bool) (record : Record) (rules : RuleSet) :
    let all := validateWith patterns ⟨registry, ⟨true, strict⟩⟩ record rules
    let first := validateWith patterns ⟨registry, ⟨false, strict⟩⟩ record rules
    first.rejects = all.firstReject?.toList ∧ first.status = all.status := by
  intro all first
  have allEq : all = .ofRejects (Judge.rejectsOf ⟨registry, ⟨true, strict⟩, patterns⟩
      (RuleSet.occurrences [] record rules)) := by
    exact validateWith_eq patterns ⟨registry, ⟨true, strict⟩⟩ record rules
  have firstEq : first = .ofRejects ((Judge.rejectsOf ⟨registry, ⟨true, strict⟩, patterns⟩
      (RuleSet.occurrences [] record rules)).take 1) := by
    rw [Judge.rejectsOf_resumeOnFailed registry true false]
    exact validateWith_eq patterns ⟨registry, ⟨false, strict⟩⟩ record rules
  rw [allEq, firstEq]
  cases Judge.rejectsOf ⟨registry, ⟨true, strict⟩, patterns⟩
      (RuleSet.occurrences [] record rules) with
  | nil => exact ⟨rfl, rfl⟩
  | cons reject rest => exact ⟨rfl, rfl⟩

end Validator

end Rulebook
