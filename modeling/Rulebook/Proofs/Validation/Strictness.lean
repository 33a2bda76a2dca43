import Rulebook.Proofs.Validation.Walk

/-!
# Strict and lenient validation

Whether rules are strict matters only for unknown rules, those that neither table
of the registry has.  A lenient validation passes them, and a strict one rejects
every one that it comes to under a remark that no other reject carries.  So the
remarks tell what strictness adds, and without them the rejects of a strict
validation are those of the lenient one.
-/

namespace Rulebook

theorem Registry.contains_eq_false_iff {registry : Registry} {name : String} :
    registry.contains name = false ↔
      registry.presence.find? name = none ∧ registry.values.find? name = none := by
  simp [contains, Table.has]

/-- The remark of a reject is decided by a look into both tables. -/
theorem Occurrence.message_reject (registry : Registry) (occurrence : Occurrence) :
    (occurrence.reject registry).message =
      if registry.contains occurrence.call.name then none else some "unknown rule" := by
  have recorded := Judge.reject_eq ⟨registry, .default, fun _ => none⟩ occurrence
  rw [← recorded]
  rfl

namespace Judge

section

variable {registry : Registry} {resume : Bool} {patterns : PatternSource} {occurrence : Occurrence}

/-- No rule that a lenient judge finds violated is an unknown one. -/
theorem contains_of_violated
    (violated : Violated ⟨registry, ⟨resume, false⟩, patterns⟩ occurrence) :
    registry.contains occurrence.call.name = true := by
  rw [← Bool.not_eq_false, Registry.contains_eq_false_iff]
  rintro ⟨noPresence, noValue⟩
  cases violated with
  | presence found fails => simp [noPresence] at found
  | value _ found present fails => simp [noValue] at found
  | unknown _ _ strict => cases strict

/-- A strict judge adds the unknown rules, whatever the record holds. -/
theorem violated_strict_iff :
    Violated ⟨registry, ⟨resume, true⟩, patterns⟩ occurrence ↔
      Violated ⟨registry, ⟨resume, false⟩, patterns⟩ occurrence ∨
        registry.contains occurrence.call.name = false := by
  constructor
  · intro violated
    cases violated with
    | presence found fails => exact .inl (.presence found fails)
    | value noPresence found present fails => exact .inl (.value noPresence found present fails)
    | unknown noPresence noValue _ =>
        exact .inr (Registry.contains_eq_false_iff.mpr ⟨noPresence, noValue⟩)
  · rintro (violated | unknown)
    · cases violated with
      | presence found fails => exact .presence found fails
      | value noPresence found present fails => exact .value noPresence found present fails
      | unknown _ _ strict => cases strict
    · obtain ⟨noPresence, noValue⟩ := Registry.contains_eq_false_iff.mp unknown
      exact .unknown noPresence noValue rfl

end

section

variable (registry : Registry) (resume : Bool) (patterns : PatternSource)
  (occurrences : List Occurrence)

/-- The lenient rejects are the strict ones without a remark. -/
theorem rejectsOf_lenient :
    rejectsOf ⟨registry, ⟨resume, false⟩, patterns⟩ occurrences =
      (rejectsOf ⟨registry, ⟨resume, true⟩, patterns⟩ occurrences).filter
        fun reject => reject.message.isNone := by
  rw [rejectsOf, rejectsOf, List.filter_map, List.filter_filter]
  apply congrArg
  apply List.filter_congr
  intro occurrence _
  rw [Function.comp_apply, Occurrence.message_reject]
  by_cases known : registry.contains occurrence.call.name = true
  · have same : Violated ⟨registry, ⟨resume, true⟩, patterns⟩ occurrence ↔
        Violated ⟨registry, ⟨resume, false⟩, patterns⟩ occurrence := by
      simp [violated_strict_iff, known]
    simp [known, same]
  · have passed : ¬Violated ⟨registry, ⟨resume, false⟩, patterns⟩ occurrence :=
      fun violated => known (contains_of_violated violated)
    simp [known, passed]

/-- The strict rejects with a remark are those of the unknown rules, every one
of them. -/
theorem rejectsOf_strict_unknown :
    (rejectsOf ⟨registry, ⟨resume, true⟩, patterns⟩ occurrences).filter
        (fun reject => reject.message.isSome) =
      (occurrences.filter fun occurrence => !registry.contains occurrence.call.name).map
        (Occurrence.reject registry) := by
  rw [rejectsOf, List.filter_map, List.filter_filter]
  apply congrArg
  apply List.filter_congr
  intro occurrence _
  rw [Function.comp_apply, Occurrence.message_reject]
  by_cases known : registry.contains occurrence.call.name = true
  · simp [known]
  · have violated : Violated ⟨registry, ⟨resume, true⟩, patterns⟩ occurrence :=
      violated_strict_iff.mpr (.inr (by simpa using known))
    simp [known, violated]

end

/-- The rule that a reject with a remark names is in neither table. -/
theorem unknown_of_mem_rejectsOf {judge : Judge} {occurrences : List Occurrence} {reject : Reject}
    (found : reject ∈ judge.rejectsOf occurrences) (remarked : reject.message ≠ none) :
    reject.message = some "unknown rule" ∧ judge.registry.contains reject.rule = false := by
  obtain ⟨occurrence, _, rfl⟩ := List.mem_map.mp found
  rw [Occurrence.message_reject] at remarked ⊢
  change _ ∧ judge.registry.contains occurrence.call.name = false
  split at remarked
  · contradiction
  · next unknown => simpa using unknown

end Judge

namespace Validator

/-- A lenient validation has the rejects of the strict one that carry no remark, in
the same order.  The others name unknown rules and say so, one reject for each
unknown rule that a walk comes to.  So a record that a strict validation accepts
is accepted by a lenient one, whether or not failures end the walk. -/
theorem validateWith_strict_lenient (patterns : PatternSource) (registry : Registry)
    (record : Record) (rules : RuleSet) :
    let strict := fun resume => validateWith patterns ⟨registry, ⟨resume, true⟩⟩ record rules
    let lenient := fun resume => validateWith patterns ⟨registry, ⟨resume, false⟩⟩ record rules
    (lenient true).rejects =
        (strict true).rejects.filter (fun reject => reject.message.isNone) ∧
      (∀ reject ∈ (lenient true).rejects, reject.message = none) ∧
      (∀ reject ∈ (strict true).rejects, reject.message ≠ none →
        reject.message = some "unknown rule" ∧ registry.contains reject.rule = false) ∧
      (strict true).rejects.filter (fun reject => reject.message.isSome) =
        ((RuleSet.occurrences [] record rules).filter fun occurrence =>
          !registry.contains occurrence.call.name).map (Occurrence.reject registry) ∧
      ∀ resume, (strict resume).status = .success → (lenient resume).status = .success := by
  intro strict lenient
  have strictEq : (strict true).rejects = Judge.rejectsOf ⟨registry, ⟨true, true⟩, patterns⟩
      (RuleSet.occurrences [] record rules) := by
    exact congrArg Outcome.rejects (validateWith_eq patterns ⟨registry, ⟨true, true⟩⟩ record rules)
  have lenientEq : (lenient true).rejects =
      (strict true).rejects.filter (fun reject => reject.message.isNone) := by
    rw [strictEq, ← Judge.rejectsOf_lenient]
    exact congrArg Outcome.rejects (validateWith_eq patterns ⟨registry, ⟨true, false⟩⟩ record rules)
  refine ⟨lenientEq, ?_, ?_, ?_, ?_⟩
  · intro reject found
    rw [lenientEq, List.mem_filter] at found
    simpa using found.2
  · intro reject found
    rw [strictEq] at found
    exact Judge.unknown_of_mem_rejectsOf found
  · rw [strictEq, Judge.rejectsOf_strict_unknown]
  · intro resume passed
    rw [status_validateWith_eq_success_iff] at passed ⊢
    rw [Judge.rejectsOf_lenient, passed, List.filter_nil]

/-- An unknown rule for a field that is not there, and a record that passes where
the first failure would end the walk. -/
theorem validateWith_strict_lenient_never :
    let registry : Registry := ⟨[], [("never", .predicate .any fun _ _ _ => some false)]⟩
    let run := fun (strict resume : Bool) (rules : RuleSet) =>
      validateWith (fun _ => none) ⟨registry, ⟨resume, strict⟩⟩ [("age", .null)] rules
    let unknown : Reject := ⟨"", "name", "odd", [], some "unknown rule"⟩
    (unknown ∈ (run true true [("age", .rules "never"), ("name", .rules "odd")]).rejects ∧
        registry.contains unknown.rule = false) ∧
      (run true false [("name", .rules "never")]).status = .success ∧
        (run false false [("name", .rules "never")]).status = .success := by
  intro registry run unknown
  have found :
      unknown ∈ (run true true [("age", .rules "never"), ("name", .rules "odd")]).rejects := by
    decide +zetaReduce
  have passed : (run true false [("name", .rules "never")]).status = .success := by
    decide +zetaReduce
  have failing := validateWith_strict_lenient (fun _ => none) registry [("age", .null)]
    [("age", .rules "never"), ("name", .rules "odd")]
  have passing := validateWith_strict_lenient (fun _ => none) registry [("age", .null)]
    [("name", .rules "never")]
  exact ⟨⟨found, (failing.2.2.1 unknown found (by decide +zetaReduce)).2⟩, passed,
    passing.2.2.2.2 false passed⟩

end Validator

end Rulebook
