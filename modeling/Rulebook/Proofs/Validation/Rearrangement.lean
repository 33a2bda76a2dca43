import Rulebook.Proofs.Validation.Walk

/-!
# Rule sets in another order

Equal rule sets have the same rules for the same fields at every level, whatever the
order of the fields is.  A walk comes to the same rules of both, at the same places and
as often, in an order of its own.  So the order of fields has no part in whether a record
passes and in what is found to be wrong with it.  It decides only which failure is the
first one.
-/

namespace Rulebook

/-- An entry that is found can be taken out and put first.  Names other than its own
have the same entries without it. -/
theorem Table.perm_cons_of_find?_eq_some {α : Type} {table : Table α} {name : String} {entry : α}
    (found : table.find? name = some entry) :
    ∃ rest : Table α, table.Perm ((name, entry) :: rest) ∧
      ∀ other, other ≠ name → rest.find? other = table.find? other := by
  induction table with
  | nil => contradiction
  | cons head table ih =>
      obtain ⟨first, old⟩ := head
      rw [find?_cons] at found
      split at found
      · next isHead =>
          subst isHead
          rw [Option.some.injEq] at found
          subst found
          refine ⟨table, List.Perm.refl _, fun other differs => ?_⟩
          rw [find?_cons, if_neg (Ne.symm differs)]
      · obtain ⟨rest, reordered, others⟩ := ih found
        refine ⟨(first, old) :: rest, ?_, fun other differs => ?_⟩
        · exact (reordered.cons (first, old)).trans (List.Perm.swap (name, entry) (first, old) rest)
        · rw [find?_cons, find?_cons, others other differs]

/-! ## Occurrences -/

/-- Fields have equal rules in another rule set if what that has under their names is
the same. -/
theorem RuleSpec.sameFields_congr {fields first second : RuleSet}
    (others : ∀ name ∈ fields.names, first.find? name = second.find? name) :
    sameFields fields first = sameFields fields second := by
  induction fields with
  | nil => rfl
  | cons entry fields ih =>
      obtain ⟨name, spec⟩ := entry
      rw [Table.names_cons, List.forall_mem_cons] at others
      have here : first.lookup name = second.lookup name := others.1
      rw [sameFields, sameFields, here, ih others.2]

/-- Moving the fields around moves around what a walk comes to. -/
theorem RuleSet.occurrences_reordered {first second : RuleSet} (reordered : first.Perm second)
    (location : List String) (record : Record) :
    (RuleSet.occurrences location record first).Perm
      (RuleSet.occurrences location record second) := by
  have fieldByField : ∀ fields : RuleSet, RuleSet.occurrences location record fields =
      fields.flatMap fun entry => entry.2.occurrences location record entry.1 := by
    intro fields
    induction fields with
    | nil => rfl
    | cons entry fields ih => rw [occurrences_cons, ih, List.flatMap_cons]
  rw [fieldByField first, fieldByField second]
  exact reordered.flatMap_right _

mutual

/-- Equal rules for a field, which for a nested set leaves the order open. -/
theorem RuleSpec.occurrences_perm (location : List String) (record : Record) (field : String) :
    ∀ first second : RuleSpec, first.WellFormed → first.same second = true →
      (first.occurrences location record field).Perm (second.occurrences location record field)
  | .rules a, .rules b, _, same => by
      rw [RuleSpec.same, beq_iff_eq] at same
      rw [same]
  | .nested as, .nested bs, wellFormed, same => by
      rw [RuleSpec.same, Bool.and_eq_true, beq_iff_eq] at same
      cases present : record.find? field with
      | none => simp only [RuleSpec.occurrences_nested_of_none present, List.Perm.refl]
      | some value =>
          simp only [RuleSpec.occurrences_nested_of_some present]
          exact RuleSet.occurrences_perm (location ++ [field]) value.fields as bs wellFormed.1
            wellFormed.2 same.1 same.2
  | .rules _, .nested _, _, same => by simp [RuleSpec.same] at same
  | .nested _, .rules _, _, same => by simp [RuleSpec.same] at same

/-- The occurrences of equal rule sets.  The induction is on the fields of the first
set.  The field of the same name is taken out of the second one, which leaves the names
that are still to come as they were. -/
theorem RuleSet.occurrences_perm (location : List String) (record : Record) :
    ∀ first second : List (String × RuleSpec), Table.Distinct first →
      RuleSpec.WellFormedFields first → first.length = second.length →
        RuleSpec.sameFields first second = true →
          (RuleSet.occurrences location record first).Perm
            (RuleSet.occurrences location record second)
  | [], second, _, _, length, _ => by
      rw [List.eq_nil_of_length_eq_zero length.symm]
  | (name, a) :: first, second, distinct, wellFormed, length, same => by
      rw [Table.Distinct, Table.names_cons, List.nodup_cons] at distinct
      cases found : Table.find? second name with
      | none =>
          have missing : second.lookup name = none := found
          simp [RuleSpec.sameFields, missing] at same
      | some b =>
          have there : second.lookup name = some b := found
          rw [RuleSpec.sameFields, there, Bool.and_eq_true] at same
          obtain ⟨rest, reordered, others⟩ := Table.perm_cons_of_find?_eq_some found
          have restLength : first.length = rest.length := by
            rw [reordered.length_eq] at length
            simpa using length
          have restSame : RuleSpec.sameFields first rest = true := by
            rw [← same.2]
            apply RuleSpec.sameFields_congr
            rintro other isOther
            apply others
            rintro rfl
            exact distinct.1 isOther
          have here := RuleSpec.occurrences_perm location record name a b wellFormed.1 same.1
          have later := RuleSet.occurrences_perm location record first rest distinct.2 wellFormed.2
            restLength restSame
          have whole : (RuleSet.occurrences location record ((name, a) :: first)).Perm
              (RuleSet.occurrences location record ((name, b) :: rest)) := here.append later
          exact whole.trans (RuleSet.occurrences_reordered reordered.symm location record)

end

/-! ## Rejects -/

theorem Judge.rejectsOf_perm (judge : Judge) {first second : List Occurrence}
    (reordered : first.Perm second) :
    (judge.rejectsOf first).Perm (judge.rejectsOf second) :=
  (reordered.filter _).map _

theorem Status.eq_of_success_iff {first second : Status}
    (successes : first = .success ↔ second = .success) : first = second := by
  cases first <;> cases second <;> simp_all

/-- A walk that ends at the first of some failures has found at most one, which is among
the same failures in another order. -/
theorem Walk.rejects_through_stop_of_perm {first second : List Reject}
    (reordered : first.Perm second) :
    (through false first).rejects.length ≤ 1 ∧
      ∀ reject ∈ (through false first).rejects, reject ∈ (through true second).rejects := by
  constructor
  · exact List.length_take_le 1 first
  · intro reject found
    exact reordered.mem_iff.mp (List.mem_of_mem_take found)

namespace Validator

/-- Equal rule sets, which may differ in the order of fields at every level, give the same
status, whether or not the first failure ends a validation.  They give the same rejects
as often in another order.  Where the first failure ends the validation there is at most
one, and it is among all those that the other rule set gives. -/
theorem validateWith_same (patterns : PatternSource) (registry : Registry) (strict : Bool)
    (record : Record) {first second : RuleSet} (wellFormed : (RuleSpec.nested first).WellFormed)
    (same : first.same second = true) :
    let run := fun (resume : Bool) (rules : RuleSet) =>
      validateWith patterns ⟨registry, ⟨resume, strict⟩⟩ record rules
    (∀ resume, (run resume first).status = (run resume second).status) ∧
      (run true first).rejects.Perm (run true second).rejects ∧
      ((run false first).rejects.length ≤ 1 ∧
        ∀ reject ∈ (run false first).rejects, reject ∈ (run true second).rejects) ∧
      (run false second).rejects.length ≤ 1 ∧
        ∀ reject ∈ (run false second).rejects, reject ∈ (run true first).rejects := by
  intro run
  let failures := fun rules : RuleSet => Judge.rejectsOf ⟨registry, ⟨true, strict⟩, patterns⟩
    (RuleSet.occurrences [] record rules)
  have found : ∀ resume rules,
      (run resume rules).rejects = (Walk.through resume (failures rules)).rejects := by
    intro resume rules
    rw [rejects_validateWith, Judge.rejectsOf_resumeOnFailed registry resume true]
  have passed : ∀ resume rules, (run resume rules).status = .success ↔ failures rules = [] := by
    intro resume rules
    rw [status_validateWith_eq_success_iff, Judge.rejectsOf_resumeOnFailed registry resume true]
  have reordered : (failures first).Perm (failures second) := by
    apply Judge.rejectsOf_perm
    rw [RuleSet.same, RuleSpec.same, Bool.and_eq_true, beq_iff_eq] at same
    exact RuleSet.occurrences_perm [] record first second wellFormed.1 wellFormed.2 same.1 same.2
  simp only [found]
  refine ⟨fun resume => ?_, reordered, ?_, ?_⟩
  · apply Status.eq_of_success_iff
    rw [passed, passed, ← List.length_eq_zero_iff, reordered.length_eq, List.length_eq_zero_iff]
  · exact Walk.rejects_through_stop_of_perm reordered
  · exact Walk.rejects_through_stop_of_perm reordered.symm

/-- Two levels of fields in two orders, where the first failure depends on the order. -/
theorem validateWith_same_home :
    let home : RuleSet := [("city", .rules "required"), ("zone", .rules "required|even")]
    let moved : RuleSet := [("zone", .rules "required|even"), ("city", .rules "required")]
    let first : RuleSet := [("name", .rules "required"), ("home", .nested home)]
    let second : RuleSet := [("home", .nested moved), ("name", .rules "required")]
    let run := fun (resume : Bool) (rules : RuleSet) =>
      validateWith (fun _ => none) ⟨.builtIn, ⟨resume, true⟩⟩ [("home", .null)] rules
    (RuleSpec.nested first).WellFormed ∧ first.same second = true ∧
      (run false first).rejects ≠ (run false second).rejects ∧
      (run true first).rejects.Perm (run true second).rejects := by
  intro home moved first second run
  have wellFormed : (RuleSpec.nested first).WellFormed := by
    simp [RuleSpec.WellFormed, RuleSpec.WellFormedFields, Table.Distinct, first, home]
  have same : first.same second = true := by decide +zetaReduce
  have differ : (run false first).rejects ≠ (run false second).rejects := by decide +zetaReduce
  have alike := validateWith_same (fun _ => none) .builtIn true [("home", .null)] wellFormed same
  exact ⟨wellFormed, same, differ, alike.2.1⟩

end Validator

end Rulebook
