import Rulebook.Proofs.Value.Alike
import Rulebook.Registry

/-!
# The two equalities

Values that are strictly equal are of one kind, and among values of one kind the two
equalities are the same.  So all that is loosely equal but not strictly is of two kinds.  Both
equalities hold between a value and itself unless there is `nan` in it, and the rules that
compare with another field cannot both hold.
-/

namespace Rulebook

namespace Value

variable {a b c : Value}

theorem kind_eq_of_same (equal : same a b = true) : a.kind = b.kind := by
  unfold same at equal
  split at equal
  case h_9 => contradiction
  all_goals rfl

/-- Only values of different kinds are compared by what they are converted to. -/
theorem looseEq_eq_strictEq (sameKind : a.kind = b.kind) : looseEq a b = strictEq a b := by
  -- The arm for two values of a kind is the strict one, and the other pairs are ruled out.
  cases a <;> cases b <;> first | rfl | cases sameKind

/-- What is strictly equal is loosely equal. -/
theorem looseEq_of_strictEq (equal : strictEq a b = true) : looseEq a b = true := by
  have sameKind := kind_eq_of_same (strictEq_eq_same a b ▸ equal)
  rw [looseEq_eq_strictEq sameKind, equal]

section

variable (first : a.WellFormed)

include first

theorem same_trans (second : b.WellFormed) (third : c.WellFormed) (equal : same a b = true)
    (equal' : same b c = true) : same a c = true := by
  obtain ⟨alike, noNaN⟩ := (same_iff_alike first second).mp equal
  obtain ⟨alike', -⟩ := (same_iff_alike second third).mp equal'
  exact (same_iff_alike first third).mpr ⟨alike.trans alike', noNaN⟩

/-- A value is equal to itself unless there is `nan` in it. -/
theorem same_self_iff : same a a = true ↔ ¬HasNaN a := by
  rw [same_iff_alike first first]
  exact and_iff_right (.refl a)

end

end Value

namespace Comparison

/-- A field that the value is strictly equal to is not different from it. -/
theorem different_eq_false {record : Record} {value : Value} {other : String}
    (equal : same record value other = true) : different record value other = false := by
  rw [same, Option.any_eq_true] at equal
  obtain ⟨field, found, equal⟩ := equal
  rw [different, found, Option.getD_some, Value.looseEq_of_strictEq equal]
  rfl

theorem holds_of_one (patterns : PatternSource) (test : Record → Value → String → Bool)
    (record : Record) (value : Value) (arg : String) :
    (ValueRule.predicate (.exact 1) fun record value args =>
      do return test record value (← args[0]?)).holds patterns record value [arg] =
      test record value arg := by
  simp [ValueRule.holds, Arity.accepts]

end Comparison

namespace Value

/-- Strict equality is an equivalence but for `nan`, loose equality is symmetric and goes with it,
and a field is never both the same as another one and different from it. -/
theorem equalities_agree {a b c : Value} (first : a.WellFormed) (second : b.WellFormed)
    (third : c.WellFormed) :
    a.strictEq b = (a == b) ∧
      a.strictEq b = b.strictEq a ∧
      (a.strictEq b = true → b.strictEq c = true → a.strictEq c = true) ∧
      a.looseEq b = b.looseEq a ∧
      (a.strictEq b = true → a.looseEq b = true) ∧
      (a.strictEq a = true ↔ ¬a.HasNaN) ∧
      (a.looseEq a = true ↔ ¬a.HasNaN) ∧
      ∃ isSame isDifferent, Registry.builtIn.values.find? "same" = some isSame ∧
        Registry.builtIn.values.find? "different" = some isDifferent ∧
        ∀ (patterns : PatternSource) (record : Record) (sibling : String),
          ¬(isSame.holds patterns record a [sibling] = true ∧
            isDifferent.holds patterns record a [sibling] = true) := by
  have self := same_self_iff first
  refine ⟨strictEq_eq_same a b, ?_, ?_, looseEq_comm_of_wellFormed first second,
    looseEq_of_strictEq, ?_, ?_, _, _, rfl, rfl, ?_⟩
  · rw [strictEq_eq_same, strictEq_eq_same, same_comm_of_wellFormed first second]
  · rw [strictEq_eq_same, strictEq_eq_same, strictEq_eq_same]
    exact same_trans first second third
  · rwa [strictEq_eq_same]
  · rwa [looseEq_eq_strictEq rfl, strictEq_eq_same]
  · rintro patterns record sibling ⟨isSame, isDifferent⟩
    rw [Comparison.holds_of_one] at isSame isDifferent
    rw [Comparison.different_eq_false isSame] at isDifferent
    contradiction

/-- Objects in three orders of fields and with two zeros, and `nan` in an item of a field. -/
theorem equalities_agree_nested :
    let zero : Value := .number .zero
    let minusZero : Value := .number Number.zero.neg
    let a : Value := .object
      [("x", .array [zero, .null]), ("y", .object [("p", zero), ("q", zero)])]
    let b : Value := .object
      [("y", .object [("q", minusZero), ("p", zero)]), ("x", .array [minusZero, .null])]
    let c : Value := .object
      [("y", .object [("p", minusZero), ("q", zero)]), ("x", .array [zero, .null])]
    let d : Value := .array [.object [("z", .array [.number .nan])], .null]
    a.WellFormed ∧ b.WellFormed ∧ c.WellFormed ∧ d.WellFormed ∧
      a.strictEq b = true ∧ b.strictEq c = true ∧ a.strictEq c = true ∧ b.strictEq a = true ∧
      a.looseEq b = true ∧ ¬a.HasNaN ∧ d.HasNaN ∧ d.strictEq d = false ∧ d.looseEq d = false ∧
      ∃ isDifferent, Registry.builtIn.values.find? "different" = some isDifferent ∧
        isDifferent.holds (fun _ => none) [("w", a)] a ["w"] = false := by
  intro zero minusZero a b c d
  have wellFormed : a.WellFormed ∧ b.WellFormed ∧ c.WellFormed ∧ d.WellFormed := by
    simp [WellFormed, WellFormedFields, WellFormedItems, Table.Distinct, a, b, c, d, zero,
      minusZero]
  obtain ⟨first, second, third, fourth⟩ := wellFormed
  have hasNaN : d.HasNaN :=
    @HasNaN.item _ 0 _ rfl (@HasNaN.field _ "z" _ rfl (@HasNaN.item _ 0 _ rfl .number))
  have equal : a.strictEq b = true ∧ b.strictEq c = true ∧ a.strictEq a = true := by
    decide +zetaReduce
  obtain ⟨-, symmetric, transitive, -, loosely, self, -, isSame, isDifferent, foundSame,
    foundDifferent, notBoth⟩ := equalities_agree first second third
  obtain ⟨-, -, -, -, -, strictSelf, looseSelf, -⟩ := equalities_agree fourth fourth fourth
  have holds : isSame.holds (fun _ => none) [("w", a)] a ["w"] = true := by
    cases foundSame
    decide +zetaReduce
  exact ⟨first, second, third, fourth, equal.1, equal.2.1, transitive equal.1 equal.2.1,
    symmetric ▸ equal.1, loosely equal.1, self.mp equal.2.2, hasNaN,
    Bool.eq_false_iff.mpr fun equal => strictSelf.mp equal hasNaN,
    Bool.eq_false_iff.mpr fun equal => looseSelf.mp equal hasNaN,
    isDifferent, foundDifferent,
    Bool.eq_false_iff.mpr fun differs => notBoth _ _ _ ⟨holds, differs⟩⟩

end Value

end Rulebook
