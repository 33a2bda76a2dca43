import Rulebook.Proofs.Rule.Reading
import Rulebook.Proofs.Validation.Walk
import Rulebook.Proofs.Value.Reordered

/-!
# Records that validate alike

No built-in rule can tell equal values apart, or equal records around them, and none
sees the order of fields at any depth.  The comparisons of fields are the ones that
look into objects; for them it has to be known that equality is a congruence.  So
equal records have the same outcome, whatever the rules are.
-/

namespace Rulebook

open Value

/-- Equal values, or values that differ only in the order of fields at some depth. -/
def Value.Interchangeable (a b : Value) : Prop :=
  (a == b) = true ∨ Reordered a b

theorem Value.Interchangeable.twins {a b : Value} (interchangeable : Interchangeable a b)
    (first : a.WellFormed) (second : b.WellFormed) : Twins a b := by
  rcases interchangeable with equal | reordered
  · exact ⟨first, second, alike_of_same first second equal⟩
  · exact reordered.twins first

theorem Value.Twins.akin {a b : Value} (twins : Twins a b) : Akin a b :=
  twins.alike.akin

section

variable {first second : Record} (records : Twins (.object first) (.object second))

include records

/-- Fields that a rule reads. -/
theorem Value.Twins.find?_akin (name : String) :
    Option.Rel Akin (first.find? name) (second.find? name) :=
  rel_mono Twins.akin (records.find? name)

/-- Comparisons of twins with the same field of twin records. -/
theorem Comparison.agrees_of_twins {a b : Value} (values : Twins a b) (other : String) :
    Comparison.Agrees first second a b other := by
  have related := records.find? other
  rw [Agrees, different, different, Comparison.same, Comparison.same]
  generalize first.find? other = mine, second.find? other = theirs at related ⊢
  cases related with
  | some others => exact ⟨congrArg not (values.looseEq_congr others), values.strictEq_congr others⟩
  | none => exact ⟨congrArg not (values.looseEq_congr (.refl trivial)), rfl⟩

end

namespace Judge

variable {config : Config} {patterns : PatternSource}

mutual

/-- Walks of twin records through the rules for a field. -/
theorem walkSpec_twins {first second : Record}
    (records : Twins (.object first) (.object second)) (path field : String) :
    ∀ spec : RuleSpec,
      walkSpec ⟨.builtIn, config, patterns⟩ first path field spec =
        walkSpec ⟨.builtIn, config, patterns⟩ second path field spec
  | .rules text => by
      apply walkCalls_congr
      intro call _
      apply passes_builtIn_congr
      · exact fun name _ => records.find?_akin name
      · intro _ a b inFirst inSecond other _
        have values := records.find? field
        rw [inFirst, inSecond, Option.rel_some_some] at values
        exact Comparison.agrees_of_twins records values other
  | .nested fields => by
      apply walkSpec_nested_congr
      exact rel_mono (fun twins => walkFields_twins twins.fields (joinPath path field) fields)
        (records.find? field)

/-- Walks of twin records through a rule set. -/
theorem walkFields_twins {first second : Record}
    (records : Twins (.object first) (.object second)) (path : String) :
    ∀ fields : List (String × RuleSpec),
      walkFields ⟨.builtIn, config, patterns⟩ first path fields =
        walkFields ⟨.builtIn, config, patterns⟩ second path fields
  | [] => rfl
  | (field, spec) :: rest => by
      rw [walkFields, walkFields, walkSpec_twins records path field spec,
        walkFields_twins records path rest]

end

end Judge

namespace Validator

/-- Records that are equal, or that differ only in the order of fields at some depth,
have the same outcome.  No built-in rule tells them apart, or such values in them. -/
theorem validateWith_interchangeable (patterns : PatternSource) (config : Config)
    {first second : Record} (wellFormedFirst : (Value.object first).WellFormed)
    (wellFormedSecond : (Value.object second).WellFormed)
    (interchangeable : Interchangeable (.object first) (.object second)) :
    (∀ rules, (withConfig config).validateWith patterns first rules =
        (withConfig config).validateWith patterns second rules) ∧
      (∀ name rule, Presence.builtIn.find? name = some rule → ∀ field args,
        rule.holds first field args = rule.holds second field args) ∧
      ∀ name rule, Registry.builtInValues.find? name = some rule → ∀ (a b : Value) args,
        a.WellFormed → b.WellFormed → Interchangeable a b →
          rule.holds patterns first a args = rule.holds patterns second b args := by
  have records := interchangeable.twins wellFormedFirst wellFormedSecond
  refine ⟨fun rules => ?_, fun name rule found field args => ?_, ?_⟩
  · exact validateWith_congr (Judge.walkFields_twins records "" rules)
  · apply Presence.isLocal_of_mem_builtIn (Table.mem_of_find?_eq_some found)
    exact fun other _ => records.find?_akin other
  · intro name rule found a b args wellFormedA wellFormedB values
    have twins := values.twins wellFormedA wellFormedB
    apply ValueRule.holds_builtIn_congr found patterns twins.akin
    exact fun _ other _ => Comparison.agrees_of_twins records twins other

/-- Records with two orders of fields at two depths and with two zeros, under rules that
compare the objects in them. -/
theorem validateWith_interchangeable_zeros :
    let home : Record := [("zone", .number .zero), ("city", .array [.object [], .null])]
    let away : Record := [("city", .array [.object [], .null]), ("zone", .number Number.zero.neg)]
    let first : Record := [("home", .object home), ("work", .object home)]
    let second : Record := [("work", .object home), ("home", .object away)]
    let rules : RuleSet :=
      [("home", .rules "same:work|different:work"), ("work", .nested [("zone", .rules "max:x")])]
    (Value.object first).WellFormed ∧ (Value.object second).WellFormed ∧
      Interchangeable (.object first) (.object second) ∧
      Interchangeable (.object home) (.object away) ∧
      (withConfig .default).validateWith (fun _ => none) first rules =
        (withConfig .default).validateWith (fun _ => none) second rules ∧
      ∀ rule, Registry.builtInValues.find? "same" = some rule →
        rule.holds (fun _ => none) first (.object home) ["home"] =
          rule.holds (fun _ => none) second (.object away) ["home"] := by
  intro home away first second rules
  have wellFormed : (Value.object first).WellFormed ∧ (Value.object second).WellFormed := by
    simp [WellFormed, WellFormedFields, WellFormedItems, Table.Distinct, first, second, home, away]
  have interchangeable : Interchangeable (.object first) (.object second) :=
    .inl (by decide +zetaReduce)
  have values : Interchangeable (.object home) (.object away) := .inl (by decide +zetaReduce)
  have inFirst : first.find? "home" = some (.object home) := rfl
  have inSecond : second.find? "home" = some (.object away) := rfl
  obtain ⟨sameOutcomes, -, sameVerdicts⟩ := validateWith_interchangeable (fun _ => none) .default
    wellFormed.1 wellFormed.2 interchangeable
  refine ⟨wellFormed.1, wellFormed.2, interchangeable, values, sameOutcomes rules, ?_⟩
  intro rule found
  exact sameVerdicts "same" rule found _ _ ["home"] (wellFormed.1.field inFirst)
    (wellFormed.2.field inSecond) values

end Validator

end Rulebook
