import Rulebook.Proofs.RuleString.Naming
import Rulebook.Proofs.Validation.Level
import Rulebook.Proofs.Validation.Walk

/-!
# What a registration has an effect on

A validation asks a registry only for the names of the rules that it comes to, and for a
value rule only where no presence rule has its name.  So a registration has an effect only
on rule sets that name its rule, and a value rule has none at all behind a presence rule of
the same name.
-/

namespace Rulebook

open Text

namespace Registry

/-- Two registries give the same answers about a name: the same presence rule, or else the
same value rule. -/
structure AgreeOn (first second : Registry) (name : String) : Prop where
  presence : first.presence.find? name = second.presence.find? name
  values : first.presence.find? name = none → first.values.find? name = second.values.find? name

namespace AgreeOn

variable {first second : Registry}

theorem passes_eq {call : Call} (agree : AgreeOn first second call.name) (config : Config)
    (patterns : PatternSource) (record : Record) (field : String) :
    Judge.passes ⟨first, config, patterns⟩ record field call =
      Judge.passes ⟨second, config, patterns⟩ record field call := by
  have values := agree.values
  unfold Judge.passes
  rw [← agree.presence]
  cases presence : first.presence.find? call.name with
  | some rule => rfl
  | none =>
      simp only
      rw [values presence]

/-- The remark of a reject is the same, since a name is known to both registries or to
neither. -/
theorem reject_eq {occurrence : Occurrence} (agree : AgreeOn first second occurrence.call.name) :
    occurrence.reject first = occurrence.reject second := by
  have values := agree.values
  unfold Occurrence.reject
  rw [← agree.presence]
  cases presence : first.presence.find? occurrence.call.name with
  | some rule => rfl
  | none => rw [values presence]

end AgreeOn

/-- A registration changes what a registry has under one name. -/
theorem Registers.agreeOn {compile : PatternSource} {registry next : Registry}
    {text name : String} (registers : registry.Registers compile text next)
    (other : name ≠ trim text) :
    AgreeOn next registry name := by
  obtain ⟨_, ⟨rule, rfl⟩ | ⟨rule, rfl⟩⟩ := registers.effect
  · exact ⟨rfl, fun _ => by rw [Table.find?_insert, if_neg (Ne.symm other)]⟩
  · exact ⟨by rw [Table.find?_insert, if_neg (Ne.symm other)], fun _ => rfl⟩

/-- Value rules are not asked for where a presence rule has the name. -/
theorem agreeOn_insert_of_has {registry : Registry} {name : String}
    (hidden : registry.presence.has name = true) (rule : ValueRule) (other : String) :
    AgreeOn { registry with values := registry.values.insert name rule } registry other := by
  refine ⟨rfl, fun noPresence => ?_⟩
  have differs : name ≠ other := by
    rintro rfl
    simp [Table.has, noPresence] at hidden
  rw [Table.find?_insert, if_neg differs]

end Registry

/-- Judges that agree on some occurrences give the same rejects. -/
theorem Judge.rejectsOf_congr {first second : Judge} {occurrences : List Occurrence}
    (verdicts : ∀ occurrence ∈ occurrences,
      first.passes occurrence.record occurrence.field occurrence.call =
        second.passes occurrence.record occurrence.field occurrence.call)
    (remarks : ∀ occurrence ∈ occurrences,
      occurrence.reject first.registry = occurrence.reject second.registry) :
    first.rejectsOf occurrences = second.rejectsOf occurrences := by
  have kept : occurrences.filter (fun occurrence => first.Violated occurrence) =
      occurrences.filter (fun occurrence => second.Violated occurrence) := by
    apply List.filter_congr
    intro occurrence isMember
    rw [decide_eq_decide, ← passes_eq_false_iff, ← passes_eq_false_iff,
      verdicts occurrence isMember]
  rw [rejectsOf, rejectsOf, kept]
  apply List.map_congr_left
  intro occurrence isKept
  exact remarks occurrence (List.mem_filter.mp isKept).1

namespace Validator

/-- Registries that agree on the names that a walk comes to give the same outcome. -/
theorem validateWith_of_agreeOn {first second : Registry} {record : Record} {rules : RuleSet}
    (agree : ∀ occurrence ∈ RuleSet.occurrences [] record rules,
      Registry.AgreeOn first second occurrence.call.name)
    (patterns : PatternSource) (config : Config) :
    validateWith patterns ⟨first, config⟩ record rules =
      validateWith patterns ⟨second, config⟩ record rules := by
  have same : Judge.rejectsOf ⟨first, config, patterns⟩ (RuleSet.occurrences [] record rules) =
      Judge.rejectsOf ⟨second, config, patterns⟩ (RuleSet.occurrences [] record rules) := by
    apply Judge.rejectsOf_congr
    · exact fun occurrence isMember => (agree occurrence isMember).passes_eq config patterns _ _
    · exact fun occurrence isMember => (agree occurrence isMember).reject_eq
  rw [validateWith_eq, validateWith_eq, same]

/-- A registration that goes through has no effect on validations by rules that do not name
what was registered, at any level.  A value rule has no effect on any validation if there
is a presence rule of its name. -/
theorem validateWith_registers {compile : PatternSource} (patterns : PatternSource)
    (config : Config) (record : Record) {registry next : Registry} {text : String}
    (registers : registry.Registers compile text next) :
    (∀ rules : RuleSet,
        (∀ chain level, rules.Reaches chain level → ∀ call ∈ level.calls, call.name ≠ trim text) →
          validateWith patterns ⟨next, config⟩ record rules =
            validateWith patterns ⟨registry, config⟩ record rules) ∧
      (registry.presence.has (trim text) = true →
        (∃ rule, registry.add text rule = (.ok (), next)) ∨
            (∃ pattern, registry.addPattern compile text pattern = (.ok (), next)) →
          ∀ rules : RuleSet,
            validateWith patterns ⟨next, config⟩ record rules =
              validateWith patterns ⟨registry, config⟩ record rules) := by
  constructor
  · intro rules unnamed
    apply validateWith_of_agreeOn
    intro occurrence isMember
    obtain ⟨level, written, reaches, isEntry, isCall⟩ :=
      RuleSet.writtenIn_of_mem_occurrences isMember
    apply registers.agreeOn
    exact unnamed _ level reaches occurrence.call (RuleSet.mem_calls isEntry isCall)
  · intro hidden ofValueRule rules
    have added : ∃ rule, registry.add text rule = (.ok (), next) := by
      rcases ofValueRule with added | ⟨pattern, added⟩
      · exact added
      · obtain ⟨regex, _, added⟩ := Registry.addPattern_eq_ok_iff.mp added
        exact ⟨.pattern regex, added⟩
    obtain ⟨rule, added⟩ := added
    obtain ⟨_, rfl⟩ := Registry.add_eq_ok_iff.mp added
    apply validateWith_of_agreeOn
    intro occurrence _
    exact Registry.agreeOn_insert_of_has hidden rule occurrence.call.name

/-- A value rule under the name of a presence rule, which changes neither what that name
stands for nor what comes of rules of other names, known and unknown. -/
theorem validateWith_registers_required :
    let never : ValueRule := .predicate .any fun _ _ _ => some false
    let next : Registry := { Registry.builtIn with
      values := Registry.builtIn.values.insert "required" never }
    let rules : RuleSet := [("home", .nested [("city", .rules "string|odd")])]
    let named : RuleSet := [("home", .rules "required")]
    let run := fun (registry : Registry) (rules : RuleSet) =>
      validateWith (fun _ => none) ⟨registry, ⟨true, true⟩⟩ [("home", .null)] rules
    Registry.builtIn.Registers Regex.compile? " required " next ∧
      (∀ chain level, rules.Reaches chain level →
        ∀ call ∈ level.calls, call.name ≠ trim " required ") ∧
      run next rules = run .builtIn rules ∧
      Registry.builtIn.presence.has (trim " required ") = true ∧
      Registry.builtIn.add " required " never = (.ok (), next) ∧
      run next named = run .builtIn named := by
  intro never next rules named run
  have added : Registry.builtIn.add " required " never = (.ok (), next) := rfl
  have registers : Registry.builtIn.Registers Regex.compile? " required " next := .value added
  have hidden : Registry.builtIn.presence.has (trim " required ") = true := by decide
  have unnamed : ∀ chain level, rules.Reaches chain level →
      ∀ call ∈ level.calls, call.name ≠ trim " required " := by
    intro chain level reaches
    cases reaches with
    | top => simp [rules, RuleSet.calls]
    | nested here below =>
        simp only [rules, List.mem_singleton, Prod.mk.injEq, RuleSpec.nested.injEq] at here
        rw [here.2] at below
        cases below with
        | top => decide
        | nested here below => simp at here
  have framed := validateWith_registers (fun _ => none) ⟨true, true⟩ [("home", .null)] registers
  exact ⟨registers, unnamed, framed.1 rules unnamed, hidden, added,
    framed.2 hidden (.inl ⟨never, added⟩) named⟩

end Validator

end Rulebook
