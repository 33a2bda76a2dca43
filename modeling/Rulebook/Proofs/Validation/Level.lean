import Rulebook.Proofs.Validation.Occurrence

/-!
# The levels of a rule set

A rule set is one level of rules, and every rule set nested in it is another.  A
level has its place at the end of a chain of fields.  Every rule that a walk comes
to is written at the level where the chain of its occurrence ends.
-/

namespace Rulebook

theorem RuleSpec.wellFormed_of_mem {fields : List (String × RuleSpec)}
    (wellFormed : RuleSpec.WellFormedFields fields) {name : String} {spec : RuleSpec}
    (isEntry : (name, spec) ∈ fields) : spec.WellFormed := by
  induction fields with
  | nil => contradiction
  | cons entry fields ih =>
      rcases List.mem_cons.mp isEntry with rfl | later
      · exact wellFormed.1
      · exact ih wellFormed.2 later

namespace RuleSet

/-- A chain of fields leads from a rule set down to a level of it. -/
inductive Reaches : RuleSet → List String → RuleSet → Prop
  | top (rules : RuleSet) : Reaches rules [] rules
  | nested {rules fields level : RuleSet} {name : String} {chain : List String}
      (here : (name, .nested fields) ∈ rules) (below : Reaches fields chain level) :
      Reaches rules (name :: chain) level

/-- The rules in the rule strings of a level, without those of the levels below. -/
def calls (level : RuleSet) : List Call :=
  level.flatMap fun entry =>
    match entry.2 with
    | .rules text => Call.parse text
    | .nested _ => []

theorem mem_calls {level : RuleSet} {field text : String} {call : Call}
    (isEntry : (field, .rules text) ∈ level) (isCall : call ∈ Call.parse text) :
    call ∈ level.calls :=
  List.mem_flatMap.mpr ⟨(field, .rules text), isEntry, isCall⟩

/-- A rule set as the level at the end of a chain with nothing beside it. -/
def under : List String → RuleSet → RuleSet
  | [], rules => rules
  | name :: chain, rules => [(name, .nested (under chain rules))]

end RuleSet

/-- A rule set has the rule of an occurrence written at the place of it. -/
def Occurrence.WrittenIn (rules : RuleSet) (occurrence : Occurrence) : Prop :=
  ∃ level text, rules.Reaches occurrence.location level ∧
    (occurrence.field, .rules text) ∈ level ∧ occurrence.call ∈ Call.parse text

mutual

theorem RuleSpec.location_of_mem_occurrences {rules : RuleSet} {location : List String}
    {record : Record} {field : String} {occurrence : Occurrence} :
    ∀ spec : RuleSpec, (field, spec) ∈ rules →
      occurrence ∈ spec.occurrences location record field →
      ∃ chain level text, occurrence.location = location ++ chain ∧ rules.Reaches chain level ∧
        (occurrence.field, .rules text) ∈ level ∧ occurrence.call ∈ Call.parse text
  | .rules text, isEntry, isMember => by
      obtain ⟨call, isCall, rfl⟩ := List.mem_map.mp isMember
      exact ⟨[], rules, text, (List.append_nil location).symm, .top rules, isEntry, isCall⟩
  | .nested fields, isEntry, isMember => by
      cases present : record.find? field with
      | none =>
          rw [RuleSpec.occurrences_nested_of_none present] at isMember
          contradiction
      | some value =>
          rw [RuleSpec.occurrences_nested_of_some present] at isMember
          obtain ⟨chain, level, text, locationEq, reaches, written⟩ :=
            RuleSet.location_of_mem_occurrences fields (List.Subset.refl fields) isMember
          rw [List.append_assoc, List.singleton_append] at locationEq
          exact ⟨field :: chain, level, text, locationEq, .nested isEntry reaches, written⟩

/-- A chain of fields leads from the rule set to each rule that a walk comes to. -/
theorem RuleSet.location_of_mem_occurrences {rules : RuleSet} {location : List String}
    {record : Record} {occurrence : Occurrence} :
    ∀ fields : List (String × RuleSpec), fields ⊆ rules →
      occurrence ∈ RuleSet.occurrences location record fields →
      ∃ chain level text, occurrence.location = location ++ chain ∧ rules.Reaches chain level ∧
        (occurrence.field, .rules text) ∈ level ∧ occurrence.call ∈ Call.parse text
  | [], _, isMember => by simp at isMember
  | (field, spec) :: rest, included, isMember => by
      rw [List.cons_subset] at included
      rw [RuleSet.occurrences_cons, List.mem_append] at isMember
      rcases isMember with here | later
      · exact RuleSpec.location_of_mem_occurrences spec included.1 here
      · exact RuleSet.location_of_mem_occurrences rest included.2 later

end

/-- The location of an occurrence is the chain that leads to its rule. -/
theorem RuleSet.writtenIn_of_mem_occurrences {rules : RuleSet} {record : Record}
    {occurrence : Occurrence} (isMember : occurrence ∈ RuleSet.occurrences [] record rules) :
    occurrence.WrittenIn rules := by
  obtain ⟨chain, level, text, rfl, reaches, written⟩ :=
    RuleSet.location_of_mem_occurrences rules (List.Subset.refl rules) isMember
  exact ⟨level, text, reaches, written⟩

end Rulebook
