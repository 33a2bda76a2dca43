import Rulebook.Proofs.Json.Document
import Rulebook.Proofs.Table
import Rulebook.Validator

/-!
# Rule sets that are sent

The text of a rule set is read as the same rule set, with the fields of every level in the
same order.  Only a rule set of too many levels cannot be read back.
-/

namespace Rulebook

namespace RuleSpec

mutual

/-- How many rule sets are nested in one another. -/
def levels : RuleSpec → Nat
  | rules _ => 0
  | nested fields => levelsOfFields fields + 1

/-- The most levels that the rules for one of the fields have. -/
def levelsOfFields : List (String × RuleSpec) → Nat
  | [] => 0
  | (_, spec) :: fields => max (levels spec) (levelsOfFields fields)

end

/-! ## The document of a rule set -/

mutual

/-- Every level is an object. -/
theorem nesting_toJson : ∀ spec : RuleSpec, spec.toJson.nesting = spec.levels
  | rules _ => rfl
  | nested fields => congrArg (· + 1) (nestingMembers_fieldsToJson fields)

theorem nestingMembers_fieldsToJson : ∀ fields : List (String × RuleSpec),
    Json.nestingMembers (fieldsToJson fields) = levelsOfFields fields
  | [] => rfl
  | (_, spec) :: fields => by
      rw [fieldsToJson, Json.nestingMembers, levelsOfFields, nesting_toJson spec,
        nestingMembers_fieldsToJson fields]

end

mutual

theorem writable_toJson : ∀ spec : RuleSpec, spec.toJson.Writable
  | rules _ => trivial
  | nested fields => writableMembers_fieldsToJson fields

theorem writableMembers_fieldsToJson : ∀ fields : List (String × RuleSpec),
    Json.WritableMembers (fieldsToJson fields)
  | [] => trivial
  | (_, spec) :: fields => ⟨writable_toJson spec, writableMembers_fieldsToJson fields⟩

end

mutual

/-- Strings and objects tell rule strings and rule sets apart again. -/
theorem WellFormed.ofJson?_toJson :
    ∀ {spec : RuleSpec}, spec.WellFormed → ofJson? spec.toJson = some spec
  | rules _, _ => rfl
  | nested fields, wellFormed => by
      rw [toJson, ofJson?, fieldsOfJson?_fieldsToJson wellFormed.2, Option.map_some,
        Table.Distinct.ofList_eq wellFormed.1]

theorem fieldsOfJson?_fieldsToJson : ∀ {fields : List (String × RuleSpec)},
    WellFormedFields fields → fieldsOfJson? (fieldsToJson fields) = some fields
  | [], _ => rfl
  | (name, spec) :: fields, wellFormed => by
      rw [fieldsToJson, fieldsOfJson?, wellFormed.1.ofJson?_toJson,
        fieldsOfJson?_fieldsToJson wellFormed.2]
      rfl

end

end RuleSpec

namespace RuleSet

variable {rules : RuleSet}

theorem ofJson?_toJson (wellFormed : (RuleSpec.nested rules).WellFormed) :
    ofJson? rules.toJson = some rules := by
  rw [toJson, ofJson?, RuleSpec.fieldsOfJson?_fieldsToJson wellFormed.2, Option.map_some,
    Table.Distinct.ofList_eq wellFormed.1]

/-- A rule set is read back from its text unless it has too many levels. -/
theorem ofText?_render_eq (wellFormed : (RuleSpec.nested rules).WellFormed) :
    ofText? rules.render =
      if (RuleSpec.nested rules).levels < Json.nestingLimit then some rules else none := by
  have writable : rules.toJson.Writable := RuleSpec.writable_toJson (.nested rules)
  have nesting : rules.toJson.nesting = _ := RuleSpec.nesting_toJson (.nested rules)
  rw [ofText?, render, writable.parse?_render, Option.bind_eq_bind, Option.bind_some, nesting,
    ofJson?_toJson wellFormed]

/-- A rule set of less than 128 levels survives being sent as a text, and whoever reads it
there validates by it as by the rule set itself.  One of more levels is refused. -/
theorem validateRulesText_render (wellFormed : (RuleSpec.nested rules).WellFormed) :
    ofText? rules.render = (if (RuleSpec.nested rules).levels < 128 then some rules else none) ∧
      ∀ (compile : PatternSource) (reason : String → String) (validator : Validator)
        (record : Record), validator.validateRulesText compile reason record rules.render =
          if (RuleSpec.nested rules).levels < 128 then
            .ok (validator.validate compile record rules)
          else .error (.invalidJson (reason rules.render)) := by
  have read := ofText?_render_eq wellFormed
  rw [Json.nestingLimit] at read
  refine ⟨read, fun compile reason validator record => ?_⟩
  rw [Validator.validateRulesText, read]
  by_cases shallow : (RuleSpec.nested rules).levels < 128
  · rw [if_pos shallow, if_pos shallow]
  · rw [if_neg shallow, if_neg shallow]

/-- Names and rules that need escapes, a name that is empty, and a level without fields. -/
theorem validateRulesText_render_escapes :
    let rules : RuleSet :=
      [("say \"höw\"", .rules "in:\t,\\,,\x01"),
        ("home", .nested [("", .nested []), ("a", .rules "")])]
    (RuleSpec.nested rules).WellFormed ∧ ofText? rules.render = some rules ∧
      ∀ (compile : PatternSource) (reason : String → String) (validator : Validator)
        (record : Record), validator.validateRulesText compile reason record rules.render =
          .ok (validator.validate compile record rules) := by
  intro rules
  have wellFormed : (RuleSpec.nested rules).WellFormed :=
    ⟨show (["say \"höw\"", "home"] : List String).Nodup by decide, trivial,
      ⟨show (["", "a"] : List String).Nodup by decide, ⟨List.nodup_nil, trivial⟩, trivial,
        trivial⟩, trivial⟩
  exact ⟨wellFormed, validateRulesText_render wellFormed⟩

end RuleSet

end Rulebook
