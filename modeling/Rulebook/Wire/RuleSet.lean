import Rulebook.Rule.Set
import Rulebook.Wire.Value

/-!
# Rule sets on the wire

A rule set is an object whose members are rule strings and rule sets.
-/

namespace Rulebook

namespace RuleSpec

mutual

/-- The rules for one field as a document. -/
def toJson : RuleSpec → Json
  | rules text => .string text
  | nested fields => .object (fieldsToJson fields)

/-- The rules for the fields of a set as the members of an object. -/
def fieldsToJson : List (String × RuleSpec) → List (String × Json)
  | [] => []
  | (name, spec) :: fields => (name, toJson spec) :: fieldsToJson fields

end

mutual

/-- The rules that a document stands for. -/
def ofJson? : Json → Option RuleSpec
  | .string text => some (rules text)
  | .object members => (fieldsOfJson? members).map fun fields => nested (Table.ofList fields)
  | _ => none

/-- The rules that the members of an object stand for, repeated names
included. -/
def fieldsOfJson? : List (String × Json) → Option (List (String × RuleSpec))
  | [] => some []
  | (name, json) :: members =>
      match ofJson? json with
      | some spec => (fieldsOfJson? members).map ((name, spec) :: ·)
      | none => none

end

end RuleSpec

namespace RuleSet

/-- A rule set as a document. -/
def toJson (rules : RuleSet) : Json :=
  .object (RuleSpec.fieldsToJson rules)

/-- The rule set that a document stands for. -/
def ofJson? : Json → Option RuleSet
  | .object members => (RuleSpec.fieldsOfJson? members).map Table.ofList
  | _ => none

/-- Reads a JSON text as a rule set. -/
def ofText? (text : String) : Option RuleSet := do
  let json ← Json.parse? text
  if json.nesting < Json.nestingLimit then ofJson? json else none

/-- A rule set as JSON text. -/
def render (rules : RuleSet) : String :=
  rules.toJson.render

end RuleSet

end Rulebook
