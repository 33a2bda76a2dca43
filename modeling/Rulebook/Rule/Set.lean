import Rulebook.Table

/-!
# Rule sets

A rule set says for each field either a rule string or, for a field that holds
a record itself, a rule set of its own.  The order of the fields is the order
in which they are checked.
-/

namespace Rulebook

/-- The rules for one field. -/
inductive RuleSpec where
  /-- A rule string for the value of the field. -/
  | rules (text : String)
  /-- Rules for the fields of the record that the field holds. -/
  | nested (fields : List (String × RuleSpec))
deriving Inhabited

/-- Rules by field. -/
abbrev RuleSet := Table RuleSpec

namespace RuleSpec

mutual

/-- The same rules for the same fields, in whatever order the fields are. -/
def same : RuleSpec → RuleSpec → Bool
  | rules a, rules b => a == b
  | nested as, nested bs => as.length == bs.length && sameFields as bs
  | _, _ => false

/-- Every field has the same rules under the same name among the others. -/
def sameFields : List (String × RuleSpec) → List (String × RuleSpec) → Bool
  | [], _ => true
  | (name, a) :: as, bs =>
      (match bs.lookup name with
        | some b => same a b
        | none => false) && sameFields as bs

end

mutual

/-- The field names at every level are distinct. -/
def WellFormed : RuleSpec → Prop
  | rules _ => True
  | nested fields => Table.Distinct fields ∧ WellFormedFields fields

/-- `WellFormed` for the rules of every field. -/
def WellFormedFields : List (String × RuleSpec) → Prop
  | [] => True
  | (_, spec) :: fields => WellFormed spec ∧ WellFormedFields fields

end

end RuleSpec

namespace RuleSet

/-- Equality of rule sets, which ignores the order of fields at every level. -/
def same (a b : RuleSet) : Bool :=
  (RuleSpec.nested a).same (.nested b)

end RuleSet

end Rulebook
