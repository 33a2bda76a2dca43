import Rulebook.Rule.Basic
import Rulebook.Value.Equality

/-!
# Comparison rules

Rules that compare a value with another field of its record, or with the
arguments.
-/

namespace Rulebook.Comparison

/-- The value is not loosely equal to another field; an absent field counts as
`null`. -/
def different (record : Record) (value : Value) (other : String) : Bool :=
  !value.looseEq ((record.find? other).getD .null)

/-- The value is strictly equal to another field that is there. -/
def same (record : Record) (value : Value) (other : String) : Bool :=
  (record.find? other).any value.strictEq

/-- The value is a string among the arguments. -/
def isIn (value : Value) (args : List String) : Bool :=
  value.text?.any args.contains

/-- The comparison rules that are there from the start. -/
def builtIn : Table ValueRule := [
  ("different", .predicate (.exact 1) fun record value args =>
    do return different record value (← args[0]?)),
  ("same", .predicate (.exact 1) fun record value args =>
    do return same record value (← args[0]?)),
  ("in", .predicate (.atLeast 1) fun _ value args => some (isIn value args)),
  ("not_in", .predicate (.atLeast 1) fun _ value args => some (!isIn value args))]

end Rulebook.Comparison
