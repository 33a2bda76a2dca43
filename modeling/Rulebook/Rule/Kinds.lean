import Rulebook.Rule.Basic

/-!
# Kind rules

Rules on what kind of value a field holds.
-/

namespace Rulebook.Kinds

/-- A rule without arguments that looks at the value alone. -/
def plain (test : Value → Bool) : ValueRule :=
  .predicate (.exact 0) fun _ value _ => some (test value)

def isArray (value : Value) : Bool := value.kind == .array

def isString (value : Value) : Bool := value.kind == .string

/-- A finite number. -/
def isNumeric (value : Value) : Bool := value.number?.any Number.isFinite

/-- A finite number without a fraction. -/
def isInteger (value : Value) : Bool := value.number?.any Number.isWhole

/-- The kind rules that are there from the start. -/
def builtIn : Table ValueRule := [
  ("array", plain isArray),
  ("string", plain isString),
  ("numeric", plain isNumeric),
  ("integer", plain isInteger)]

end Rulebook.Kinds
