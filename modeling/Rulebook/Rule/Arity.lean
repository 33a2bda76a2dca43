/-!
# Arities

The number of arguments that a rule accepts.
-/

namespace Rulebook

/-- The number of arguments that a rule accepts. -/
inductive Arity where
  | exact (count : Nat)
  | atLeast (count : Nat)
  /-- Both ends included. -/
  | range (least most : Nat)
  /-- An even number of arguments other than none: each field with its value. -/
  | pairs
  | any
deriving DecidableEq, Inhabited

namespace Arity

/-- Whether so many arguments are accepted. -/
def accepts : Arity → Nat → Bool
  | exact n, count => count == n
  | atLeast n, count => n ≤ count
  | range least most, count => least ≤ count && count ≤ most
  | pairs, count => 2 ≤ count && count % 2 == 0
  | any, _ => true

/-- An arity in words. -/
def describe : Arity → String
  | exact n => "exactly " ++ toString n
  | atLeast n => "at least " ++ toString n
  | range least most => toString least ++ " to " ++ toString most
  | pairs => "an even number (at least 2)"
  | any => "any number"

end Arity

end Rulebook
