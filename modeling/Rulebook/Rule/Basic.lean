import Rulebook.Regex.Cache
import Rulebook.Rule.Arity
import Rulebook.Value.Text

/-!
# Rules

There are two kinds of rules.  A presence rule is asked whether or not its field
is there and is told the name of the field.  A value rule is asked about the
value of a field that is there; it is a predicate, a pattern for the text of the
value, or a pattern that comes with the arguments.

The body of a rule may ask for arguments by position and gives no answer when
one is not there.  A rule holds if its arity accepts the number of arguments
and its body answers yes.  Its answer tells a refusal from an argument that is
not there.
-/

namespace Rulebook

/-- What comes of asking a body behind an arity: nothing if an argument is asked for that is
not there. -/
def guarded? (arity : Arity) (args : List String) (body : List String → Option Bool) :
    Option Bool :=
  if arity.accepts args.length then body args else some false

theorem guarded?_beq (arity : Arity) (args : List String) (body : List String → Option Bool) :
    (guarded? arity args body == some true) =
      (arity.accepts args.length && body args == some true) := by
  unfold guarded?
  cases arity.accepts args.length <;> rfl

/-- A presence rule. -/
structure PresenceRule where
  arity : Arity
  /-- The answer for a record, the name of a field and the arguments. -/
  body : Record → String → List String → Option Bool

namespace PresenceRule

/-- Whether a presence rule holds for a field. -/
def holds (rule : PresenceRule) (record : Record) (field : String) (args : List String) : Bool :=
  rule.arity.accepts args.length && rule.body record field args == some true

/-- The answer of a presence rule, unless it asks for an argument that is not there. -/
def answer? (rule : PresenceRule) (record : Record) (field : String) (args : List String) :
    Option Bool :=
  guarded? rule.arity args (rule.body record field)

theorem holds_eq_answer? (rule : PresenceRule) (record : Record) (field : String)
    (args : List String) :
    rule.holds record field args = (rule.answer? record field args == some true) :=
  (guarded?_beq rule.arity args (rule.body record field)).symm

end PresenceRule

/-- A value rule. -/
inductive ValueRule where
  /-- The body is given the record, the value and the arguments. -/
  | predicate (arity : Arity) (body : Record → Value → List String → Option Bool)
  /-- A pattern that the text of the value has to match.  Arguments do not
  count. -/
  | pattern (regex : Regex)
  /-- The arguments are a pattern, cut at its commas. -/
  | argumentPattern

namespace ValueRule

/-- The arity of a rule that counts its arguments. -/
def arity? : ValueRule → Option Arity
  | predicate arity _ => some arity
  | pattern _ => none
  | argumentPattern => some (.atLeast 1)

/-- A fixed pattern is a pattern, everything else a function. -/
def kind : ValueRule → Kind
  | predicate _ _ | argumentPattern => .function
  | pattern _ => .pattern

/-- The pattern that arguments spell. -/
def patternOf (args : List String) : String :=
  ",".intercalate args

/-- Whether a value rule holds for the value of a field. -/
def holds (patterns : PatternSource) (rule : ValueRule) (record : Record) (value : Value)
    (args : List String) : Bool :=
  match rule with
  | predicate arity body => arity.accepts args.length && body record value args == some true
  | pattern regex => regex.isMatch value.stringify
  | argumentPattern =>
      Arity.accepts (.atLeast 1) args.length &&
        match patterns (patternOf args) with
        | some regex => regex.isMatch value.stringify
        | none => false

/-- Whether a value matches the pattern that the arguments spell. -/
def matchesArguments (patterns : PatternSource) (value : Value) (args : List String) : Bool :=
  (patterns (patternOf args)).any fun regex => regex.isMatch value.stringify

/-- The answer of a value rule, unless it asks for an argument that is not there. -/
def answer? (patterns : PatternSource) (rule : ValueRule) (record : Record) (value : Value)
    (args : List String) : Option Bool :=
  match rule with
  | predicate arity body => guarded? arity args (body record value)
  | pattern regex => some (regex.isMatch value.stringify)
  | argumentPattern =>
      guarded? (.atLeast 1) args fun args => some (matchesArguments patterns value args)

theorem holds_eq_answer? (patterns : PatternSource) (rule : ValueRule) (record : Record)
    (value : Value) (args : List String) :
    rule.holds patterns record value args =
      (rule.answer? patterns record value args == some true) := by
  cases rule with
  | predicate arity body => exact (guarded?_beq arity args (body record value)).symm
  | pattern regex => simp only [holds, answer?, Option.some_beq_some, beq_true]
  | argumentPattern =>
      simp only [holds, answer?, guarded?_beq, matchesArguments, Option.some_beq_some, beq_true]
      cases patterns (patternOf args) <;> rfl

end ValueRule

end Rulebook
