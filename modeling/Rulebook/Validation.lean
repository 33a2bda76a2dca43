import Rulebook.Config
import Rulebook.Outcome
import Rulebook.Registry
import Rulebook.Rule.Call
import Rulebook.Rule.Set

/-!
# Validation

A record is validated by walking through a rule set.  The fields are visited in
the order of the set.  The rules of a rule string are checked one after the
other: a presence rule always, a value rule only if the field is there, and an
unknown rule fails where rules are strict.  A nested rule set is walked for the
record that its field holds, and not at all if the field is absent.

Each rule that fails adds a reject.  Unless the configuration says to resume,
the first reject ends the walk at every level.
-/

namespace Rulebook

/-- The rejects of a part of a walk, and whether the walk ends there. -/
structure Walk where
  rejects : List Reject
  stopped : Bool
deriving DecidableEq, Inhabited

namespace Walk

/-- A part in which nothing failed. -/
def clear : Walk := ⟨[], false⟩

/-- One part after another, which is not taken if the walk ended before. -/
def andThen (walk : Walk) (next : Unit → Walk) : Walk :=
  if walk.stopped then walk
  else
    let rest := next ()
    ⟨walk.rejects ++ rest.rejects, rest.stopped⟩

end Walk

/-- What a walk goes by. -/
structure Judge where
  registry : Registry
  config : Config
  /-- What compiles the patterns that come with arguments. -/
  patterns : PatternSource

namespace Judge

/-- Whether a field of a record passes a rule. -/
def passes (judge : Judge) (record : Record) (field : String) (call : Call) : Bool :=
  match judge.registry.presence.find? call.name with
  | some rule => rule.holds record field call.args
  | none =>
      match judge.registry.values.find? call.name with
      | none => !judge.config.strictRules
      | some rule =>
          match record.find? field with
          | some value => rule.holds judge.patterns record value call.args
          | none => true

/-- The reject of a rule that a field did not pass. -/
def reject (judge : Judge) (path field : String) (call : Call) : Reject :=
  ⟨path, field, call.name, call.args,
    if judge.registry.contains call.name then none else some "unknown rule"⟩

/-- Walks through the rules of a field. -/
def walkCalls (judge : Judge) (record : Record) (path field : String) : List Call → Walk
  | [] => .clear
  | call :: calls =>
      if judge.passes record field call then judge.walkCalls record path field calls
      else
        Walk.andThen ⟨[judge.reject path field call], !judge.config.resumeOnFailed⟩ fun _ =>
          judge.walkCalls record path field calls

mutual

/-- Walks through the rules for one field. -/
def walkSpec (judge : Judge) (record : Record) (path field : String) : RuleSpec → Walk
  | .rules text => judge.walkCalls record path field (Call.parse text)
  | .nested fields =>
      match record.find? field with
      | some value => judge.walkFields value.fields (joinPath path field) fields
      | none => .clear

/-- Walks through the fields of a rule set. -/
def walkFields (judge : Judge) (record : Record) (path : String) :
    List (String × RuleSpec) → Walk
  | [] => .clear
  | (field, spec) :: rest =>
      (judge.walkSpec record path field spec).andThen fun _ => judge.walkFields record path rest

end

/-- The outcome of a walk from the top. -/
def outcome (judge : Judge) (record : Record) (rules : RuleSet) : Outcome :=
  .ofRejects (judge.walkFields record "" rules).rejects

end Judge

/-- Why input is no record or no rule set. -/
inductive InputError where
  /-- The text is no JSON text of the kind that is called for, and the reader says why. -/
  | invalidJson (reason : String)
  /-- The document is none of an object; `found` is the kind that it is of. -/
  | notAnObject (found : String)
deriving DecidableEq, Inhabited

/-- An error in words. -/
def InputError.message : InputError → String
  | invalidJson reason => "Invalid JSON string: " ++ reason
  | notAnObject found => "Invalid input: expected a JSON object, got " ++ found

end Rulebook
