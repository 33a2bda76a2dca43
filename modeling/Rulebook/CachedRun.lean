import Rulebook.Validator

/-!
# Runs through a cache

A validator at work has a cache of patterns.  It looks a pattern in arguments up at the
moment when it comes to the rule that asks for it, and the cache is left to the next rule
as it is after that.  Rules that are not come to, or whose field is not there, look nothing
up.
-/

namespace Rulebook

/-- What is found with a cache of patterns at hand. -/
abbrev Cached (α : Type) := StateM PatternCache α

namespace ValueRule

/-- The pattern that a rule looks up when it is given these arguments. -/
def lookup? (args : List String) : ValueRule → Option String
  | argumentPattern =>
      if Arity.accepts (.atLeast 1) args.length then some (patternOf args) else none
  | predicate _ _ | pattern _ => none

/-- Whether a value rule holds for the value of a field. -/
def run (compile : PatternSource) (evict : Eviction) (rule : ValueRule) (record : Record)
    (value : Value) (args : List String) : Cached Bool :=
  match rule.lookup? args with
  | some text => do
      let regex? ← modifyGet fun cache => cache.get compile evict text
      return rule.holds (fun _ => regex?) record value args
  | none => return rule.holds (fun _ => none) record value args

end ValueRule

namespace Registry

/-- The verdicts of a value rule on some values, one after the other. -/
def runCheck (compile : PatternSource) (evict : Eviction) (registry : Registry) (rule : String)
    (values : List Value) (args : List String) (record : Record) : Cached (Option (List Bool)) :=
  match registry.values.find? rule with
  | some r => do
      let verdicts ← values.mapM fun value => r.run compile evict record value args
      return some verdicts
  | none => return none

end Registry

/-- One part after another, which is not taken if the walk ended before. -/
def Walk.andThenRun (walk : Walk) (next : Unit → Cached Walk) : Cached Walk :=
  if walk.stopped then return walk
  else do
    let rest ← next ()
    return ⟨walk.rejects ++ rest.rejects, rest.stopped⟩

namespace Validator

/-- Whether a field of a record passes a rule. -/
def runCall (compile : PatternSource) (evict : Eviction) (validator : Validator)
    (record : Record) (field : String) (call : Call) : Cached Bool :=
  match validator.registry.presence.find? call.name with
  | some rule => return rule.holds record field call.args
  | none =>
      match validator.registry.values.find? call.name with
      | none => return !validator.config.strictRules
      | some rule =>
          match record.find? field with
          | some value => rule.run compile evict record value call.args
          | none => return true

/-- Walks through the rules of a field. -/
def runCalls (compile : PatternSource) (evict : Eviction) (validator : Validator)
    (record : Record) (path field : String) : List Call → Cached Walk
  | [] => return .clear
  | call :: calls => do
      if ← validator.runCall compile evict record field call then
        validator.runCalls compile evict record path field calls
      else
        let judge : Judge := ⟨validator.registry, validator.config, fun _ => none⟩
        Walk.andThenRun ⟨[judge.reject path field call], !validator.config.resumeOnFailed⟩ fun _ =>
          validator.runCalls compile evict record path field calls

mutual

/-- Walks through the rules for one field. -/
def runSpec (compile : PatternSource) (evict : Eviction) (validator : Validator)
    (record : Record) (path field : String) : RuleSpec → Cached Walk
  | .rules text => validator.runCalls compile evict record path field (Call.parse text)
  | .nested fields =>
      match record.find? field with
      | some value => validator.runFields compile evict value.fields (joinPath path field) fields
      | none => return .clear

/-- Walks through the fields of a rule set. -/
def runFields (compile : PatternSource) (evict : Eviction) (validator : Validator)
    (record : Record) (path : String) : List (String × RuleSpec) → Cached Walk
  | [] => return .clear
  | (field, spec) :: rest => do
      let walk ← validator.runSpec compile evict record path field spec
      Walk.andThenRun walk fun _ => validator.runFields compile evict record path rest

end

/-- Validates a record. -/
def run (compile : PatternSource) (evict : Eviction) (validator : Validator)
    (record : Record) (rules : RuleSet) : Cached Outcome := do
  let walk ← validator.runFields compile evict record "" rules
  return .ofRejects walk.rejects

/-- Validates the record that a JSON text stands for. -/
def runText (compile : PatternSource) (reason : String → String) (evict : Eviction)
    (validator : Validator) (text : String) (rules : RuleSet) : Cached Outcome :=
  match Record.ofText? reason text with
  | .ok record => validator.run compile evict record rules
  | .error e => return .invalidInput e.message

end Validator

end Rulebook
