import Rulebook.Proofs.Regex.Cache
import Rulebook.Session

/-!
# Runs that do not show their cache

A look-up finds what the pattern compiles to and keeps a coherent cache coherent.  So a run
through a cache comes to the outcome that it would come to if it compiled every pattern
anew, whatever the cache holds before, and it leaves a cache of which the same can be said.
-/

namespace Rulebook

namespace Cached

/-- With every coherent cache an answer is found that does not depend on it, and the cache
stays coherent. -/
def Yields (compile : PatternSource) {α : Type} (action : Cached α) (answer : α) : Prop :=
  ∀ cache : PatternCache, cache.Coherent compile →
    (action.run cache).1 = answer ∧ (action.run cache).2.Coherent compile

namespace Yields

variable {compile : PatternSource} {α β : Type}

protected theorem pure (answer : α) : Yields compile (pure answer) answer :=
  fun _ coherent => ⟨rfl, coherent⟩

protected theorem bind {action : Cached α} {next : α → Cached β} {answer : α} {last : β}
    (yields : action.Yields compile answer) (yieldsNext : (next answer).Yields compile last) :
    (action >>= next).Yields compile last := by
  intro cache coherent
  obtain ⟨answerEq, stillCoherent⟩ := yields cache coherent
  change ((next (action.run cache).1).run (action.run cache).2).1 = last ∧
    ((next (action.run cache).1).run (action.run cache).2).2.Coherent compile
  rw [answerEq]
  exact yieldsNext _ stillCoherent

theorem get (evict : Eviction) (pattern : String) :
    Yields compile (modifyGet fun cache => cache.get compile evict pattern)
      (PatternCache.compile? compile pattern) :=
  fun _ coherent => coherent.get evict pattern

theorem mapM {action : α → Cached β} {answer : α → β}
    (yields : ∀ a, (action a).Yields compile (answer a)) (list : List α) :
    Yields compile (list.mapM action) (list.map answer) := by
  induction list with
  | nil =>
      rw [List.mapM_nil]
      exact .pure []
  | cons a list ih =>
      rw [List.mapM_cons]
      exact (yields a).bind (ih.bind (.pure _))

end Yields

end Cached

open Cached

section

variable (compile : PatternSource) (evict : Eviction)

theorem ValueRule.run_yields (rule : ValueRule) (record : Record) (value : Value)
    (args : List String) :
    (rule.run compile evict record value args).Yields compile
      (rule.holds (PatternCache.compile? compile) record value args) := by
  cases rule with
  | predicate arity body => exact .pure _
  | pattern regex => exact .pure _
  | argumentPattern =>
      by_cases accepted : Arity.accepts (.atLeast 1) args.length = true
      · rw [run, lookup?, if_pos accepted]
        exact (Yields.get evict (patternOf args)).bind (.pure _)
      · rw [run, lookup?, if_neg accepted]
        have fails : argumentPattern.holds (PatternCache.compile? compile) record value args =
            argumentPattern.holds (fun _ => none) record value args := by
          simp [holds, accepted]
        rw [fails]
        exact .pure _

theorem Registry.runCheck_yields (registry : Registry) (rule : String) (values : List Value)
    (args : List String) (record : Record) :
    (registry.runCheck compile evict rule values args record).Yields compile
      (registry.check (PatternCache.compile? compile) rule values args record) := by
  unfold runCheck check
  cases registry.values.find? rule with
  | none => exact .pure none
  | some r =>
      exact (Yields.mapM (fun value => r.run_yields compile evict record value args) values).bind
        (.pure _)

variable {compile}

theorem Walk.andThenRun_yields (walk : Walk) {action : Unit → Cached Walk} {next : Unit → Walk}
    (yields : (action ()).Yields compile (next ())) :
    (walk.andThenRun action).Yields compile (walk.andThen next) := by
  unfold andThenRun andThen
  split
  · exact .pure walk
  · exact yields.bind (.pure _)

namespace Validator

variable (compile) (validator : Validator)

/-- What a validator goes by that compiles every pattern anew. -/
def judge : Judge := ⟨validator.registry, validator.config, PatternCache.compile? compile⟩

theorem runCall_yields (record : Record) (field : String) (call : Call) :
    (validator.runCall compile evict record field call).Yields compile
      ((validator.judge compile).passes record field call) := by
  unfold runCall Judge.passes judge
  dsimp only
  cases validator.registry.presence.find? call.name with
  | some rule => exact .pure _
  | none =>
      cases validator.registry.values.find? call.name with
      | none => exact .pure _
      | some rule =>
          cases record.find? field with
          | some value => exact rule.run_yields compile evict record value call.args
          | none => exact .pure true

theorem runCalls_yields (record : Record) (path field : String) (calls : List Call) :
    (validator.runCalls compile evict record path field calls).Yields compile
      ((validator.judge compile).walkCalls record path field calls) := by
  induction calls with
  | nil => exact .pure Walk.clear
  | cons call calls ih =>
      rw [runCalls, Judge.walkCalls]
      apply (validator.runCall_yields compile evict record field call).bind
      split
      · exact ih
      · exact Walk.andThenRun_yields _ ih

mutual

theorem runSpec_yields (record : Record) (path field : String) :
    ∀ spec : RuleSpec, (validator.runSpec compile evict record path field spec).Yields compile
      ((validator.judge compile).walkSpec record path field spec)
  | .rules text => validator.runCalls_yields compile evict record path field (Call.parse text)
  | .nested fields => by
      rw [runSpec, Judge.walkSpec]
      cases record.find? field with
      | some value => exact runFields_yields value.fields (joinPath path field) fields
      | none => exact .pure Walk.clear

theorem runFields_yields (record : Record) (path : String) :
    ∀ fields : List (String × RuleSpec),
      (validator.runFields compile evict record path fields).Yields compile
        ((validator.judge compile).walkFields record path fields)
  | [] => .pure Walk.clear
  | (field, spec) :: rest => by
      rw [runFields, Judge.walkFields]
      apply (runSpec_yields record path field spec).bind
      exact Walk.andThenRun_yields _ (runFields_yields record path rest)

end

/-- A run comes to the outcome of a validation that compiles every pattern anew. -/
theorem run_yields (record : Record) (rules : RuleSet) :
    (validator.run compile evict record rules).Yields compile
      (validator.validate compile record rules) :=
  (validator.runFields_yields compile evict record "" rules).bind (.pure _)

theorem runText_yields (reason : String → String) (text : String) (rules : RuleSet) :
    (validator.runText compile reason evict text rules).Yields compile
      (validator.validateText compile reason text rules) := by
  unfold runText validateText validateInput
  cases Record.ofText? reason text with
  | ok record => exact validator.run_yields compile evict record rules
  | error e => exact .pure _

end Validator

end

end Rulebook
