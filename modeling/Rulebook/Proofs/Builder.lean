import Rulebook.Builder
import Rulebook.Proofs.Registry.Log

/-!
# What a builder comes to

A builder puts the registrations off until it builds, so they do not come in between the options
in the order in which they were asked for.  This makes no difference: the options have no part in
whether a registration goes through or in what it stores.  So building is the same as making the
registrations on a new validator, one after the other, and setting the options at the end, and
the first registration that fails is the error of both.
-/

namespace Rulebook

/-! ## Registering one by one -/

namespace Validator

/-- Tries to register a rule: the answer, and the validator after the attempt. -/
def perform (compile : PatternSource) (validator : Validator) :
    Registration → Except RegistrationError Unit × Validator
  | .value text rule => validator.add text rule
  | .pattern text p => validator.addPattern compile text p
  | .presence text rule => validator.addPresence text rule

/-- Registrations that all go through on a validator, one after the other, and the validator
after them. -/
inductive Admits (compile : PatternSource) : Validator → List Registration → Validator → Prop where
  | nil (validator : Validator) : Admits compile validator [] validator
  | cons {validator next last : Validator} {registration : Registration}
      {rest : List Registration} (first : validator.perform compile registration = (.ok (), next))
      (others : Admits compile next rest last) :
      Admits compile validator (registration :: rest) last

/-- A first registration that fails after others on a validator, and why it does. -/
def FailsAt (compile : PatternSource) (validator : Validator) (registrations : List Registration)
    (reason : RegistrationError) : Prop :=
  ∃ front failing back reached, registrations = front ++ failing :: back ∧
    validator.Admits compile front reached ∧ (reached.perform compile failing).1 = .error reason

variable {compile : PatternSource} {validator next last : Validator} {registration : Registration}
  {rest : List Registration} {reason : RegistrationError}

theorem perform_eq (validator : Validator) (registration : Registration) :
    validator.perform compile registration =
      validator.register fun registry => registry.attempt compile registration := by
  cases registration <;> rfl

theorem admits_nil_iff : validator.Admits compile [] last ↔ validator = last := by
  constructor
  · rintro ⟨⟩
    rfl
  · rintro rfl
    exact .nil validator

theorem admits_cons_iff :
    validator.Admits compile (registration :: rest) last ↔
      ∃ next, validator.perform compile registration = (.ok (), next) ∧
        next.Admits compile rest last := by
  constructor
  · rintro ⟨⟩
    next first others => exact ⟨_, first, others⟩
  · rintro ⟨next, first, others⟩
    exact .cons first others

theorem Admits.unique {other : Validator} (admits : validator.Admits compile rest last)
    (again : validator.Admits compile rest other) : last = other := by
  induction admits with
  | nil validator => exact admits_nil_iff.mp again
  | cons first _ ih =>
      obtain ⟨next, same, others⟩ := admits_cons_iff.mp again
      rw [first] at same
      cases same
      exact ih others

theorem not_failsAt_nil : ¬validator.FailsAt compile [] reason := by
  rintro ⟨front, failing, back, _, whole, _⟩
  simp at whole

theorem failsAt_cons_iff_of_error {found : RegistrationError}
    (failed : (validator.perform compile registration).1 = .error found) :
    validator.FailsAt compile (registration :: rest) reason ↔ found = reason := by
  constructor
  · rintro ⟨_ | ⟨registration, front⟩, failing, back, reached, whole, admits, again⟩
    · cases whole
      cases admits
      rw [failed] at again
      exact Except.error.inj again
    · cases whole
      obtain ⟨_, first, _⟩ := admits_cons_iff.mp admits
      rw [first] at failed
      cases failed
  · rintro rfl
    exact ⟨[], registration, rest, validator, rfl, .nil validator, failed⟩

theorem failsAt_cons_iff_of_ok (first : validator.perform compile registration = (.ok (), next)) :
    validator.FailsAt compile (registration :: rest) reason ↔ next.FailsAt compile rest reason := by
  constructor
  · rintro ⟨_ | ⟨registration, front⟩, failing, back, reached, whole, admits, failed⟩
    · cases whole
      cases admits
      rw [first] at failed
      cases failed
    · cases whole
      obtain ⟨_, same, others⟩ := admits_cons_iff.mp admits
      rw [first] at same
      cases same
      exact ⟨front, failing, back, reached, rfl, others, failed⟩
  · rintro ⟨front, failing, back, reached, rfl, admits, failed⟩
    exact ⟨registration :: front, failing, back, reached, rfl, .cons first admits, failed⟩

/-! ## Options -/

theorem register_setConfig (validator : Validator) (patch : Config.Patch)
    (call : Registry → Except RegistrationError Unit × Registry) :
    (validator.setConfig patch).register call =
      (validator.register call).map id fun next => next.setConfig patch :=
  rfl

/-- Options have no part in registrations. -/
theorem perform_setConfig (validator : Validator) (patch : Config.Patch)
    (registration : Registration) :
    (validator.setConfig patch).perform compile registration =
      (validator.perform compile registration).map id fun next => next.setConfig patch := by
  rw [perform_eq, perform_eq, register_setConfig]

end Validator

namespace Pending

/-- The registration that waits. -/
def registration : Pending → Registration
  | rule name r => .value name r
  | pattern name p => .pattern name p

variable {compile : PatternSource} {list : List Pending} {validator : Validator}
  {patch : Config.Patch}

theorem perform_eq (pending : Pending) (validator : Validator) :
    pending.perform compile validator = validator.perform compile pending.registration := by
  cases pending <;> rfl

theorem foldlM_register_of_ok {pending : Pending} {next : Validator}
    (first : validator.perform compile pending.registration = (.ok (), next)) :
    (pending :: list).foldlM (register compile) (validator.setConfig patch) =
      list.foldlM (register compile) (next.setConfig patch) := by
  rw [List.foldlM_cons, register, perform_eq, Validator.perform_setConfig, first]
  rfl

theorem foldlM_register_of_error {pending : Pending} {reason : RegistrationError}
    (failed : (validator.perform compile pending.registration).1 = .error reason) :
    (pending :: list).foldlM (register compile) (validator.setConfig patch) = .error reason := by
  rw [List.foldlM_cons, register, perform_eq, Validator.perform_setConfig, Prod.map_fst, failed]
  rfl

/-- Waiting registrations go through under any options if they do under others, and then
nothing but the options is different. -/
theorem foldlM_register_eq_ok_iff {last : Validator} :
    list.foldlM (register compile) (validator.setConfig patch) = .ok last ↔
      ∃ direct, validator.Admits compile (list.map registration) direct ∧
        last = direct.setConfig patch := by
  induction list generalizing validator with
  | nil =>
      simp only [List.foldlM_nil, List.map_nil, Validator.admits_nil_iff, exists_eq_left', pure,
        Except.pure, Except.ok.injEq]
      exact eq_comm
  | cons pending list ih =>
      rw [List.map_cons]
      simp only [Validator.admits_cons_iff]
      match performed : validator.perform compile pending.registration with
      | (.ok (), next) =>
          rw [foldlM_register_of_ok performed, ih]
          simp
      | (.error reason, next) =>
          rw [foldlM_register_of_error (congrArg Prod.fst performed)]
          simp

/-- The first of them that fails is the same one, for the same reason. -/
theorem foldlM_register_eq_error_iff {reason : RegistrationError} :
    list.foldlM (register compile) (validator.setConfig patch) = .error reason ↔
      validator.FailsAt compile (list.map registration) reason := by
  induction list generalizing validator with
  | nil =>
      rw [List.map_nil, iff_false_right Validator.not_failsAt_nil]
      exact nofun
  | cons pending list ih =>
      rw [List.map_cons]
      match performed : validator.perform compile pending.registration with
      | (.ok (), next) =>
          rw [foldlM_register_of_ok performed, ih, Validator.failsAt_cons_iff_of_ok performed]
      | (.error found, next) =>
          have failed := congrArg Prod.fst performed
          rw [foldlM_register_of_error failed, Except.error.injEq,
            Validator.failsAt_cons_iff_of_error failed]

end Pending

/-! ## Steps of building -/

namespace BuildStep

/-- The registration that a step asks for. -/
def registration? : BuildStep → Option Registration
  | config _ | resumeOnFailed _ | strictRules _ => none
  | rule name r => some (.value name r)
  | predicate name arity body => some (.value name (.predicate arity body))
  | pattern name p => some (.pattern name p)

/-- The options that a step sets. -/
def patch? : BuildStep → Option Config.Patch
  | config c => some c.toPatch
  | resumeOnFailed on => some ⟨some on, none⟩
  | strictRules on => some ⟨none, some on⟩
  | rule _ _ | predicate _ _ _ | pattern _ _ => none

end BuildStep

namespace Builder

theorem config_step (builder : Builder) (step : BuildStep) :
    (builder.step step).config = step.patch?.toList.foldl Config.apply builder.config := by
  cases step <;> rfl

theorem pending_step (builder : Builder) (step : BuildStep) :
    (builder.step step).pending.map Pending.registration =
      builder.pending.map Pending.registration ++ step.registration?.toList := by
  cases step <;> simp [Builder.step, BuildStep.registration?, Pending.registration]

/-- The options that were set, in the order in which they were, make the configuration. -/
theorem config_steps (builder : Builder) (steps : List BuildStep) :
    (builder.steps steps).config =
      (steps.filterMap BuildStep.patch?).foldl Config.apply builder.config := by
  induction steps generalizing builder with
  | nil => rfl
  | cons step steps ih =>
      change ((builder.step step).steps steps).config = _
      rw [ih, config_step, List.filterMap_cons]
      cases step.patch? <;> rfl

/-- The registrations that were asked for wait in the same order. -/
theorem pending_steps (builder : Builder) (steps : List BuildStep) :
    (builder.steps steps).pending.map Pending.registration =
      builder.pending.map Pending.registration ++
        steps.filterMap BuildStep.registration? := by
  induction steps generalizing builder with
  | nil => exact (List.append_nil _).symm
  | cons step steps ih =>
      change ((builder.step step).steps steps).pending.map _ = _
      rw [ih, pending_step, List.append_assoc, List.filterMap_cons]
      cases step.registration? <;> rfl

theorem withConfig_eq (config : Config) :
    Validator.withConfig config = Validator.new.setConfig config.toPatch :=
  rfl

theorem build_eq_ok_iff {compile : PatternSource} {builder : Builder} {validator : Validator} :
    builder.build compile = .ok validator ↔
      ∃ direct, Validator.new.Admits compile (builder.pending.map Pending.registration) direct ∧
        validator = direct.setConfig builder.config.toPatch := by
  rw [build, withConfig_eq, Pending.foldlM_register_eq_ok_iff]

theorem build_eq_error_iff {compile : PatternSource} {builder : Builder}
    {reason : RegistrationError} :
    builder.build compile = .error reason ↔
      Validator.new.FailsAt compile (builder.pending.map Pending.registration) reason := by
  rw [build, withConfig_eq, Pending.foldlM_register_eq_error_iff]

/-- Building is registering one by one, whatever compiles the patterns.  It succeeds just if all
registrations go through on a new validator, in the order in which they were asked for.  The
validator that is built is then the one after them, with the options that were set last: it knows
the same rules and gives the same outcomes.  Otherwise the error is that of the first
registration that fails. -/
theorem build_registers (compile : PatternSource) (steps : List BuildStep) :
    let registrations := steps.filterMap BuildStep.registration?
    let net := (steps.filterMap BuildStep.patch?).foldl Config.apply .default
    let built := (Builder.new.steps steps).build compile
    ((∃ validator, built = .ok validator) ↔
      ∃ direct, Validator.new.Admits compile registrations direct) ∧
    (∀ validator direct, built = .ok validator →
      Validator.new.Admits compile registrations direct →
        validator.config = net ∧ validator.registry = direct.registry ∧
          ∀ patterns record rules, validator.validateWith patterns record rules =
            (direct.setConfig net.toPatch).validateWith patterns record rules) ∧
    ∀ reason, built = .error reason ↔
      ∃ front failing back reached, registrations = front ++ failing :: back ∧
        Validator.new.Admits compile front reached ∧
        (reached.perform compile failing).1 = .error reason := by
  intro registrations net built
  have configEq : (Builder.new.steps steps).config = net := config_steps new steps
  have pendingEq : (Builder.new.steps steps).pending.map Pending.registration = registrations :=
    pending_steps new steps
  have succeeds (validator : Validator) : built = .ok validator ↔
      ∃ direct, Validator.new.Admits compile registrations direct ∧
        validator = direct.setConfig net.toPatch := by
    rw [← configEq, ← pendingEq]
    exact build_eq_ok_iff
  refine ⟨?_, ?_, fun reason => ?_⟩
  · simp only [succeeds]
    constructor
    · rintro ⟨_, direct, admits, _⟩
      exact ⟨direct, admits⟩
    · rintro ⟨direct, admits⟩
      exact ⟨_, direct, admits, rfl⟩
  · intro validator direct isBuilt admits
    obtain ⟨other, again, rfl⟩ := (succeeds validator).mp isBuilt
    cases admits.unique again
    exact ⟨Config.apply_toPatch _ _, rfl, fun _ _ _ => rfl⟩
  · rw [← pendingEq]
    exact build_eq_error_iff

/-- A rule that replaces another one between options that overwrite each other, and a text that
is no name, with one after it. -/
theorem build_registers_even :
    let compile := Regex.compile?
    let never : Record → Value → List String → Option Bool := fun _ _ _ => some false
    let steps : List BuildStep := [.strictRules true, .rule "even" .argumentPattern,
      .resumeOnFailed true, .predicate " even" .any never, .config ⟨true, false⟩,
      .resumeOnFailed false]
    (∃ validator direct, (Builder.new.steps steps).build compile = .ok validator ∧
      Validator.new.Admits compile (steps.filterMap BuildStep.registration?) direct ∧
      validator.config = ⟨false, false⟩ ∧ validator.registry = direct.registry ∧
      direct.registry.values.find? "even" = some (.predicate .any never)) ∧
    (Builder.new.steps (steps ++ [.rule "a:b" .argumentPattern, .rule "" .argumentPattern])).build
      compile = .error (.reservedSeparator "a:b" ':') := by
  intro compile never steps
  have admits : Validator.new.Admits compile (steps.filterMap BuildStep.registration?) _ :=
    .cons rfl (.cons rfl (.nil _))
  constructor
  · obtain ⟨succeeds, agrees, _⟩ := build_registers compile steps
    obtain ⟨validator, isBuilt⟩ := succeeds.mpr ⟨_, admits⟩
    obtain ⟨configEq, registryEq, _⟩ := agrees validator _ isBuilt admits
    exact ⟨validator, _, isBuilt, admits, configEq, registryEq, rfl⟩
  · obtain ⟨_, _, fails⟩ :=
      build_registers compile (steps ++ [.rule "a:b" .argumentPattern, .rule "" .argumentPattern])
    exact (fails _).mpr ⟨_, .value "a:b" .argumentPattern, [.value "" .argumentPattern], _, rfl,
      admits, rfl⟩

end Builder

end Rulebook
