import Rulebook.Proofs.Session.History
import Rulebook.Proofs.Session.Transparency
import Rulebook.Regex.Compile

/-!
# Sessions of validators on their own

Validators that were copied from each other share a cache, but no step shows it.  Each
validator of a session is what the steps in its own history make of a new one, and it
answers as if there were neither a cache nor another validator.  So nothing that is done to
the other validator can be told from its answers, and no check of rules leaves a trace.

A step that fails changes nothing at all, even if a part of what it asks for could be done.
-/

namespace Rulebook

open Cached

section

variable {compile : PatternSource} {reason : String → String}

/-- With a cache at hand a validator answers as it does by itself. -/
theorem Validator.step_yields (evict : Eviction) (validator : Validator) (s : SessionStep) :
    (validator.step compile reason evict s).Yields compile
      (validator.respond compile reason s) := by
  cases s with
  | check rule values args record =>
      simp only [step, respond]
      apply (validator.registry.runCheck_yields compile evict rule values args record).bind
      cases validator.registry.check (PatternCache.compile? compile) rule values args record with
      | some verdicts => exact .pure _
      | none => exact .pure _
  | validate record rules =>
      exact (validator.run_yields compile evict record rules).bind (.pure _)
  | validateText text rules =>
      exact (validator.runText_yields compile evict reason text rules).bind (.pure _)
  | setConfigJson options =>
      simp only [step, respond]
      cases validator.setConfigJson? options with
      | some next => exact .pure _
      | none => exact .pure _
  | addCompiled name pattern =>
      simp only [step, respond]
      cases compile pattern with
      | some regex =>
          simp only [fst_run_pure]
          exact .pure _
      | none => exact .pure _
  | require rule record field args =>
      simp only [step, respond]
      cases validator.registry.require rule record field args with
      | some verdict => exact .pure _
      | none => exact .pure _
  | _ =>
      simp only [step, respond, fst_run_pure]
      exact .pure _

/-! ## Failures -/

namespace Validator

variable {validator : Validator} {name : String} {e : RegistrationError}

/-- A call that fails leaves the validator as it is if it leaves the registry so. -/
theorem snd_register_of_error {call : Registry → Except RegistrationError Unit × Registry}
    (leaves : (call validator.registry).1 = .error e →
      (call validator.registry).2 = validator.registry)
    (failed : (validator.register call).1 = .error e) :
    (validator.register call).2 = validator := by
  change { validator with registry := (call validator.registry).2 } = validator
  rw [leaves failed]

theorem snd_add_of_error {rule : ValueRule} (failed : (validator.add name rule).1 = .error e) :
    (validator.add name rule).2 = validator := by
  unfold add at failed ⊢
  exact snd_register_of_error Registry.snd_add_of_error failed

theorem snd_addPattern_of_error {pattern : String}
    (failed : (validator.addPattern compile name pattern).1 = .error e) :
    (validator.addPattern compile name pattern).2 = validator := by
  unfold addPattern at failed ⊢
  exact snd_register_of_error Registry.snd_addPattern_of_error failed

theorem snd_addPresence_of_error {rule : PresenceRule}
    (failed : (validator.addPresence name rule).1 = .error e) :
    (validator.addPresence name rule).2 = validator := by
  unfold addPresence at failed ⊢
  exact snd_register_of_error Registry.snd_addPresence_of_error failed

/-- A registration is answered by an error just if it failed. -/
theorem snd_map_ofRegistration {result : Except RegistrationError Unit × Validator}
    (leaves : ∀ e, result.1 = .error e → result.2 = validator)
    (failed : (result.map SessionAnswer.ofRegistration id).1.isError = true) :
    (result.map SessionAnswer.ofRegistration id).2 = validator := by
  obtain ⟨answer, next⟩ := result
  cases answer with
  | ok => cases failed
  | error e => exact leaves e rfl

end Validator

/-- A step that fails changes neither the validator nor its cache. -/
theorem Validator.step_of_isError {evict : Eviction} {validator : Validator} {s : SessionStep}
    {cache : PatternCache}
    (failed : ((validator.step compile reason evict s).run cache).1.1.isError = true) :
    ((validator.step compile reason evict s).run cache).1.2 = validator ∧
      ((validator.step compile reason evict s).run cache).2 = cache := by
  cases s with
  | setConfigJson options =>
      simp only [step] at failed ⊢
      cases read : validator.setConfigJson? options with
      | some next =>
          rw [read] at failed
          cases failed
      | none => exact ⟨rfl, rfl⟩
  | addPattern name pattern =>
      simp only [step, fst_run_pure] at failed ⊢
      exact ⟨snd_map_ofRegistration (fun _ => snd_addPattern_of_error) failed, rfl⟩
  | addRule name rule =>
      simp only [step, fst_run_pure] at failed ⊢
      exact ⟨snd_map_ofRegistration (fun _ => snd_add_of_error) failed, rfl⟩
  | addPresence name rule =>
      simp only [step, fst_run_pure] at failed ⊢
      exact ⟨snd_map_ofRegistration (fun _ => snd_addPresence_of_error) failed, rfl⟩
  | addCompiled name pattern =>
      simp only [step] at failed ⊢
      cases compiled : compile pattern with
      | some regex =>
          simp only [compiled, fst_run_pure] at failed ⊢
          exact ⟨snd_map_ofRegistration (fun _ => snd_add_of_error) failed, rfl⟩
      | none => exact ⟨rfl, rfl⟩
  | check rule values args record =>
      simp only [step, Registry.runCheck] at failed ⊢
      cases found : validator.registry.values.find? rule with
      | some r =>
          rw [found] at failed
          cases failed
      | none => exact ⟨rfl, rfl⟩
  | require rule record field args =>
      simp only [step] at failed ⊢
      cases verdict : validator.registry.require rule record field args with
      | some holds =>
          rw [verdict] at failed
          cases failed
      | none => exact ⟨rfl, rfl⟩
  | _ => cases failed

end

namespace Session

/-! ## One step -/

/-- The validators of a session, without their caches. -/
def validators (session : Session) : Slots Validator :=
  ⟨session.current, session.saved⟩

/-- What the caches of a session hold is right. -/
structure Coherent (compile : PatternSource) (session : Session) : Prop where
  current : session.cache.Coherent compile
  saved : ∀ cache ∈ session.savedCache, cache.Coherent compile

section

variable {compile : PatternSource} {reason : String → String} {session first second : Session}

theorem coherent_new : new.Coherent compile where
  current := PatternCache.coherent_empty
  saved cache isEmpty := by
    obtain rfl := Option.some.inj isEmpty
    exact PatternCache.coherent_empty

/-- All that a step does: the current validator answers by itself, the validators become
what the step makes of them, and the caches stay right. -/
theorem Coherent.step (coherent : session.Coherent compile) (reason : String → String)
    (evict : Eviction) (s : SessionStep) :
    (session.step compile reason evict s).1 = (session.current.respond compile reason s).1 ∧
      (session.step compile reason evict s).2.validators =
        session.validators.step (Validator.next compile reason) s ∧
      (session.step compile reason evict s).2.Coherent compile := by
  unfold Session.step
  split
  · exact ⟨rfl, rfl, coherent.current, fun _ none => by cases none⟩
  · refine ⟨rfl, rfl, ?_, ?_⟩
    · cases own : session.savedCache with
      | none => exact coherent.current
      | some cache => exact coherent.saved cache own
    · intro cache isSaved
      obtain ⟨_, _, rfl⟩ := Option.map_eq_some_iff.mp isSaved
      exact coherent.current
  · next notSave notSwap =>
      obtain ⟨answerEq, stillCoherent⟩ :=
        session.current.step_yields evict s session.cache coherent.current
      have onlyCurrent : session.validators.step (Validator.next compile reason) s =
          ⟨session.current.next compile reason s, session.saved⟩ := by
        rw [Slots.step]
        · rfl
        · exact notSave
        · exact notSwap
      rw [onlyCurrent, Validator.next, ← answerEq]
      exact ⟨rfl, rfl, stillCoherent, coherent.saved⟩

/-- A step that fails changes neither a validator nor a cache. -/
theorem step_eq_self_of_isError {evict : Eviction} {s : SessionStep}
    (failed : (session.step compile reason evict s).1.isError = true) :
    (session.step compile reason evict s).2 = session := by
  unfold Session.step at failed ⊢
  split at failed
  · cases failed
  · cases failed
  · obtain ⟨validatorEq, cacheEq⟩ := Validator.step_of_isError failed
    change ({ session with
      current := ((session.current.step compile reason evict s).run session.cache).1.2
      cache := ((session.current.step compile reason evict s).run session.cache).2 } : Session) =
    session
    rw [validatorEq, cacheEq]

/-- A step that only asks leaves both validators as they are. -/
theorem Coherent.validators_step_of_asks (coherent : session.Coherent compile)
    (reason : String → String) (evict : Eviction) {s : SessionStep} (asks : s.asks = true) :
    (session.step compile reason evict s).2.validators = session.validators := by
  rw [(coherent.step reason evict s).2.1]
  cases s with
  | save => cases asks
  | swap => cases asks
  | _ =>
      simp only [Slots.step, Validator.next_of_asks compile reason asks]

/-! ## Runs -/

theorem Coherent.runWith (coherent : session.Coherent compile) (reason : String → String)
    (steps : List (Eviction × SessionStep)) :
    (session.runWith compile reason steps).2.Coherent compile := by
  induction steps generalizing session with
  | nil => exact coherent
  | cons head steps ih => exact ih (coherent.step reason head.1 head.2).2.2

/-- In a run each validator becomes what the steps in its own history make of it. -/
theorem Coherent.validators_runWith (coherent : session.Coherent compile)
    {histories : Slots (List SessionStep)}
    (follows : session.validators = histories.map (Validator.new.after compile reason))
    (steps : List (Eviction × SessionStep)) :
    (session.runWith compile reason steps).2.validators =
      ((steps.map Prod.snd).foldl (Slots.step fun history s => history ++ [s]) histories).map
        (Validator.new.after compile reason) := by
  induction steps generalizing session histories with
  | nil => exact follows
  | cons head steps ih =>
      obtain ⟨_, validatorsEq, stillCoherent⟩ := coherent.step reason head.1 head.2
      apply ih stillCoherent
      rw [validatorsEq, follows,
        Slots.map_step (Validator.new.after_append_singleton compile reason)]

/-- Only the current validator answers, and the saved one comes to be that only by
swapping.  Caches make no difference. -/
theorem Coherent.answers_eq (coherentFirst : first.Coherent compile)
    (coherentSecond : second.Coherent compile) (sameCurrent : first.current = second.current)
    {steps : List (Eviction × SessionStep)}
    (sameSaved : first.saved = second.saved ∨ ∀ s ∈ steps, s.2 ≠ .swap) :
    (first.runWith compile reason steps).1 = (second.runWith compile reason steps).1 := by
  induction steps generalizing first second with
  | nil => rfl
  | cons head steps ih =>
      obtain ⟨evict, s⟩ := head
      obtain ⟨answerFirst, nextFirst, stillFirst⟩ := coherentFirst.step reason evict s
      obtain ⟨answerSecond, nextSecond, stillSecond⟩ := coherentSecond.step reason evict s
      have related := @Slots.step_congr _ (Validator.next compile reason) first.validators
        second.validators s sameCurrent
        (sameSaved.imp_right fun stays => stays _ List.mem_cons_self)
      rw [← nextFirst, ← nextSecond] at related
      have later := ih stillFirst stillSecond related.1
        (sameSaved.imp related.2 fun stays s isLater => stays s (List.mem_cons_of_mem _ isLater))
      rw [Session.runWith, Session.runWith]
      simp only
      rw [answerFirst, answerSecond, sameCurrent, later]

/-- The saved validator stays as it is until something is saved or swapped. -/
theorem saved_runWith (compile : PatternSource) (reason : String → String) (session : Session)
    {steps : List (Eviction × SessionStep)} (stays : ∀ s ∈ steps, s.2 ≠ .save ∧ s.2 ≠ .swap) :
    (session.runWith compile reason steps).2.saved = session.saved := by
  induction steps generalizing session with
  | nil => rfl
  | cons head steps ih =>
      rw [List.forall_mem_cons] at stays
      have here : (session.step compile reason head.1 head.2).2.saved = session.saved := by
        unfold Session.step
        split
        · next isSave => exact absurd isSave stays.1.1
        · next isSwap => exact absurd isSwap stays.1.2
        · rfl
      exact (ih _ stays.2).trans here

end

/-! ## Isolation -/

/-- All that the validators of a session are and answer comes from their own histories. -/
structure Isolated (compile : PatternSource) (reason : String → String) (session : Session)
    (own : Slots (List SessionStep)) : Prop where
  current : session.current = Validator.new.after compile reason own.current
  saved : session.saved = Validator.new.after compile reason own.saved
  /-- The current validator answers by itself. -/
  answer (evict : Eviction) (s : SessionStep) :
    (session.step compile reason evict s).1 =
      ((Validator.new.after compile reason own.current).respond compile reason s).1
  /-- What fails is as if it had not been tried. -/
  failed (evict : Eviction) (s : SessionStep) :
    (session.step compile reason evict s).1.isError = true →
      (session.step compile reason evict s).2 = session
  /-- One bad option is enough for none to be set. -/
  badOption (evict : Eviction) (options : Json) :
    Config.Patch.HasBadOption options →
      session.step compile reason evict (.setConfigJson options) =
        (.badConfig session.current.config, session)
  /-- A question, such as a validation, changes no validator and no answer that is to come. -/
  unseen (evict : Eviction) (s : SessionStep) :
    s.asks = true →
      (session.step compile reason evict s).2.validators = session.validators ∧
        ∀ later, ((session.step compile reason evict s).2.runWith compile reason later).1 =
          (session.runWith compile reason later).1
  /-- An option that was never set is off. -/
  options :
    session.validators.map Validator.config = own.map fun history =>
      ⟨(SessionStep.lastGiven Config.Patch.resumeOnFailed history).getD false,
        (SessionStep.lastGiven Config.Patch.strictRules history).getD false⟩
  /-- What is done to the original between saving a copy and swapping it in does not show
  in what the copy answers from then on. -/
  copy (evict evictLater : Eviction) (between later : List (Eviction × SessionStep)) :
    (∀ s ∈ between, s.2 ≠ .save ∧ s.2 ≠ .swap) → (∀ s ∈ later, s.2 ≠ .swap) →
      let saved := (session.step compile reason evict .save).2
      let changed := (saved.runWith compile reason between).2
      let swapped := (changed.step compile reason evictLater .swap).2
      (swapped.runWith compile reason later).1 = (session.runWith compile reason later).1

/-- A coherent session, whose validators are what their histories make of new ones, is
isolated. -/
theorem Coherent.isolated {compile : PatternSource} {reason : String → String}
    {session : Session} (coherent : session.Coherent compile) {own : Slots (List SessionStep)}
    (follows : session.validators = own.map (Validator.new.after compile reason)) :
    session.Isolated compile reason own where
  current := congrArg Slots.current follows
  saved := congrArg Slots.saved follows
  answer evict s := by
    rw [(coherent.step reason evict s).1]
    exact congrArg (fun slots => (slots.current.respond compile reason s).1) follows
  failed evict s := step_eq_self_of_isError
  badOption evict options hasBad := by
    have refused : session.current.setConfigJson? options = none := by
      rw [Validator.setConfigJson?, hasBad.ofJson?_eq_none, Option.map_none]
    simp only [Session.step, Validator.step, refused]
    rfl
  unseen evict s asks := by
    have same := coherent.validators_step_of_asks reason evict asks
    exact ⟨same, fun later => Coherent.answers_eq (coherent.step reason evict s).2.2 coherent
      (congrArg Slots.current same) (.inl (congrArg Slots.saved same))⟩
  options := by
    rw [follows]
    simp only [Slots.map, Validator.config_after]
    rfl
  copy evict evictLater between later onlyOriginal stays := by
    have atSwap := (coherent.step reason evict .save).2.2.runWith reason between
    apply Coherent.answers_eq (atSwap.step reason evictLater .swap).2.2 coherent _ (.inr stays)
    exact saved_runWith compile reason (session.step compile reason evict .save).2 onlyOriginal

/-- However a session goes, whatever compiles its patterns and whatever reasons are given for texts
that cannot be read, its validators are isolated from each other, and no step has an effect unless
it goes through. -/
theorem runWith_isolated (compile : PatternSource) (reason : String → String)
    (steps : List (Eviction × SessionStep)) :
    (new.runWith compile reason steps).2.Isolated compile reason
      (Slots.histories (steps.map Prod.snd)) :=
  (coherent_new.runWith reason steps).isolated (coherent_new.validators_runWith rfl steps)

/-- A patch with a good option and a bad one sets neither. -/
theorem runWith_isolated_half_bad :
    let compile := Regex.compile?
    let reason := fun _ : String => "cut off"
    let session := (new.runWith compile reason [(fun _ => 0, .setConfig ⟨some true, none⟩)]).2
    session.step compile reason (fun _ => 0) (.setConfigJson (.object [("strictRules", .bool true),
      ("resumeOnFailed", .string "yes")])) = (.badConfig ⟨true, false⟩, session) := by
  intro compile reason
  have isolated := runWith_isolated compile reason [(fun _ => 0, .setConfig ⟨some true, none⟩)]
  have hasBad : Config.Patch.HasBadOption
      (.object [("strictRules", .bool true), ("resumeOnFailed", .string "yes")]) :=
    .member (by decide : "resumeOnFailed" ∈ _) (rfl : _ = some (Json.string "yes"))
      ⟨nofun, nofun⟩
  have unchanged := isolated.badOption (fun _ => 0) _ hasBad
  have config : _ = (⟨true, false⟩ : Config) := congrArg Slots.current isolated.options
  exact config ▸ unchanged

end Session

end Rulebook
