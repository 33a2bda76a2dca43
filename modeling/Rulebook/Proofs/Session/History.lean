import Mathlib.Data.List.Induction
import Rulebook.Proofs.Table
import Rulebook.Session

/-!
# Histories of validators

Of the two validators of a session each has a history: the steps that it took itself, and
before them those of the validator that it is a copy of.  Saving gives the saved validator
the history of the current one, and swapping exchanges the two.

A validator by itself, which has no cache and compiles every pattern anew, can be taken
through a history.  This module says what it answers and what becomes of its options.
-/

namespace Rulebook

/-! ## Histories -/

/-- Two things that belong to the two validators of a session. -/
structure Slots (α : Type) where
  current : α
  saved : α

namespace Slots

variable {α β : Type}

/-- Saving and swapping move things around.  Every other step acts on the current one. -/
def step (act : α → SessionStep → α) (slots : Slots α) : SessionStep → Slots α
  | .save => ⟨slots.current, slots.current⟩
  | .swap => ⟨slots.saved, slots.current⟩
  | s => ⟨act slots.current s, slots.saved⟩

/-- Turns both things into something else. -/
def map (f : α → β) (slots : Slots α) : Slots β :=
  ⟨f slots.current, f slots.saved⟩

theorem map_step {f : α → β} {act : α → SessionStep → α} {actOn : β → SessionStep → β}
    (follows : ∀ a s, f (act a s) = actOn (f a) s) (slots : Slots α) (s : SessionStep) :
    (slots.step act s).map f = (slots.map f).step actOn s := by
  unfold step
  split
  · rfl
  · rfl
  · rw [map, follows]
    rfl

/-- The saved things are told from each other only when they are swapped. -/
theorem step_congr (act : α → SessionStep → α) {first second : Slots α} (s : SessionStep)
    (sameCurrent : first.current = second.current)
    (sameSaved : first.saved = second.saved ∨ s ≠ .swap) :
    (first.step act s).current = (second.step act s).current ∧
      (first.saved = second.saved → (first.step act s).saved = (second.step act s).saved) := by
  unfold step
  split
  · exact ⟨sameCurrent, fun _ => sameCurrent⟩
  · rcases sameSaved with same | differs
    · exact ⟨same, fun _ => sameCurrent⟩
    · exact absurd rfl differs
  · exact ⟨by rw [sameCurrent], id⟩

/-- The histories of the two validators after some steps of a session. -/
def histories (steps : List SessionStep) : Slots (List SessionStep) :=
  steps.foldl (step fun history s => history ++ [s]) ⟨[], []⟩

end Slots

/-! ## A validator by itself -/

theorem Cached.fst_run_pure {α : Type} (answer : α) (cache : PatternCache) :
    ((pure answer : Cached α).run cache).1 = answer :=
  rfl

section

variable (compile : PatternSource) (reason : String → String)

namespace Validator

/-- What a validator without a cache answers to a step, and what it is afterwards.  Only
steps that check rules have a use for a cache. -/
def respond (validator : Validator) : SessionStep → SessionAnswer × Validator
  | .check rule values args record =>
      match validator.registry.check (PatternCache.compile? compile) rule values args record with
      | some verdicts => (.verdicts verdicts, validator)
      | none => (.unknownRule, validator)
  | .validate record rules => (.outcome (validator.validate compile record rules), validator)
  | .validateText text rules =>
      (.outcome (validator.validateText compile reason text rules), validator)
  | s => ((validator.step compile reason (fun _ => 0) s).run .empty).1

/-- What becomes of a validator that takes a step. -/
def next (validator : Validator) (s : SessionStep) : Validator :=
  (validator.respond compile reason s).2

/-- What becomes of a validator that takes the steps of a history. -/
def after (validator : Validator) (history : List SessionStep) : Validator :=
  history.foldl (next compile reason) validator

theorem after_append_singleton (validator : Validator) (history : List SessionStep)
    (s : SessionStep) :
    validator.after compile reason (history ++ [s]) =
      (validator.after compile reason history).next compile reason s := by
  rw [after, List.foldl_append]
  rfl

end Validator

end

/-! ## Questions -/

/-- Whether a step only asks a validator something: for its options, for what it knows, or
for the outcome of a check or of a validation. -/
def SessionStep.asks : SessionStep → Bool
  | .getConfig | .lookup _ | .ruleNames | .check .. | .require .. | .validate ..
  | .validateText .. => true
  | _ => false

theorem Validator.next_of_asks (compile : PatternSource) (reason : String → String)
    {validator : Validator} {s : SessionStep} (asks : s.asks = true) :
    validator.next compile reason s = validator := by
  unfold next
  cases s with
  | check rule values args record =>
      simp only [respond]
      split <;> rfl
  | require rule record field args =>
      simp only [respond, step]
      split <;> rfl
  | getConfig => rfl
  | lookup name => rfl
  | ruleNames => rfl
  | validate record rules => rfl
  | validateText text rules => rfl
  | _ => cases asks

/-! ## Options -/

namespace SessionStep

/-- The options that a step sets.  One that fails sets none. -/
def given : SessionStep → Config.Patch
  | .setConfig patch => patch
  | .replaceConfig config => config.toPatch
  | .setConfigJson options => (Config.Patch.ofJson? (Wire.merged options)).getD ⟨none, none⟩
  | _ => ⟨none, none⟩

end SessionStep

namespace Validator

variable (compile : PatternSource) (reason : String → String)

/-- A registration has no part in the options, whether or not it goes through. -/
theorem config_register (validator : Validator)
    (call : Registry → Except RegistrationError Unit × Registry) :
    (validator.register call).2.config = validator.config :=
  rfl

/-- A step sets the options that it gives and no others. -/
theorem config_next (validator : Validator) (s : SessionStep) :
    (validator.next compile reason s).config = validator.config.apply s.given := by
  unfold next
  cases s with
  | setConfigJson options =>
      simp only [respond, step, setConfigJson?, SessionStep.given]
      cases Config.Patch.ofJson? (Wire.merged options) with
      | some patch => rfl
      | none => rfl
  | addPattern name pattern =>
      simp only [respond, step, Cached.fst_run_pure, Prod.map_snd, id, addPattern]
      exact validator.config_register _
  | addRule name rule =>
      simp only [respond, step, Cached.fst_run_pure, Prod.map_snd, id, add]
      exact validator.config_register _
  | addPresence name rule =>
      simp only [respond, step, Cached.fst_run_pure, Prod.map_snd, id, addPresence]
      exact validator.config_register _
  | addCompiled name pattern =>
      simp only [respond, step]
      cases compile pattern with
      | some regex =>
          simp only [Cached.fst_run_pure, Prod.map_snd, id, add]
          exact validator.config_register _
      | none => rfl
  | check rule values args record =>
      simp only [respond]
      split <;> rfl
  | require rule record field args =>
      simp only [respond, step]
      split <;> rfl
  | _ => rfl

end Validator

/-- The last value that an option was given in a history. -/
def SessionStep.lastGiven (option : Config.Patch → Option Bool) (history : List SessionStep) :
    Option Bool :=
  (history.filterMap fun s => option s.given).getLast?

/-- Each option of a validator has the value that it was given last. -/
theorem Validator.config_after (compile : PatternSource) (reason : String → String)
    (validator : Validator) (history : List SessionStep) :
    (validator.after compile reason history).config =
      validator.config.apply ⟨SessionStep.lastGiven Config.Patch.resumeOnFailed history,
        SessionStep.lastGiven Config.Patch.strictRules history⟩ := by
  induction history using List.reverseRecOn with
  | nil => rfl
  | append_singleton history s ih =>
      have lastEq : ∀ option : Config.Patch → Option Bool,
          SessionStep.lastGiven option (history ++ [s]) =
            (option s.given).or (SessionStep.lastGiven option history) := by
        intro option
        rw [SessionStep.lastGiven, List.filterMap_append, List.getLast?_append,
          SessionStep.lastGiven]
        cases given : option s.given <;> simp [given]
      rw [after_append_singleton, config_next, ih, lastEq, lastEq]
      cases s.given with
      | mk resume strict => cases resume <;> cases strict <;> rfl

/-! ## Patches that cannot be read -/

namespace Config.Patch

/-- A value for an option that is neither a truth value nor the null that leaves it open. -/
def IsBad (json : Json) : Prop :=
  json ≠ .null ∧ ∀ b, json ≠ .bool b

/-- A document that gives a bad value for an option. -/
inductive HasBadOption : Json → Prop
  | member {members : List (String × Json)} {name : String} {json : Json}
      (known : name ∈ optionNames) (found : (Table.ofList members).find? name = some json)
      (bad : IsBad json) : HasBadOption (.object members)
  | item {items : List Json} {json : Json} (there : json ∈ items) (bad : IsBad json) :
      HasBadOption (.array items)

theorem IsBad.option?_eq_none {json : Json} (bad : IsBad json) :
    Wire.option? Wire.flag? json = none := by
  cases json with
  | null => exact absurd rfl bad.1
  | bool b => exact absurd rfl (bad.2 b)
  | _ => rfl

/-- A patch is read option by option, and none of them may fail. -/
theorem ofJson?_eq_none_of_bad {json bad : Json} {name : String} (known : name ∈ optionNames)
    (isBad : IsBad bad)
    (found : ∀ fields, Wire.fields? optionNames json = some fields → fields.find? name = some bad) :
    ofJson? json = none := by
  unfold ofJson?
  cases read : Wire.fields? optionNames json with
  | none => rfl
  | some fields =>
      have refused : Wire.defaulted? fields name none (Wire.option? Wire.flag?) = none := by
        rw [Wire.defaulted?, found fields read]
        exact isBad.option?_eq_none
      simp only [optionNames, List.mem_cons, List.not_mem_nil, or_false] at known
      rcases known with rfl | rfl
      · simp [refused]
      · simp [refused]

/-- One bad option makes a whole patch unreadable. -/
theorem HasBadOption.ofJson?_eq_none {json : Json} (hasBad : HasBadOption json) :
    ofJson? (Wire.merged json) = none := by
  cases hasBad with
  | @member members name bad known found isBad =>
      apply ofJson?_eq_none_of_bad known isBad
      intro fields read
      simp only [Wire.merged, Wire.fields?, Option.ite_none_right_eq_some,
        Option.some.injEq] at read
      rw [← read.2, Table.find?_filter (by simpa using known), found]
  | @item items bad there isBad =>
      have known : "resumeOnFailed" ∈ optionNames ∧ "strictRules" ∈ optionNames := by decide
      match items, there with
      | [first], there =>
          obtain rfl := List.mem_singleton.mp there
          exact ofJson?_eq_none_of_bad known.1 isBad fun _ read => Option.some.inj read ▸ rfl
      | [first, second], there =>
          rcases List.mem_cons.mp there with rfl | there
          · exact ofJson?_eq_none_of_bad known.1 isBad fun _ read => Option.some.inj read ▸ rfl
          · obtain rfl := List.mem_singleton.mp there
            exact ofJson?_eq_none_of_bad known.2 isBad fun _ read => Option.some.inj read ▸ rfl
      | _ :: _ :: _ :: _, _ => rfl

end Config.Patch

end Rulebook
