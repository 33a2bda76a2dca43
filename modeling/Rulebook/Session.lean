import Rulebook.CachedRun

/-!
# Sessions

A session has a current validator and a saved one.  Saving copies the current
validator over the saved one, and swapping exchanges the two.  All other steps are of
the current validator.

A new validator has a cache of patterns of its own, but a copy shares the cache of
the validator that it was made from.
-/

namespace Rulebook

/-- Two validators and their caches. -/
structure Session where
  current : Validator
  saved : Validator
  /-- The cache of the current validator. -/
  cache : PatternCache
  /-- The cache of the saved validator, unless it shares the one of the current. -/
  savedCache : Option PatternCache

/-- A step of a session. -/
inductive SessionStep where
  | setConfig (patch : Config.Patch)
  | replaceConfig (config : Config)
  | setConfigJson (options : Json)
  | getConfig
  | addPattern (name pattern : String)
  | addRule (name : String) (rule : ValueRule)
  | addPresence (name : String) (rule : PresenceRule)
  /-- Registers a pattern that is compiled on its own first. -/
  | addCompiled (name pattern : String)
  | lookup (name : String)
  | ruleNames
  | check (rule : String) (values : List Value) (args : List String) (record : Record)
  | require (rule : String) (record : Record) (field : String) (args : List String)
  | validate (record : Record) (rules : RuleSet)
  | validateText (text : String) (rules : RuleSet)
  | save
  | swap

/-- What a session knows about a name. -/
structure Entry where
  presence : Option PresenceRule
  value : Option ValueRule

/-- The answer to a step. -/
inductive SessionAnswer where
  | done
  | config (config : Config)
  | badConfig (unchanged : Config)
  | badRule (error : RegistrationError)
  | badPattern
  | entry (entry : Entry)
  | names (names : List String)
  | verdicts (verdicts : List Bool)
  | unknownRule
  | outcome (outcome : Outcome)

namespace SessionAnswer

/-- The answer to a registration. -/
def ofRegistration : Except RegistrationError Unit → SessionAnswer
  | .ok () => done
  | .error e => badRule e

/-- Whether the answer says that a step failed. -/
def isError : SessionAnswer → Bool
  | badConfig _ | badRule _ | badPattern | unknownRule => true
  | _ => false

end SessionAnswer

namespace Registry

/-- The verdicts of a value rule on some values. -/
def check (patterns : PatternSource) (registry : Registry) (rule : String) (values : List Value)
    (args : List String) (record : Record) : Option (List Bool) :=
  (registry.values.find? rule).map fun r => values.map fun value =>
    r.holds patterns record value args

/-- The verdict of a presence rule on a field. -/
def require (registry : Registry) (rule : String) (record : Record) (field : String)
    (args : List String) : Option Bool :=
  (registry.presence.find? rule).map fun r => r.holds record field args

/-- What the tables have under a name. -/
def entry (registry : Registry) (name : String) : Entry :=
  ⟨registry.presence.find? name, registry.values.find? name⟩

end Registry

namespace Validator

/-- Takes a step by itself.  There is nothing to do by itself to save or to swap. -/
def step (compile : PatternSource) (reason : String → String) (evict : Eviction)
    (validator : Validator) : SessionStep → Cached (SessionAnswer × Validator)
  | .setConfig patch =>
      let next := validator.setConfig patch
      return (.config next.config, next)
  | .replaceConfig config =>
      let next := validator.setConfig config.toPatch
      return (.config next.config, next)
  | .setConfigJson options =>
      match validator.setConfigJson? options with
      | some next => return (.config next.config, next)
      | none => return (.badConfig validator.config, validator)
  | .getConfig => return (.config validator.config, validator)
  | .addPattern name pattern =>
      return (validator.addPattern compile name pattern).map .ofRegistration id
  | .addRule name rule => return (validator.add name rule).map .ofRegistration id
  | .addPresence name rule => return (validator.addPresence name rule).map .ofRegistration id
  | .addCompiled name pattern =>
      match compile pattern with
      | some regex => return (validator.add name (.pattern regex)).map .ofRegistration id
      | none => return (.badPattern, validator)
  | .lookup name => return (.entry (validator.registry.entry name), validator)
  | .ruleNames => return (.names validator.registry.ruleNames, validator)
  | .check rule values args record => do
      match ← validator.registry.runCheck compile evict rule values args record with
      | some verdicts => return (.verdicts verdicts, validator)
      | none => return (.unknownRule, validator)
  | .require rule record field args =>
      match validator.registry.require rule record field args with
      | some verdict => return (.verdicts [verdict], validator)
      | none => return (.unknownRule, validator)
  | .validate record rules => do
      let outcome ← validator.run compile evict record rules
      return (.outcome outcome, validator)
  | .validateText text rules => do
      let outcome ← validator.runText compile reason evict text rules
      return (.outcome outcome, validator)
  | .save | .swap => return (.done, validator)

end Validator

namespace Session

/-- A session of two new validators. -/
def new : Session := ⟨.new, .new, .empty, some .empty⟩

instance : Inhabited Session := ⟨new⟩

variable (compile : PatternSource) (reason : String → String)

/-- Takes a step, where `evict` chooses what full caches drop. -/
def step (evict : Eviction) (session : Session) : SessionStep → SessionAnswer × Session
  | .save => (.done, { session with saved := session.current, savedCache := none })
  | .swap =>
      (.done, ⟨session.saved, session.current, session.savedCache.getD session.cache,
        session.savedCache.map fun _ => session.cache⟩)
  | s =>
      let ((answer, current), cache) :=
        (session.current.step compile reason evict s).run session.cache
      (answer, { session with current := current, cache := cache })

/-- Takes steps one after the other, each with its own choice of what full caches drop. -/
def runWith (session : Session) :
    List (Eviction × SessionStep) → List SessionAnswer × Session
  | [] => ([], session)
  | (evict, s) :: steps =>
      let (answer, session) := session.step compile reason evict s
      let (answers, session) := session.runWith steps
      (answer :: answers, session)

/-- Takes steps one after the other.  Full caches drop their oldest pattern. -/
def run (session : Session) (steps : List SessionStep) : List SessionAnswer × Session :=
  session.runWith compile reason (steps.map fun s => (fun _ => 0, s))

end Session

end Rulebook
