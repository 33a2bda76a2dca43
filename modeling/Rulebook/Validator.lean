import Rulebook.Validation
import Rulebook.Wire.Config
import Rulebook.Wire.RuleSet

/-!
# Validators

A validator is a registry of rules with a configuration.  Records and rule sets
come as values or as JSON; input that is no record has an outcome of its own,
whatever the rules are.

What compiles patterns is a parameter, and so is what the reader of JSON texts has
to say of a text that it cannot read.
-/

namespace Rulebook

namespace Record

/-- The record that a document stands for.  `reason` says what is wrong with a document
that stands for nothing. -/
def ofJson? (reason : String) (json : Json) : Except InputError Record :=
  match Value.ofJson? json with
  | some (.object fields) => .ok fields
  | some _ => .error (.notAnObject json.kindName)
  | none => .error (.invalidJson reason)

/-- Reads a JSON text as a record. -/
def ofText? (reason : String → String) (text : String) : Except InputError Record :=
  match Json.parse? text with
  | some json =>
      if json.nesting < Json.nestingLimit then ofJson? (reason text) json
      else .error (.invalidJson (reason text))
  | none => .error (.invalidJson (reason text))

end Record

/-- Rules and a configuration. -/
structure Validator where
  registry : Registry
  config : Config

namespace Validator

/-- The validator with the rules that are there from the start. -/
def withConfig (config : Config) : Validator := ⟨.builtIn, config⟩

/-- `withConfig` with the default configuration. -/
def new : Validator := withConfig .default

instance : Inhabited Validator := ⟨new⟩

/-- Validates a record, with patterns in arguments compiled by `patterns`. -/
def validateWith (patterns : PatternSource) (validator : Validator) (record : Record)
    (rules : RuleSet) : Outcome :=
  Judge.outcome ⟨validator.registry, validator.config, patterns⟩ record rules

/-- Validates a record.  Patterns in arguments are compiled unless they are too long. -/
def validate (compile : PatternSource) (validator : Validator) (record : Record)
    (rules : RuleSet) : Outcome :=
  validator.validateWith (PatternCache.compile? compile) record rules

/-- The outcome for input that is a record or is not. -/
def validateInput (compile : PatternSource) (validator : Validator)
    (input : Except InputError Record) (rules : RuleSet) : Outcome :=
  match input with
  | .ok record => validator.validate compile record rules
  | .error e => .invalidInput e.message

/-- Validates the record that a document stands for. -/
def validateJson (compile : PatternSource) (validator : Validator) (json : Json)
    (rules : RuleSet) : Outcome :=
  match Value.ofJson? json with
  | some (.object record) => validator.validate compile record rules
  | _ => .invalidInput (InputError.notAnObject json.kindName).message

/-- Validates the record that a JSON text stands for. -/
def validateText (compile : PatternSource) (reason : String → String) (validator : Validator)
    (text : String) (rules : RuleSet) : Outcome :=
  validator.validateInput compile (Record.ofText? reason text) rules

/-- Validates a record by the rule set that a JSON text stands for. -/
def validateRulesText (compile : PatternSource) (reason : String → String)
    (validator : Validator) (record : Record) (text : String) : Except InputError Outcome :=
  match RuleSet.ofText? text with
  | some rules => .ok (validator.validate compile record rules)
  | none => .error (.invalidJson (reason text))

/-- Overwrites some of the options. -/
def setConfig (validator : Validator) (patch : Config.Patch) : Validator :=
  { validator with config := validator.config.apply patch }

/-- Overwrites the options that a document gives, if it is a patch.  Of members of one
name only the last counts here, as everywhere but where a text is read as a patch. -/
def setConfigJson? (validator : Validator) (json : Json) : Option Validator :=
  (Config.Patch.ofJson? (Wire.merged json)).map validator.setConfig

/-- Registers a rule by a call of the registry. -/
def register (validator : Validator)
    (call : Registry → Except RegistrationError Unit × Registry) :
    Except RegistrationError Unit × Validator :=
  let (answer, registry) := call validator.registry
  (answer, { validator with registry := registry })

/-- Registers a value rule. -/
def add (validator : Validator) (name : String) (rule : ValueRule) :
    Except RegistrationError Unit × Validator :=
  validator.register fun registry => registry.add name rule

/-- Registers a pattern as a value rule. -/
def addPattern (compile : PatternSource) (validator : Validator) (name pattern : String) :
    Except RegistrationError Unit × Validator :=
  validator.register fun registry => registry.addPattern compile name pattern

/-- Registers a presence rule. -/
def addPresence (validator : Validator) (name : String) (rule : PresenceRule) :
    Except RegistrationError Unit × Validator :=
  validator.register fun registry => registry.addPresence name rule

end Validator

end Rulebook
