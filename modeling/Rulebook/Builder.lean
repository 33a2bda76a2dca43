import Rulebook.Validator

/-!
# Building validators

A builder takes configurations and rules in any order and registers the rules
when it builds.  The first rule that cannot be registered is the error.
-/

namespace Rulebook

/-- A rule that waits to be registered. -/
inductive Pending where
  | rule (name : String) (rule : ValueRule)
  | pattern (name pattern : String)

/-- A validator in the making. -/
structure Builder where
  config : Config
  /-- The rules in the order in which they came. -/
  pending : List Pending

/-- A step of building. -/
inductive BuildStep where
  | config (config : Config)
  | resumeOnFailed (on : Bool)
  | strictRules (on : Bool)
  | rule (name : String) (rule : ValueRule)
  /-- A function, which is a rule of its arity. -/
  | predicate (name : String) (arity : Arity) (body : Record → Value → List String → Option Bool)
  | pattern (name pattern : String)

namespace Pending

/-- Tries to register the rule. -/
def perform (compile : PatternSource) (validator : Validator) :
    Pending → Except RegistrationError Unit × Validator
  | rule name r => validator.add name r
  | pattern name p => validator.addPattern compile name p

/-- Registers the rule, and goes on with the validator after that. -/
def register (compile : PatternSource) (validator : Validator) (pending : Pending) :
    Except RegistrationError Validator :=
  let result := pending.perform compile validator
  result.1.map fun () => result.2

end Pending

namespace Builder

def new : Builder := ⟨.default, []⟩

instance : Inhabited Builder := ⟨new⟩

/-- Takes a step. -/
def step (builder : Builder) : BuildStep → Builder
  | .config config => { builder with config := config }
  | .resumeOnFailed on => { builder with config.resumeOnFailed := on }
  | .strictRules on => { builder with config.strictRules := on }
  | .rule name r => { builder with pending := builder.pending ++ [.rule name r] }
  | .predicate name arity body =>
      { builder with pending := builder.pending ++ [.rule name (.predicate arity body)] }
  | .pattern name p => { builder with pending := builder.pending ++ [.pattern name p] }

/-- Takes steps one after the other. -/
def steps (builder : Builder) (list : List BuildStep) : Builder :=
  list.foldl step builder

/-- Registers the rules and gives the validator. -/
def build (compile : PatternSource) (builder : Builder) : Except RegistrationError Validator :=
  builder.pending.foldlM (Pending.register compile) (.withConfig builder.config)

end Builder

end Rulebook
