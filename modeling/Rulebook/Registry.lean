import Rulebook.Rule.Comparison
import Rulebook.Rule.Dates
import Rulebook.Rule.Files
import Rulebook.Rule.Format
import Rulebook.Rule.Presence

/-!
# The registry of rules

A registry has a table of presence rules and a table of value rules.  A name in
the first hides the same name in the second.  Rules are never taken out; a rule
registered under a name that is there replaces the one before it.

A name must be one that a rule string can hold: it is trimmed, not empty, and
without separators.  A registration answers whether it went through, and what the
registry is after it stands beside the answer.
-/

namespace Rulebook

/-- Why a rule was not registered. -/
inductive RegistrationError where
  | emptyName
  | reservedSeparator (name : String) (separator : Char)
  | invalidPattern (name : String)
deriving DecidableEq, Inhabited

/-- An error in words, where `reason` says what is wrong with a pattern. -/
def RegistrationError.message (reason : String) : RegistrationError → String
  | emptyName => "rule name must not be empty"
  | reservedSeparator name separator =>
      "rule name '" ++ name ++ "' contains reserved separator '" ++
        String.singleton separator ++ "'"
  | invalidPattern name => "invalid pattern for rule '" ++ name ++ "': " ++ reason

/-- The rules that rule strings can name. -/
structure Registry where
  presence : Table PresenceRule
  values : Table ValueRule

namespace Registry

/-- The value rules that are there from the start. -/
def builtInValues : Table ValueRule :=
  Kinds.builtIn ++ Size.builtIn ++ Format.builtIn ++ Dates.builtIn ++ Comparison.builtIn ++
    Files.builtIn

/-- The registry that has only the rules that are there from the start. -/
def builtIn : Registry := ⟨Presence.builtIn, builtInValues⟩

instance : Inhabited Registry := ⟨builtIn⟩

/-- The characters that a name must not hold. -/
def separators : List Char := ['|', ':', ',']

/-- The name that a rule is registered under. -/
def checkedName (name : String) : Except RegistrationError String :=
  let trimmed := Text.trim name
  if trimmed.isEmpty then .error .emptyName
  else
    match trimmed.toList.find? separators.contains with
    | some separator => .error (.reservedSeparator trimmed separator)
    | none => .ok trimmed

/-- Puts a rule under a name, if the name is accepted. -/
def store (registry : Registry) (name : String) (put : String → Registry) :
    Except RegistrationError Unit × Registry :=
  match checkedName name with
  | .ok name => (.ok (), put name)
  | .error e => (.error e, registry)

/-- Registers a value rule. -/
def add (registry : Registry) (name : String) (rule : ValueRule) :
    Except RegistrationError Unit × Registry :=
  registry.store name fun name => { registry with values := registry.values.insert name rule }

/-- Registers a pattern as a value rule.  The pattern is compiled before the
name is looked at. -/
def addPattern (compile : PatternSource) (registry : Registry) (name pattern : String) :
    Except RegistrationError Unit × Registry :=
  match compile pattern with
  | some regex => registry.add name (.pattern regex)
  | none => (.error (.invalidPattern name), registry)

/-- Registers a presence rule. -/
def addPresence (registry : Registry) (name : String) (rule : PresenceRule) :
    Except RegistrationError Unit × Registry :=
  registry.store name fun name =>
    { registry with presence := registry.presence.insert name rule }

/-! A registration that fails leaves the registry as it is. -/

section

variable {registry : Registry} {name : String} {reason : RegistrationError}

theorem snd_store_of_error {put : String → Registry}
    (failed : (registry.store name put).1 = .error reason) :
    (registry.store name put).2 = registry := by
  unfold store at failed ⊢
  cases checked : checkedName name with
  | ok accepted =>
      rw [checked] at failed
      cases failed
  | error e => rfl

theorem snd_add_of_error {rule : ValueRule} (failed : (registry.add name rule).1 = .error reason) :
    (registry.add name rule).2 = registry :=
  snd_store_of_error failed

theorem snd_addPattern_of_error {compile : PatternSource} {pattern : String}
    (failed : (registry.addPattern compile name pattern).1 = .error reason) :
    (registry.addPattern compile name pattern).2 = registry := by
  unfold addPattern at failed ⊢
  cases compiled : compile pattern with
  | some regex =>
      rw [compiled] at failed
      exact snd_add_of_error failed
  | none => rfl

theorem snd_addPresence_of_error {rule : PresenceRule}
    (failed : (registry.addPresence name rule).1 = .error reason) :
    (registry.addPresence name rule).2 = registry :=
  snd_store_of_error failed

end

/-- Whether a name has a rule in one of the tables. -/
def contains (registry : Registry) (name : String) : Bool :=
  registry.presence.has name || registry.values.has name

/-- Drops each entry that is equal to the one after it. -/
def dropRepeats : List String → List String
  | [] => []
  | [name] => [name]
  | name :: next :: names =>
      if name = next then dropRepeats (next :: names) else name :: dropRepeats (next :: names)

/-- The names in both tables, in order and without repetition. -/
def ruleNames (registry : Registry) : List String :=
  dropRepeats ((registry.presence.names ++ registry.values.names).mergeSort (· ≤ ·))

end Registry

end Rulebook
