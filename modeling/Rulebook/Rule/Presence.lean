import Rulebook.Rule.Basic
import Rulebook.Value.Equality

/-!
# Presence rules

A required field holds a truthy value.  The other rules require a field only
where their companions, the fields named in the arguments, call for it.
-/

namespace Rulebook.Presence

/-- The field holds a truthy value. -/
def required (record : Record) (field : String) : Bool :=
  (record.find? field).any Value.isTruthy

/-- The pairs that a list of arguments is made of. -/
def pairs : List String → List (String × String)
  | companion :: expected :: rest => (companion, expected) :: pairs rest
  | _ => []

/-- Whether a companion is truthy and has the expected text. -/
def agrees (record : Record) (pair : String × String) : Bool :=
  (record.find? pair.1).any fun value => value.isTruthy && value.looseEqText pair.2

/-- The field is required if every companion has its expected text. -/
def requiredIf (record : Record) (field : String) (args : List String) : Bool :=
  if (pairs args).all (agrees record) then required record field else true

/-- The field is required if one of the companions is there. -/
def requiredWith (record : Record) (field : String) (companions : List String) : Bool :=
  if companions.any record.has then required record field else true

/-- The field is required if all companions are there. -/
def requiredWithAll (record : Record) (field : String) (companions : List String) : Bool :=
  if companions.all record.has then required record field else true

/-- The field is required if one of the companions is not there. -/
def requiredWithout (record : Record) (field : String) (companions : List String) : Bool :=
  if companions.any fun name => !record.has name then required record field else true

/-- The field is required if none of the companions is there. -/
def requiredWithoutAll (record : Record) (field : String) (companions : List String) : Bool :=
  if companions.all fun name => !record.has name then required record field else true

/-- The presence rules that are there from the start. -/
def builtIn : Table PresenceRule := [
  ("required", ⟨.exact 0, fun record field _ => some (required record field)⟩),
  ("required_if", ⟨.pairs, fun record field args => some (requiredIf record field args)⟩),
  ("required_with", ⟨.atLeast 1, fun record field args => some (requiredWith record field args)⟩),
  ("required_with_all",
    ⟨.atLeast 1, fun record field args => some (requiredWithAll record field args)⟩),
  ("required_without",
    ⟨.atLeast 1, fun record field args => some (requiredWithout record field args)⟩),
  ("required_without_all",
    ⟨.atLeast 1, fun record field args => some (requiredWithoutAll record field args)⟩)]

end Rulebook.Presence
