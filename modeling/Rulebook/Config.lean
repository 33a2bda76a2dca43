/-!
# Configuration

The options of a validator, and patches that overwrite some of them.
-/

namespace Rulebook

/-- The options that every validation reads. -/
structure Config where
  /-- Collects every reject; otherwise the first one ends the validation. -/
  resumeOnFailed : Bool
  /-- Rejects the rules that nothing is registered for; otherwise they pass. -/
  strictRules : Bool
deriving DecidableEq

namespace Config

/-- Stops at the first reject and passes unknown rules. -/
def default : Config := ⟨false, false⟩

instance : Inhabited Config := ⟨default⟩

/-- New values for some of the options. -/
structure Patch where
  resumeOnFailed : Option Bool
  strictRules : Option Bool
deriving DecidableEq, Inhabited

/-- Overwrites the options that the patch has. -/
def apply (config : Config) (patch : Patch) : Config :=
  ⟨patch.resumeOnFailed.getD config.resumeOnFailed, patch.strictRules.getD config.strictRules⟩

/-- The patch that sets every option. -/
def toPatch (config : Config) : Patch :=
  ⟨some config.resumeOnFailed, some config.strictRules⟩

@[simp]
theorem apply_toPatch (old new : Config) : old.apply new.toPatch = new :=
  rfl

end Config

end Rulebook
