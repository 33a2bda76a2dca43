import Rulebook.Config
import Rulebook.Wire.Fields

/-!
# Configurations on the wire

Every option may be missing.  In a configuration a missing option is off, in a
patch it is left as it was.
-/

namespace Rulebook.Config

/-- The names of the options, in order. -/
def optionNames : List String := ["resumeOnFailed", "strictRules"]

/-- A configuration as a document. -/
def toJson (config : Config) : Json :=
  .object [("resumeOnFailed", .bool config.resumeOnFailed),
    ("strictRules", .bool config.strictRules)]

/-- The configuration that a document stands for. -/
def ofJson? (json : Json) : Option Config := do
  let fields ← Wire.fields? optionNames json
  let resumeOnFailed ← Wire.defaulted? fields "resumeOnFailed" false Wire.flag?
  let strictRules ← Wire.defaulted? fields "strictRules" false Wire.flag?
  return ⟨resumeOnFailed, strictRules⟩

/-- Reads a JSON text as a configuration. -/
def ofText? (text : String) : Option Config :=
  (Json.parse? text).bind ofJson?

namespace Patch

/-- A patch as a document of the options that it has. -/
def toJson (patch : Patch) : Json :=
  let member (name : String) (option : Option Bool) : List (String × Json) :=
    option.elim [] fun b => [(name, .bool b)]
  .object (member "resumeOnFailed" patch.resumeOnFailed ++ member "strictRules" patch.strictRules)

/-- The patch that a document stands for. -/
def ofJson? (json : Json) : Option Patch := do
  let fields ← Wire.fields? optionNames json
  let resumeOnFailed ← Wire.defaulted? fields "resumeOnFailed" none (Wire.option? Wire.flag?)
  let strictRules ← Wire.defaulted? fields "strictRules" none (Wire.option? Wire.flag?)
  return ⟨resumeOnFailed, strictRules⟩

/-- Reads a JSON text as a patch. -/
def ofText? (text : String) : Option Patch :=
  (Json.parse? text).bind ofJson?

end Patch

end Rulebook.Config
