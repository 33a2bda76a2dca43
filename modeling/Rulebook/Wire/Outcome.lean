import Rulebook.Outcome
import Rulebook.Wire.Fields

/-!
# Outcomes on the wire

A reject leaves out its arguments if it has none and its message if it has
none.  A status is its name, or an object with the name over `null`.
-/

namespace Rulebook

namespace Reject

/-- A reject as a document. -/
def toJson (reject : Reject) : Json :=
  .object (
    [("path", .string reject.path), ("field", .string reject.field),
      ("rule", .string reject.rule)] ++
    (if reject.args.isEmpty then [] else [("args", .array (reject.args.map .string))]) ++
    reject.message.elim [] fun message => [("message", .string message)])

/-- The reject that a document stands for. -/
def ofJson? (json : Json) : Option Reject := do
  let fields ← Wire.fields? ["path", "field", "rule", "args", "message"] json
  let path ← Wire.defaulted? fields "path" "" Wire.text?
  let field ← Wire.required? fields "field" Wire.text?
  let rule ← Wire.required? fields "rule" Wire.text?
  let args ← Wire.defaulted? fields "args" [] (Wire.list? Wire.text?)
  let message ← Wire.defaulted? fields "message" none (Wire.option? Wire.text?)
  return ⟨path, field, rule, args, message⟩

end Reject

namespace Status

def name : Status → String
  | success => "success"
  | failed => "failed"

def ofName? (name : String) : Option Status :=
  if name = "success" then some success
  else if name = "failed" then some failed
  else none

/-- The status that a document stands for. -/
def ofJson? : Json → Option Status
  | .string name => ofName? name
  | .object [(name, .null)] => ofName? name
  | _ => none

end Status

namespace Outcome

/-- An outcome as a document. -/
def toJson (outcome : Outcome) : Json :=
  .object [("status", .string outcome.status.name),
    ("rejects", .array (outcome.rejects.map Reject.toJson))]

/-- The outcome that a document stands for.  The status is taken as it is. -/
def ofJson? (json : Json) : Option Outcome := do
  let fields ← Wire.fields? ["status", "rejects"] json
  let status ← Wire.required? fields "status" Status.ofJson?
  let rejects ← Wire.required? fields "rejects" (Wire.list? Reject.ofJson?)
  return ⟨status, rejects⟩

/-- Reads a JSON text as an outcome. -/
def ofText? (text : String) : Option Outcome :=
  (Json.parse? text).bind ofJson?

/-- An outcome as JSON text. -/
def render (outcome : Outcome) : String :=
  outcome.toJson.render

end Outcome

end Rulebook
