import Rulebook.Json.Reader
import Rulebook.Table

/-!
# Structures on the wire

A structure of named fields is an object, in which unknown names are ignored and
a known name may not repeat, or an array of its fields in their order, of which
the last ones may be missing.
-/

namespace Rulebook.Wire

/-- The fields of a structure that a document holds, by name. -/
def fields? (names : List String) : Json → Option (Table Json)
  | .object members =>
      let known := members.filter fun member => names.contains member.1
      if (known.map Prod.fst).Nodup then some known else none
  | .array items => if items.length ≤ names.length then some (names.zip items) else none
  | _ => none

/-- The document in which an object has one member of each name, the last one. -/
def merged : Json → Json
  | .object members => .object (Table.ofList members)
  | json => json

/-- A document that is a string. -/
def text? : Json → Option String
  | .string s => some s
  | _ => none

/-- A document that is a boolean. -/
def flag? : Json → Option Bool
  | .bool b => some b
  | _ => none

/-- `null`, or a document of the given kind. -/
def option? {α : Type} (read? : Json → Option α) : Json → Option (Option α)
  | .null => some none
  | json => (read? json).map some

/-- An array of documents of the given kind. -/
def list? {α : Type} (read? : Json → Option α) : Json → Option (List α)
  | .array items => items.mapM read?
  | _ => none

/-- A field that has to be there. -/
def required? {α : Type} (fields : Table Json) (name : String) (read? : Json → Option α) :
    Option α :=
  (fields.find? name).bind read?

/-- A field with a value for when it is not there. -/
def defaulted? {α : Type} (fields : Table Json) (name : String) (absent : α)
    (read? : Json → Option α) : Option α :=
  match fields.find? name with
  | some json => read? json
  | none => some absent

end Rulebook.Wire
