import Rulebook.Json.Number
import Rulebook.Value.Basic

/-!
# Values on the wire

Every value has a document: a file is an object of its name and size, and a
number without digits is `null`.  Read back, an object gives a record in which
the last of several equal names counts, at the place of the first.
-/

namespace Rulebook

/-- Documents may not nest as deep as this where they are read as values or as
rule sets. -/
def Json.nestingLimit : Nat := 128

/-- A file as a document. -/
def File.toJson (file : File) : Json :=
  .object [("name", .string file.name), ("size", .ofNat file.size)]

namespace Value

mutual

/-- A value as a document. -/
def toJson : Value → Json
  | null => .null
  | bool b => .bool b
  | number n => n.toJson
  | string s => .string s
  | array items => .array (itemsToJson items)
  | object fields => .object (fieldsToJson fields)
  | file f => f.toJson
  | files fs => .array (fs.map File.toJson)

/-- The documents of a list of values. -/
def itemsToJson : List Value → List Json
  | [] => []
  | item :: items => toJson item :: itemsToJson items

/-- The documents of the fields of a record. -/
def fieldsToJson : List (String × Value) → List (String × Json)
  | [] => []
  | (name, value) :: fields => (name, toJson value) :: fieldsToJson fields

end

mutual

/-- The value that a document stands for. -/
def ofJson? : Json → Option Value
  | .null => some null
  | .bool b => some (bool b)
  | .number n => n.scaled?.map number
  | .string s => some (string s)
  | .array items => (itemsOfJson? items).map array
  | .object members => (fieldsOfJson? members).map fun fields => object (Table.ofList fields)
  | .garbled => none

/-- The values that the items of an array stand for. -/
def itemsOfJson? : List Json → Option (List Value)
  | [] => some []
  | json :: items =>
      match ofJson? json with
      | some item => (itemsOfJson? items).map (item :: ·)
      | none => none

/-- The fields that the members of an object stand for, repeated names
included. -/
def fieldsOfJson? : List (String × Json) → Option (List (String × Value))
  | [] => some []
  | (name, json) :: members =>
      match ofJson? json with
      | some value => (fieldsOfJson? members).map ((name, value) :: ·)
      | none => none

end

/-- Reads a JSON text as a value. -/
def ofText? (text : String) : Option Value := do
  let json ← Json.parse? text
  if json.nesting < Json.nestingLimit then ofJson? json else none

/-- A value as JSON text. -/
def render (value : Value) : String :=
  value.toJson.render

end Value

end Rulebook
