import Rulebook.Number.Basic
import Rulebook.Table

/-!
# Values under validation

A record is a table of values.  Besides what a JSON document can carry, a value
can be an uploaded file or a list of files, of which only the name and the size
count.
-/

namespace Rulebook

/-- An uploaded file. -/
structure File where
  /-- The name, its extension included. -/
  name : String
  /-- The size in bytes. -/
  size : Nat
deriving DecidableEq, Inhabited

namespace File

/-- The size in whole kilobytes. -/
def kilobytes (file : File) : Nat :=
  file.size / 1024

end File

/-- What stands after the last dot of a file name that has one. -/
def extensionChars? (name : List Char) : Option (List Char) :=
  if name.contains '.' then some (name.reverse.takeWhile (· != '.')).reverse else none

/-- `extensionChars?` on strings. -/
def extension? (name : String) : Option String :=
  (extensionChars? name.toList).map String.ofList

/-- The extension of a file. -/
def File.extension? (file : File) : Option String :=
  Rulebook.extension? file.name

/-- A value of a record. -/
inductive Value where
  | null
  | bool (b : Bool)
  | number (n : Number)
  | string (s : String)
  | array (items : List Value)
  | object (fields : List (String × Value))
  | file (f : File)
  | files (fs : List File)
deriving Inhabited

/-- The fields of an object, in order. -/
abbrev Record := Table Value

/-- The kinds of things that a field or a registered rule can be. -/
inductive Kind where
  | string
  | number
  | boolean
  | array
  | object
  | file
  | files
  | pattern
  | function
  | null
  | undefined
deriving DecidableEq, Inhabited

/-- The name of a kind. -/
def Kind.name : Kind → String
  | string => "string"
  | number => "number"
  | boolean => "boolean"
  | array => "array"
  | object => "object"
  | file => "file"
  | files => "filelist"
  | pattern => "regexp"
  | function => "function"
  | null => "null"
  | undefined => "undefined"

namespace Value

def kind : Value → Kind
  | null => .null
  | bool _ => .boolean
  | number _ => .number
  | string _ => .string
  | array _ => .array
  | object _ => .object
  | file _ => .file
  | files _ => .files

/-- The text of a string value. -/
def text? : Value → Option String
  | string s => some s
  | _ => none

/-- The number of a number value. -/
def number? : Value → Option Number
  | number n => some n
  | _ => none

/-- The fields of an object value. -/
def record? : Value → Option Record
  | object fields => some fields
  | _ => none

/-- The fields of an object value; any other value has none. -/
def fields (value : Value) : Record :=
  value.record?.getD []

/-- `null`, `false`, zero, `nan` and the empty string count as empty; all other
values are truthy. -/
def isTruthy : Value → Bool
  | null => false
  | bool b => b
  | number n => !n.isZero && !n.isNaN
  | string s => !s.isEmpty
  | array _ | object _ | file _ | files _ => true

end Value

/-- The kind of a field of a record, which may be absent. -/
def kindOf (value : Option Value) : Kind :=
  value.elim .undefined Value.kind

end Rulebook
