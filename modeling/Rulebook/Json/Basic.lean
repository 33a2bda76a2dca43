import Rulebook.Number.Numeral

/-!
# JSON documents

A document is the tree of a JSON text, with numbers as they are written and
every member of an object in its place, repeated names included.  A string
escape can name half of a surrogate pair alone; such a string is grammatical
but no text, and the document only marks that it was there.

`Json.render` writes a document without spaces.
-/

namespace Rulebook

/-- The tree of a JSON text. -/
inductive Json where
  | null
  | bool (b : Bool)
  | number (n : Numeral)
  | string (s : String)
  | array (items : List Json)
  | object (members : List (String × Json))
  /-- A string with half a surrogate pair, or an object with such a name. -/
  | garbled
deriving Inhabited

namespace Json

mutual

/-- How many arrays and objects are nested in one another. -/
def nesting : Json → Nat
  | array items => nestingItems items + 1
  | object members => nestingMembers members + 1
  | _ => 0

/-- The deepest nesting of a list of items. -/
def nestingItems : List Json → Nat
  | [] => 0
  | item :: items => max (nesting item) (nestingItems items)

/-- The deepest nesting of a list of members. -/
def nestingMembers : List (String × Json) → Nat
  | [] => 0
  | (_, item) :: members => max (nesting item) (nestingMembers members)

end

/-- The digit of a number below sixteen, in lower case. -/
def hexDigit (n : Nat) : Char :=
  Nat.digitChar n

/-- A character of a string as it is written between quotes. -/
def escapeChar (c : Char) : List Char :=
  if c = '"' then ['\\', '"']
  else if c = '\\' then ['\\', '\\']
  else if c = '\n' then ['\\', 'n']
  else if c = '\r' then ['\\', 'r']
  else if c = '\t' then ['\\', 't']
  else if c.toNat = 0x08 then ['\\', 'b']
  else if c.toNat = 0x0C then ['\\', 'f']
  else if c.toNat < 0x20 then
    ['\\', 'u', '0', '0', hexDigit (c.toNat / 16), hexDigit (c.toNat % 16)]
  else [c]

/-- A string between quotes. -/
def quote (s : String) : List Char :=
  '"' :: s.toList.flatMap escapeChar ++ ['"']

mutual

/-- The characters of a document. -/
def chars : Json → List Char
  | null => ['n', 'u', 'l', 'l']
  | bool true => ['t', 'r', 'u', 'e']
  | bool false => ['f', 'a', 'l', 's', 'e']
  | number n => n.text
  | string s => quote s
  | array items => '[' :: itemChars items ++ [']']
  | object members => '\x7b' :: memberChars members ++ ['\x7d']
  | garbled => ['"', '\\', 'u', 'd', '8', '0', '0', '"']

/-- The items of an array, separated by commas. -/
def itemChars : List Json → List Char
  | [] => []
  | [item] => chars item
  | item :: items => chars item ++ ',' :: itemChars items

/-- The members of an object, separated by commas. -/
def memberChars : List (String × Json) → List Char
  | [] => []
  | [(name, item)] => quote name ++ ':' :: chars item
  | (name, item) :: members => quote name ++ ':' :: (chars item ++ ',' :: memberChars members)

end

/-- Writes a document without spaces. -/
def render (json : Json) : String :=
  String.ofList json.chars

/-- A natural number as a document. -/
def ofNat (n : Nat) : Json :=
  number (.ofNat n)

/-- The kind of value that a document holds, as messages name it. -/
def kindName : Json → String
  | null => "null"
  | bool _ => "boolean"
  | number _ => "number"
  | string _ | garbled => "string"
  | array _ => "array"
  | object _ => "object"

end Json

end Rulebook
