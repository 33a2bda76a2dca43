import Rulebook.Json.Basic
import Rulebook.Text.Hex

/-!
# Reading JSON text

`Json.parse?` reads one document with the grammar of RFC 8259 and nothing more:
blanks are space, tab, line feed and carriage return, strings hold no control
characters, and numbers have no needless zero in front.  How deep a document
nests and how large its numbers are is left to whoever uses it.
-/

namespace Rulebook.Json

open Text

/-- The blanks of JSON text. -/
def isSpace (c : Char) : Bool :=
  c = ' ' || c = '\t' || c = '\n' || c = '\r'

/-- Skips blanks. -/
def skipSpace (s : List Char) : List Char :=
  s.dropWhile isSpace

/-- The value of four hexadecimal digits. -/
def hex4? (a b c d : Char) : Option Nat := do
  let a ← hexValue? a
  let b ← hexValue? b
  let c ← hexValue? c
  let d ← hexValue? d
  return ((a * 16 + b) * 16 + c) * 16 + d

/-- What the character after a backslash stands for, `u` apart. -/
def simpleEscape? (c : Char) : Option Char :=
  if c = '"' || c = '\\' || c = '/' then some c
  else if c = 'b' then some '\x08'
  else if c = 'f' then some '\x0c'
  else if c = 'n' then some '\n'
  else if c = 'r' then some '\r'
  else if c = 't' then some '\t'
  else none

def isHighSurrogate (n : Nat) : Bool :=
  0xD800 ≤ n && n < 0xDC00

def isLowSurrogate (n : Nat) : Bool :=
  0xDC00 ≤ n && n < 0xE000

/-- The characters of a string after its first quote, in reverse, and `none`
for them from half a surrogate pair on. -/
def readString? (soFar : Option (List Char)) : List Char → Option (Option String × List Char)
  | [] => none
  | '"' :: rest => some (soFar.map fun cs => String.ofList cs.reverse, rest)
  | '\\' :: 'u' :: a :: b :: c :: d :: '\\' :: 'u' :: e :: f :: g :: h :: rest =>
      match hex4? a b c d, hex4? e f g h with
      | some high, some low =>
          if isHighSurrogate high && isLowSurrogate low then
            let code := 0x10000 + (high - 0xD800) * 0x400 + (low - 0xDC00)
            readString? (soFar.map (Char.ofNat code :: ·)) rest
          else if isHighSurrogate high || isLowSurrogate high then
            readString? none ('\\' :: 'u' :: e :: f :: g :: h :: rest)
          else
            readString? (soFar.map (Char.ofNat high :: ·)) ('\\' :: 'u' :: e :: f :: g :: h :: rest)
      | _, _ => none
  | '\\' :: 'u' :: a :: b :: c :: d :: rest =>
      match hex4? a b c d with
      | some n =>
          if isHighSurrogate n || isLowSurrogate n then readString? none rest
          else readString? (soFar.map (Char.ofNat n :: ·)) rest
      | none => none
  | '\\' :: c :: rest =>
      match simpleEscape? c with
      | some plain => readString? (soFar.map (plain :: ·)) rest
      | none => none
  | c :: rest => if c.toNat < 0x20 || c = '\\' then none else readString? (soFar.map (c :: ·)) rest
termination_by s => s.length

/-- Reads the digits before the point: a zero alone, or digits that start with
another one. -/
def readWhole? (s : List Char) : Option (List Char × List Char) :=
  match s.takeWhile Char.isDigit with
  | [] => none
  | ['0'] => some (['0'], s.dropWhile Char.isDigit)
  | '0' :: _ => none
  | digits => some (digits, s.dropWhile Char.isDigit)

/-- Reads a number. -/
def readNumber? (s : List Char) : Option (Numeral × List Char) := do
  let (negative, s) := match s with
    | '-' :: rest => (true, rest)
    | _ => (false, s)
  let (whole, s) ← readWhole? s
  let (fraction, rest) := readFraction s
  if fraction.isEmpty && s.head? = some '.' then none
  else
    let (exponent, rest) ← readExponent? rest
    return (⟨negative, whole, fraction, exponent⟩, rest)

/-- An object with these members, unless one of their names is garbled. -/
def ofMembers (members : List (Option String × Json)) : Json :=
  match members.mapM fun (name, item) => name.map (·, item) with
  | some members => object members
  | none => garbled

mutual

/-- Reads a document at the head of a text.  The fuel bounds the number of
values and of separators on the way. -/
def readValue? : Nat → List Char → Option (Json × List Char)
  | 0, _ => none
  | fuel + 1, s =>
      match skipSpace s with
      | 'n' :: 'u' :: 'l' :: 'l' :: rest => some (null, rest)
      | 't' :: 'r' :: 'u' :: 'e' :: rest => some (bool true, rest)
      | 'f' :: 'a' :: 'l' :: 's' :: 'e' :: rest => some (bool false, rest)
      | '"' :: rest =>
          match readString? (some []) rest with
          | some (s, rest) => some (s.elim garbled string, rest)
          | none => none
      | '[' :: rest =>
          match skipSpace rest with
          | ']' :: rest => some (array [], rest)
          | _ =>
              match readItems? fuel rest with
              | some (items, rest) => some (array items, rest)
              | none => none
      | '\x7b' :: rest =>
          match skipSpace rest with
          | '\x7d' :: rest => some (object [], rest)
          | _ =>
              match readMembers? fuel rest with
              | some (members, rest) => some (ofMembers members, rest)
              | none => none
      | s =>
          match readNumber? s with
          | some (n, rest) => some (number n, rest)
          | none => none

/-- Reads items up to the end of their array. -/
def readItems? : Nat → List Char → Option (List Json × List Char)
  | 0, _ => none
  | fuel + 1, s =>
      match readValue? fuel s with
      | some (item, rest) =>
          match skipSpace rest with
          | ']' :: rest => some ([item], rest)
          | ',' :: rest =>
              match readItems? fuel rest with
              | some (items, rest) => some (item :: items, rest)
              | none => none
          | _ => none
      | none => none

/-- Reads members up to the end of their object. -/
def readMembers? : Nat → List Char → Option (List (Option String × Json) × List Char)
  | 0, _ => none
  | fuel + 1, s =>
      match skipSpace s with
      | '"' :: rest =>
          match readString? (some []) rest with
          | some (name, rest) =>
              match skipSpace rest with
              | ':' :: rest =>
                  match readValue? fuel rest with
                  | some (item, rest) =>
                      match skipSpace rest with
                      | '\x7d' :: rest => some ([(name, item)], rest)
                      | ',' :: rest =>
                          match readMembers? fuel rest with
                          | some (members, rest) => some ((name, item) :: members, rest)
                          | none => none
                      | _ => none
                  | none => none
              | _ => none
          | none => none
      | _ => none

end

/-- Reads a document that takes up the whole text, blanks around it apart. -/
def parseChars? (s : List Char) : Option Json :=
  match readValue? (2 * s.length + 2) s with
  | some (json, rest) => if (skipSpace rest).isEmpty then some json else none
  | none => none

/-- `parseChars?` on strings. -/
def parse? (s : String) : Option Json :=
  parseChars? s.toList

end Rulebook.Json
