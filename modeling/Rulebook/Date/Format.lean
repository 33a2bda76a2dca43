import Rulebook.Date.Calendar
import Rulebook.Number.Numeral

/-!
# Writing dates

A pattern for dates is text in which the first run of each of the letters
`y`, `M`, `d`, `h`, `m`, `s` and `q` stands for a field, written as wide as the
run is long, and the first `S` stands for the milliseconds.

There is a greatest width that a number can be padded to.  A pattern that asks for
more has no text.
-/

namespace Rulebook.Date

/-- Replaces the first run of a letter, or only its first letter, by what its
length renders to, if it renders to something. -/
def replaceRun (letter : Char) (single : Bool) (render : Nat → Option (List Char))
    (s : List Char) : Option (List Char) :=
  match s.dropWhile (· != letter) with
  | [] => some s
  | run =>
      let length := if single then 1 else (run.takeWhile (· == letter)).length
      (render length).map fun text => s.takeWhile (· != letter) ++ text ++ run.drop length

/-- A number with zeros in front up to a width. -/
def zeroFilled (n width : Nat) : List Char :=
  let digits := decimalDigits n
  List.replicate (width - digits.length) '0' ++ digits

/-- The greatest width that a number can be padded to. -/
def greatestWidth : Nat := 65535

/-- A number padded with zeros to a width, unless the width is too great. -/
def padded (n width : Nat) : Option (List Char) :=
  if width ≤ greatestWidth then some (zeroFilled n width) else none

/-- A year in full. -/
def yearText (year : Int) : List Char :=
  if year < 0 then '-' :: decimalDigits year.natAbs else decimalDigits year.natAbs

/-- The end of a year, as many characters as asked for. -/
def yearEnd (year : Int) (width : Nat) : List Char :=
  let text := yearText year
  text.drop (text.length - width)

/-- The letters for the fields that are padded, and the fields. -/
def paddedFields (d : DateTime) : List (Char × Nat) :=
  [('M', d.date.month), ('d', d.date.day), ('h', d.hour), ('m', d.minute), ('s', d.second),
    ('q', d.date.quarter)]

/-- Writes a date by a pattern, one letter after the other. -/
def formatChars (d : DateTime) (pattern : List Char) : Option (List Char) := do
  let dated ← replaceRun 'y' false (fun width => some (yearEnd d.date.year width)) pattern
  let filled ← (paddedFields d).foldlM
    (fun s field => replaceRun field.1 false (padded field.2) s) dated
  replaceRun 'S' true (fun _ => some (decimalDigits (d.nanosecond / 1000000))) filled

/-- `formatChars` on strings. -/
def format (d : DateTime) (pattern : String) : Option String :=
  (formatChars d pattern.toList).map String.ofList

end Rulebook.Date
