import Rulebook.Date.Scan

/-!
# Dates of messages

The notation of RFC 2822, old years and zone names included: an optional
weekday, which has to be the right one, the day, the name of the month, the
year, the time and the zone, and comments in parentheses at the end.
-/

namespace Rulebook.Date

/-- Reads a name of three letters in any case, and gives its place among the
names. -/
def name? (names : List String) (s : List Char) : Option (Nat × List Char) :=
  let word := String.ofList ((s.take 3).map Char.toLower)
  (names.findIdx? (· == word)).map fun place => (place, s.drop 3)

def weekdayNames : List String := ["mon", "tue", "wed", "thu", "fri", "sat", "sun"]

def monthNames : List String :=
  ["jan", "feb", "mar", "apr", "may", "jun", "jul", "aug", "sep", "oct", "nov", "dec"]

/-- Reads the weekday and its comma, if a weekday is there. -/
def weekday? (s : List Char) : Option (Option Nat × List Char) :=
  match name? weekdayNames s with
  | some (weekday, rest) => (mark? ',' rest).map (some weekday, ·)
  | none => some (none, s)

/-- Reads a year.  With two digits it is between 1950 and 2049, and three digits
count from 1900. -/
def messageYear? (s : List Char) : Option (Nat × List Char) := do
  let (year, rest) ← longNumber? 2 s
  let width := s.length - rest.length
  if width = 2 then return (if year < 50 then year + 2000 else year + 1900, rest)
  else if width = 3 then return (year + 1900, rest)
  else return (year, rest)

/-- Reads the seconds, if there are any. -/
def optionalSecond? (s : List Char) : Option (Nat × List Char) :=
  match mark? ':' (skipBlanks s) with
  | some rest => number? 2 2 rest
  | none => some (0, s)

/-- The offset of a zone in hours by its name in lower case. -/
def zoneHours? (name : String) : Option Int :=
  if ["gmt", "ut", "z"].contains name then some 0
  else if name = "edt" then some (-4)
  else if ["est", "cdt"].contains name then some (-5)
  else if ["cst", "mdt"].contains name then some (-6)
  else if ["mst", "pdt"].contains name then some (-7)
  else if name = "pst" then some (-8)
  else if name.length = 1 && name != "j" then some 0
  else none

/-- Reads a zone as an offset in minutes. -/
def zone? (s : List Char) : Option (Int × List Char) :=
  let name := s.takeWhile Char.isAlpha
  if name.isEmpty then do
    let (negative, s) ← offsetSign? false s
    let (hours, s) ← number? 2 2 s
    let (minutes, s) ← number? 2 2 s
    let offset ← offsetOf? negative hours minutes
    return (offset, s)
  else
    (zoneHours? (String.ofList (name.map Char.toLower))).map fun hours =>
      (hours * 60, s.dropWhile Char.isAlpha)

/-- Skips a comment after its first parenthesis, inside so many others.  A
backslash takes its meaning from the character after it. -/
def skipComment? : Nat → List Char → Option (List Char)
  | _, [] => none
  | 0, ')' :: rest => some rest
  | depth + 1, ')' :: rest => skipComment? depth rest
  | depth, '(' :: rest => skipComment? (depth + 1) rest
  | depth, '\\' :: _ :: rest => skipComment? depth rest
  | depth, _ :: rest => skipComment? depth rest

/-- Skips comments, and blanks in front of each. -/
def skipComments : Nat → List Char → List Char
  | 0, s => s
  | fuel + 1, s =>
      match (mark? '(' (skipBlanks s)).bind (skipComment? 0) with
      | some rest => skipComments fuel rest
      | none => s

/-- Reads the date of a message as an instant of UTC. -/
def messageDate? (s : List Char) : Option DateTime := do
  let (weekday, s) ← weekday? (skipBlanks s)
  let (day, s) ← number? 1 2 (skipBlanks s)
  let s ← skipBlanks? s
  let (month, s) ← name? monthNames s
  let s ← skipBlanks? s
  let (year, s) ← messageYear? s
  let s ← skipBlanks? s
  let (hour, s) ← number? 2 2 s
  let s ← mark? ':' (skipBlanks s)
  let (minute, s) ← number? 2 2 (skipBlanks s)
  let (second, s) ← optionalSecond? s
  let s ← skipBlanks? s
  let (offset, s) ← zone? s
  let date : CalendarDate := ⟨year, month + 1, day⟩
  let localTime ← DateTime.ofFields? date hour minute second 0
  if weekday.all (· == date.weekday) && (skipComments s.length s).isEmpty then
    localTime.toUtc? offset
  else none

end Rulebook.Date
