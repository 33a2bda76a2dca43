import Rulebook.Date.Scan

/-!
# Layouts of dates

Dates without an offset are read by layouts.  A layout is a list of fields, of
marks between them and of gaps, which stand for any blanks or none.  Blanks are
also skipped in front of every number.
-/

namespace Rulebook.Date

/-- A part of a layout. -/
inductive Part where
  | year
  | month
  | day
  | hour
  | minute
  | second
  /-- A point and a fraction of the second, which may be missing. -/
  | fraction
  | gap
  | mark (c : Char)
deriving DecidableEq, Inhabited

/-- The fields that have been read. -/
structure Reading where
  date : CalendarDate
  hour : Nat
  minute : Nat
  second : Nat
  nanosecond : Nat
deriving Inhabited

/-- Reads a year: up to four digits, or a sign and any number of digits. -/
def year? (s : List Char) : Option (Int × List Char) :=
  match skipBlanks s with
  | '+' :: rest => (longNumber? 1 rest).map fun (n, rest) => ((n : Int), rest)
  | '-' :: rest => (longNumber? 1 rest).map fun (n, rest) => (-(n : Int), rest)
  | s => (number? 1 4 s).map fun (n, rest) => ((n : Int), rest)

/-- Reads a field of one or two digits. -/
def field? (s : List Char) : Option (Nat × List Char) :=
  number? 1 2 (skipBlanks s)

namespace Part

/-- Reads one part of a layout. -/
def read? (part : Part) (r : Reading) (s : List Char) : Option (Reading × List Char) :=
  match part with
  | year => (year? s).map fun (n, rest) => ({ r with date.year := n }, rest)
  | month => (field? s).map fun (n, rest) => ({ r with date.month := n }, rest)
  | day => (field? s).map fun (n, rest) => ({ r with date.day := n }, rest)
  | hour => (field? s).map fun (n, rest) => ({ r with hour := n }, rest)
  | minute => (field? s).map fun (n, rest) => ({ r with minute := n }, rest)
  | second => (field? s).map fun (n, rest) => ({ r with second := n }, rest)
  | fraction => (optionalFraction? s).map fun (n, rest) => ({ r with nanosecond := n }, rest)
  | gap => some (r, skipBlanks s)
  | mark c => (mark? c s).map (r, ·)

end Part

/-- A layout of dates. -/
abbrev Layout := List Part

namespace Layout

/-- Reads the parts of a layout. -/
def readParts? : Layout → Reading → List Char → Option (Reading × List Char)
  | [], r, s => some (r, s)
  | part :: parts, r, s =>
      match part.read? r s with
      | some (r, rest) => readParts? parts r rest
      | none => none

/-- Reads a whole text by a layout.  Fields that the layout lacks are zero. -/
def read? (layout : Layout) (s : List Char) : Option DateTime :=
  match readParts? layout ⟨⟨0, 0, 0⟩, 0, 0, 0, 0⟩ s with
  | some (r, []) => DateTime.ofFields? r.date r.hour r.minute r.second r.nanosecond
  | _ => none

/-- A date whose fields are separated by a mark. -/
def dateWith (c : Char) : Layout := [.year, .mark c, .month, .mark c, .day]

/-- Hours and minutes. -/
def clock : Layout := [.hour, .mark ':', .minute]

/-- Hours, minutes and seconds with an optional fraction. -/
def fullClock : Layout := clock ++ [.mark ':', .second, .fraction]

/-- The layouts of dates with a time. -/
def dateTimes : List Layout := [
  dateWith '-' ++ [.mark 'T'] ++ fullClock,
  dateWith '-' ++ [.gap] ++ fullClock,
  dateWith '-' ++ [.mark 'T'] ++ clock,
  dateWith '-' ++ [.gap] ++ clock,
  dateWith '/' ++ [.gap] ++ fullClock,
  dateWith '/' ++ [.gap] ++ clock]

/-- The layouts of dates alone, which stand for midnight. -/
def dates : List Layout := [dateWith '-', dateWith '/']

end Layout

end Rulebook.Date
