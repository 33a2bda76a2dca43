import Rulebook.Date.Scan

/-!
# Internet timestamps

The notation of RFC 3339: a date and a time in fields of fixed width, and the
offset from UTC.
-/

namespace Rulebook.Date

/-- Reads the character between the date and the time. -/
def timeMark? : List Char → Option (List Char)
  | [] => none
  | c :: rest => if c = 'T' || c = 't' || c = ' ' then some rest else none

/-- Reads the offset of a timestamp in minutes. -/
def timestampOffset? (s : List Char) : Option (Int × List Char) :=
  match s with
  | 'Z' :: rest | 'z' :: rest => some (0, rest)
  | _ => do
      let (negative, s) ← offsetSign? true s
      let (hours, s) ← number? 2 2 s
      let s ← mark? ':' s
      let (minutes, s) ← number? 2 2 s
      let offset ← offsetOf? negative hours minutes
      return (offset, s)

/-- Reads a timestamp as an instant of UTC. -/
def timestamp? (s : List Char) : Option DateTime := do
  let (year, s) ← number? 4 4 s
  let s ← mark? '-' s
  let (month, s) ← number? 2 2 s
  let s ← mark? '-' s
  let (day, s) ← number? 2 2 s
  let s ← timeMark? s
  let (hour, s) ← number? 2 2 s
  let s ← mark? ':' s
  let (minute, s) ← number? 2 2 s
  let s ← mark? ':' s
  let (second, s) ← number? 2 2 s
  let (nanosecond, s) ← optionalFraction? s
  let (offset, s) ← timestampOffset? s
  let localTime ← DateTime.ofFields? ⟨year, month, day⟩ hour minute second nanosecond
  if s.isEmpty then localTime.toUtc? offset else none

end Rulebook.Date
