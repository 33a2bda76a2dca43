import Rulebook.Date.Layout
import Rulebook.Date.Rfc2822
import Rulebook.Date.Rfc3339

/-!
# Reading dates

A date is read in the first of ten notations that accepts it: timestamps, dates
of messages, and the layouts.  Times with an offset are taken to UTC; times
without one are left as they are.
-/

namespace Rulebook.Date

/-- The notations of dates, in the order in which they are tried. -/
def readings : List (List Char → Option DateTime) :=
  timestamp? :: messageDate? :: (Layout.dateTimes ++ Layout.dates).map Layout.read?

/-- Reads a date without blanks around it. -/
def readChars? (s : List Char) : Option DateTime :=
  if s.isEmpty then none else readings.findSome? fun read => read s

/-- Reads a date. -/
def read? (text : String) : Option DateTime :=
  readChars? (Text.trimChars text.toList)

end Rulebook.Date
