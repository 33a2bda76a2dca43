import Rulebook.Date.Format
import Rulebook.Date.Read
import Rulebook.Rule.Kinds
import Rulebook.Rule.Size

/-!
# Date rules

Rules on strings that are dates.
-/

namespace Rulebook.Dates

/-- The date that a string value holds. -/
def ofValue? (value : Value) : Option DateTime :=
  value.text?.bind Date.read?

def isDate (value : Value) : Bool := (ofValue? value).isSome

/-- A date later than another. -/
def after (value : Value) (bound : String) : Bool :=
  match ofValue? value, Date.read? bound with
  | some d, some other => other.isBefore d
  | _, _ => false

/-- A date earlier than another. -/
def before (value : Value) (bound : String) : Bool :=
  match ofValue? value, Date.read? bound with
  | some d, some other => d.isBefore other
  | _, _ => false

/-- A date written exactly as a pattern would write it.  By a pattern that has no text
no date is written. -/
def hasFormat (value : Value) (pattern : String) : Bool :=
  match value.text? with
  | some text => (Date.read? text).any fun d => Date.format d pattern == some text
  | none => false

/-- The date rules that are there from the start. -/
def builtIn : Table ValueRule := [
  ("date", Kinds.plain isDate),
  ("after", Size.withOne after),
  ("before", Size.withOne before),
  ("date_format", Size.withOne hasFormat)]

end Rulebook.Dates
