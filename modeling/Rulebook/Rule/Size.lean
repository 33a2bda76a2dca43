import Rulebook.Rule.Basic

/-!
# Size rules

Bounds on the size of a value.  Text is compared with the bound as text, a
number with the bound as a number, a file by its size in kilobytes, and a list
of files, which must not be empty, file by file.  Values of other kinds have no
size.
-/

namespace Rulebook.Size

/-- The size of a file in kilobytes as a number. -/
def ofFile (file : File) : Number := .ofNat file.kilobytes

/-- Whether a value passes a test on text or a test on numbers, whichever its
size calls for. -/
def check (onText : String → Bool) (onNumber : Number → Bool) : Value → Bool
  | .string s => onText s
  | .number n => onNumber n
  | .file f => onNumber (ofFile f)
  | .files fs => !fs.isEmpty && fs.all fun f => onNumber (ofFile f)
  | _ => false

/-- The number that the text of an argument stands for. -/
def bound (arg : String) : Number := .ofArgument arg.toList

/-- From one bound to another, both included. -/
def between (value : Value) (least most : String) : Bool :=
  check (fun s => least ≤ s && s ≤ most) (fun n => (bound least).le n && n.le (bound most)) value

/-- The bound or more. -/
def min (value : Value) (least : String) : Bool :=
  check (fun s => least ≤ s) (fun n => (bound least).le n) value

/-- The bound or less. -/
def max (value : Value) (most : String) : Bool :=
  check (fun s => s ≤ most) (fun n => n.le (bound most)) value

/-- Exactly the given size, which for text is its number of characters. -/
def size (value : Value) (expected : String) : Bool :=
  check (fun s => (Number.ofNat s.length).eq (bound expected)) (fun n => n.eq (bound expected))
    value

/-- Reads a count of 64 bits in decimal digits, which may have a plus sign. -/
def countChars? (s : List Char) : Option Nat :=
  let digits := match s with
    | '+' :: rest => rest
    | _ => s
  if !digits.isEmpty && digits.all Char.isDigit && digitsValue digits < Nat.pow 2 64 then
    some (digitsValue digits)
  else none

/-- `countChars?` on strings. -/
def count? (arg : String) : Option Nat := countChars? arg.toList

/-- The number of digits in a text of digits alone. -/
def digitRun? (value : Value) : Option Nat :=
  let s := value.stringify.toList
  if s.all Char.isDigit then some s.length else none

/-- So many digits and nothing else. -/
def digits (value : Value) (arg : String) : Bool :=
  match count? arg with
  | some count => digitRun? value == some count
  | none => false

/-- Digits only, as many as the bounds allow. -/
def digitsBetween (value : Value) (least most : String) : Bool :=
  match count? least, count? most with
  | some low, some high => (digitRun? value).any fun count => low ≤ count && count ≤ high
  | _, _ => false

/-- A rule with one argument. -/
def withOne (test : Value → String → Bool) : ValueRule :=
  .predicate (.exact 1) fun _ value args => do return test value (← args[0]?)

/-- With its one argument a rule is its test. -/
theorem holds_withOne (test : Value → String → Bool) (patterns : PatternSource) (record : Record)
    (value : Value) (arg : String) :
    (withOne test).holds patterns record value [arg] = test value arg := by
  simp [withOne, ValueRule.holds, Arity.accepts]

/-- A rule with two arguments. -/
def withTwo (test : Value → String → String → Bool) : ValueRule :=
  .predicate (.exact 2) fun _ value args => do return test value (← args[0]?) (← args[1]?)

/-- With its two arguments a rule is its test. -/
theorem holds_withTwo (test : Value → String → String → Bool) (patterns : PatternSource)
    (record : Record) (value : Value) (first second : String) :
    (withTwo test).holds patterns record value [first, second] = test value first second := by
  simp [withTwo, ValueRule.holds, Arity.accepts]

/-- The size rules that are there from the start. -/
def builtIn : Table ValueRule := [
  ("between", withTwo between),
  ("min", withOne min),
  ("max", withOne max),
  ("size", withOne size),
  ("digits", withOne digits),
  ("digits_between", withTwo digitsBetween)]

end Rulebook.Size
