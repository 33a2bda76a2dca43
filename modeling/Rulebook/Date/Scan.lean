import Rulebook.Date.Calendar
import Rulebook.Number.Numeral
import Rulebook.Text.Blank

/-!
# Scanning dates

The parts that the notations of dates have in common.
-/

namespace Rulebook.Date

open Text

/-- Skips blanks. -/
def skipBlanks (s : List Char) : List Char :=
  s.dropWhile isBlank

/-- Skips blanks, of which there has to be one. -/
def skipBlanks? : List Char → Option (List Char)
  | [] => none
  | c :: rest => if isBlank c then some (skipBlanks rest) else none

/-- Reads one particular character. -/
def mark? (mark : Char) : List Char → Option (List Char)
  | [] => none
  | c :: rest => if c = mark then some rest else none

/-- Reads a number of at least so many digits, and takes no more than so many. -/
def number? (least most : Nat) (s : List Char) : Option (Nat × List Char) :=
  let digits := (s.take most).takeWhile Char.isDigit
  if digits.length < least then none else some (digitsValue digits, s.drop digits.length)

/-- Reads a number of any number of digits. -/
def longNumber? (least : Nat) (s : List Char) : Option (Nat × List Char) :=
  number? least s.length s

/-- Reads the nanoseconds after a point; digits past nine are dropped. -/
def fraction? (s : List Char) : Option (Nat × List Char) :=
  let digits := s.takeWhile Char.isDigit
  let kept := digits.take 9
  if digits.isEmpty then none
  else some (digitsValue kept * Nat.pow 10 (9 - kept.length), s.dropWhile Char.isDigit)

/-- Reads a point and nanoseconds, if there is a point. -/
def optionalFraction? (s : List Char) : Option (Nat × List Char) :=
  match s with
  | '.' :: rest => fraction? rest
  | _ => some (0, s)

/-- Reads the sign of an offset, and says whether it is a minus. -/
def offsetSign? (longMinus : Bool) : List Char → Option (Bool × List Char)
  | '+' :: rest => some (false, rest)
  | '-' :: rest => some (true, rest)
  | c :: rest => if longMinus && c.toNat = 0x2212 then some (true, rest) else none
  | [] => none

/-- An offset of less than a day in minutes. -/
def offsetOf? (negative : Bool) (hours minutes : Nat) : Option Int :=
  if hours < 24 && minutes < 60 then
    let total : Int := (hours * 60 + minutes : Nat)
    some (if negative then -total else total)
  else none

end Rulebook.Date
