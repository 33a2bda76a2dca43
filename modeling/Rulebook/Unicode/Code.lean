/-!
# The code of the character tables

The tables hold numbers in base 36.  A group of numbers is joined by hyphens and
stands for a range of characters or for a class of them; groups are separated
by spaces and by the ends of lines.
-/

namespace Rulebook.Unicode

/-- The value of a digit in base 36. -/
def digitValue (c : Char) : Nat :=
  if c.isDigit then c.toNat - '0'.toNat else c.toNat - 'a'.toNat + 10

/-- The groups of numbers in a line of code. -/
def groupsOfLine (line : String) : List (List Nat) :=
  (line.toList.splitOn ' ').map fun group =>
    (group.splitOn '-').map fun digits => digits.foldl (fun n c => n * 36 + digitValue c) 0

/-- The groups of numbers in a code. -/
def groups (code : List String) : List (List Nat) :=
  code.flatMap groupsOfLine

/-- Ranges from groups: the gap in front of a range, counted from `start`, and
for a range of several characters how many follow the first. -/
def rangesFrom (start : Nat) : List (List Nat) → List (Nat × Nat)
  | [gap] :: rest => (start + gap, start + gap) :: rangesFrom (start + gap + 1) rest
  | [gap, more] :: rest =>
      (start + gap, start + gap + more) :: rangesFrom (start + gap + more + 1) rest
  | _ => []

/-- The ranges that a code stands for. -/
def decodeRanges (code : List String) : List (Nat × Nat) :=
  rangesFrom 0 (groups code)

/-- The sums of a list of steps from a start on. -/
def sumsFrom (start : Nat) : List Nat → List Nat
  | [] => []
  | step :: steps => (start + step) :: sumsFrom (start + step) steps

/-- Classes from groups: the step from the first member of the class before,
and the steps from member to member. -/
def classesFrom (first : Nat) : List (List Nat) → List (List Nat)
  | [] => []
  | steps :: rest =>
      let members := sumsFrom first steps
      members :: classesFrom (members.headD first) rest

/-- The classes that a code stands for. -/
def decodeClasses (code : List String) : List (List Nat) :=
  classesFrom 0 (groups code)

end Rulebook.Unicode
