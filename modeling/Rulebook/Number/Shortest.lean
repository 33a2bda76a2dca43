import Rulebook.Number.Numeral
import Rulebook.Text.Blank

/-!
# Shortest decimal notation

`Magnitude.shortest` finds the fewest decimal digits that read back as a given
magnitude.  With a fixed number of digits only the two neighbours of the
magnitude on that decimal grid can do, so from one digit on both are tried, and
the nearer one is taken where both read back.  A `Layout` then says where the
point goes and when a power of ten is written.
-/

namespace Rulebook

/-- Whole digits times a power of ten. -/
structure Scaled where
  digits : Nat
  exponent : Int
deriving DecidableEq, Inhabited

namespace Scaled

/-- The magnitude nearest to the product. -/
def nearest (s : Scaled) : Magnitude :=
  .ofDecimal s.digits s.exponent

end Scaled

/-- The choices a decimal notation leaves open. -/
structure Layout where
  /-- The least power of ten of a leading digit that is written positionally. -/
  lowest : Int
  /-- The largest one. -/
  highest : Int
  /-- What stands after the point of a number written without a fraction. -/
  emptyFraction : List Char
  /-- Whether the upper of two equally near neighbours is taken; otherwise it
  is the one with an even last digit. -/
  tieUp : Bool

namespace Magnitude

/-- The power of ten of the leading digit of a finite magnitude other than
zero. -/
def leadingPower (m : Magnitude) : Int :=
  if unitsPerOne ≤ m.units then (decimalDigits (m.units / unitsPerOne)).length - 1
  else -((decimalDigits ((unitsPerOne - 1) / m.units)).length : Int)

/-- A finite magnitude in steps of `10 ^ exponent`, as a quotient. -/
def inSteps (m : Magnitude) (exponent : Int) : Nat × Nat :=
  if 0 ≤ exponent then (m.units, Nat.pow 10 exponent.toNat * unitsPerOne)
  else (m.units * Nat.pow 10 (-exponent).toNat, unitsPerOne)

/-- The neighbour of a magnitude on the grid of step `10 ^ exponent` that reads
back as the magnitude, the nearer one where both do. -/
def neighbour? (tieUp : Bool) (m : Magnitude) (exponent : Int) : Option Scaled :=
  let (num, den) := m.inSteps exponent
  let low : Scaled := ⟨num / den, exponent⟩
  let high : Scaled := ⟨num / den + 1, exponent⟩
  match decide (low.nearest = m), decide (high.nearest = m) with
  | true, true =>
      let twice := 2 * (num % den)
      some (if twice < den || (twice == den && !tieUp && low.digits % 2 == 0) then low else high)
  | true, false => some low
  | false, true => some high
  | false, false => none

/-- The exact value of a finite magnitude as a decimal. -/
def exact (m : Magnitude) : Scaled :=
  ⟨m.units * Nat.pow 5 1074, -1074⟩

/-- The fewest digits that read back as a finite magnitude other than zero. -/
def shortest (tieUp : Bool) (m : Magnitude) : Scaled :=
  let power := m.leadingPower
  match (List.range 17).findSome? fun (count : Nat) => m.neighbour? tieUp (power - count) with
  | some s => s
  | none => m.exact

end Magnitude

namespace Layout

/-- Writes digits whose point stands `point` places from their left end. -/
def positional (layout : Layout) (negative : Bool) (digits : List Char) (point : Int) : Numeral :=
  if point ≤ 0 then ⟨negative, ['0'], List.replicate (-point).toNat '0' ++ digits, 0⟩
  else if point < digits.length then
    ⟨negative, digits.take point.toNat, digits.drop point.toNat, 0⟩
  else
    ⟨negative, digits ++ List.replicate (point.toNat - digits.length) '0', layout.emptyFraction, 0⟩

/-- Writes digits as one digit, a fraction and a power of ten. -/
def scientific (negative : Bool) (digits : List Char) (point : Int) : Numeral :=
  ⟨negative, digits.take 1, digits.drop 1, point - 1⟩

/-- Writes a finite magnitude with a sign. -/
def numeral (layout : Layout) (negative : Bool) (m : Magnitude) : Numeral :=
  if m = .zero then ⟨negative, ['0'], layout.emptyFraction, 0⟩
  else
    let s := m.shortest layout.tieUp
    let all := decimalDigits s.digits
    let point := s.exponent + all.length
    let digits := (all.reverse.dropWhile (· == '0')).reverse
    if layout.lowest ≤ point - 1 && point - 1 ≤ layout.highest then
      layout.positional negative digits point
    else scientific negative digits point

end Layout

namespace Number

/-- Numbers in running text: no point in a whole number, and a power of ten
from `10 ^ 21` on and below `10 ^ -6`. -/
def plainLayout : Layout := ⟨-6, 20, [], true⟩

/-- The text of a number.  Zero has no sign. -/
def text : Number → String
  | nan => "NaN"
  | signed negative m =>
      if m = .infinity then if negative then "-Infinity" else "Infinity"
      else String.ofList (plainLayout.numeral (negative && m != .zero) m).text

/-- Reads a number as rule arguments hold it: blanks around it do not count,
blank text is zero, and other text that is no number is `nan`. -/
def ofArgument (s : List Char) : Number :=
  let trimmed := Text.trimChars s
  if trimmed.isEmpty then zero else (ofChars? trimmed).getD nan

end Number

end Rulebook
