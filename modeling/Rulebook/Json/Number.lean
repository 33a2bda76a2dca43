import Rulebook.Json.Reader
import Rulebook.Number.Shortest

/-!
# Numbers of JSON text

A number of a JSON text is read in double precision through a significand of
64 bits.  As many leading digits are taken as fit; the whole digits left over
count as powers of ten and the fraction digits left over are dropped.  The
significand is then multiplied or divided by the power of ten, in steps of at
most `10 ^ 308` and with each step rounded.  A number beyond the largest finite
one is out of range.
-/

namespace Rulebook

namespace Magnitude

/-- The magnitude nearest to a power of ten. -/
def powerOfTen (exponent : Nat) : Magnitude :=
  ofDecimal 1 exponent

/-- Scales a finite magnitude by a power of ten, with every step rounded.
Infinity is out of range. -/
def scaleBy? (m : Magnitude) (exponent : Int) : Option Magnitude :=
  if 0 ≤ exponent then
    if m = zero then some zero
    else if exponent ≤ 308 then
      let product := m.mul (powerOfTen exponent.toNat)
      if product.isFinite then some product else none
    else none
  else if -308 ≤ exponent then some (m.div (powerOfTen (-exponent).toNat))
  else if m = zero then some zero
  else (m.div (powerOfTen 308)).scaleBy? (exponent + 308)
termination_by (-exponent).toNat
decreasing_by omega

end Magnitude

namespace Numeral

/-- Appends digits to a significand as long as it stays below `2 ^ 64`, and
counts them. -/
def gather (significand : Nat) : List Char → Nat × Nat
  | [] => (significand, 0)
  | c :: digits =>
      let next := significand * 10 + (c.toNat - '0'.toNat)
      if next < Nat.pow 2 64 then
        let (significand, count) := gather next digits
        (significand, count + 1)
      else (significand, 0)

/-- The number that a numeral of a JSON text stands for, if it is in range. -/
def scaled? (n : Numeral) : Option Number :=
  let (significand, taken) := gather 0 n.whole
  let (significand, takenAfter) := gather significand n.fraction
  let exponent : Int := n.exponent + (n.whole.length - taken : Nat) - takenAfter
  (Magnitude.scaleBy? (.ofNat significand) exponent).map (.signed n.negative)

end Numeral

namespace Number

/-- Numbers in JSON text: always with a point unless a power of ten is written,
which it is from `10 ^ 16` on and below `10 ^ -5`. -/
def jsonLayout : Layout := ⟨-5, 15, ['0'], false⟩

/-- A number as a document; only finite numbers have one of their own. -/
def toJson : Number → Json
  | nan => .null
  | signed negative m => if m = .infinity then .null else .number (jsonLayout.numeral negative m)

end Number

end Rulebook
