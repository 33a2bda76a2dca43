/-!
# Magnitudes of double precision

A magnitude is an absolute value in the binary interchange format of 64 bits,
given by its rank: the place it has among all magnitudes, from zero at rank `0`
to infinity at the last one.  The order of magnitudes is the order of ranks.

Every finite magnitude is a whole number of units of `2 ^ -1074`, so all
arithmetic is exact arithmetic on units followed by one rounding: `nearest`
takes a quotient of units to the magnitude closest to it, a tie to the one with
the even rank.
-/

namespace Rulebook

/-- The rank of infinity. -/
def infinityRank : Nat := 0x7FF0000000000000

/-- An absolute value in double precision, infinity included. -/
structure Magnitude where
  /-- How many magnitudes are smaller. -/
  rank : Nat
  rank_le : rank ≤ infinityRank := by decide
deriving DecidableEq

namespace Magnitude

theorem ext_rank {a b : Magnitude} (h : a.rank = b.rank) : a = b := by
  cases a
  cases b
  cases h
  rfl

def zero : Magnitude := ⟨0, by decide⟩

def infinity : Magnitude := ⟨infinityRank, by decide⟩

instance : Inhabited Magnitude := ⟨zero⟩

/-- How many units make one. -/
def unitsPerOne : Nat := Nat.pow 2 1074

/-- How many ranks have steps of the same width. -/
def ranksPerWidth : Nat := 0x10000000000000

/-- The number of units in a finite magnitude.  Below rank `2 ^ 53` it is the
rank itself; from there on the units double in width with every `2 ^ 52` ranks. -/
def units (m : Magnitude) : Nat :=
  if m.rank < ranksPerWidth then m.rank
  else (m.rank % ranksPerWidth + ranksPerWidth) * Nat.pow 2 (m.rank / ranksPerWidth - 1)

/-- A quotient rounded to the nearest whole number, a half to the even one. -/
def halfEven (num den : Nat) : Nat :=
  let q := num / den
  let r := num % den
  if 2 * r < den then q else if den < 2 * r then q + 1 else q + q % 2

/-- The magnitude nearest to `num / den` units, and infinity from half a step
above the largest finite one. -/
def nearest (num den : Nat) : Magnitude :=
  let spread := (num / den).log2 - 52
  let steps := halfEven num (den * Nat.pow 2 spread)
  ⟨min (spread * ranksPerWidth + steps) infinityRank, Nat.min_le_right _ _⟩

/-- The magnitude nearest to a natural number. -/
def ofNat (n : Nat) : Magnitude :=
  nearest (n * unitsPerOne) 1

/-- The product, rounded. -/
def mul (a b : Magnitude) : Magnitude :=
  nearest (a.units * b.units) unitsPerOne

/-- The quotient of finite magnitudes, rounded. -/
def div (a b : Magnitude) : Magnitude :=
  nearest (a.units * unitsPerOne) b.units

def isFinite (m : Magnitude) : Bool :=
  m.rank < infinityRank

/-- A finite magnitude without a fraction. -/
def isWhole (m : Magnitude) : Bool :=
  m.isFinite && m.units % unitsPerOne == 0

/-- The magnitude nearest to `digits * 10 ^ exponent`.  Exponents so large or
so small that the outcome is plain are settled without computing the power. -/
def ofDecimal (digits : Nat) (exponent : Int) : Magnitude :=
  if digits = 0 then zero
  else if 400 < exponent then infinity
  else if (digits.log2 : Int) + 3 * exponent < -1100 then zero
  else if 0 ≤ exponent then nearest (digits * Nat.pow 10 exponent.toNat * unitsPerOne) 1
  else nearest (digits * unitsPerOne) (Nat.pow 10 (-exponent).toNat)

@[simp]
theorem units_zero : zero.units = 0 := by
  simp [units, zero]

@[simp]
theorem ofDecimal_zero (exponent : Int) : ofDecimal 0 exponent = zero := by
  simp [ofDecimal]

end Magnitude

end Rulebook
