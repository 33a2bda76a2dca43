import Rulebook.Number.Magnitude

/-!
# Numbers

A number is a signed magnitude or `nan`.  Zero has two signs that compare as
equal, and `nan` compares with nothing, itself included.
-/

namespace Rulebook

/-- A number in double precision. -/
inductive Number where
  | nan
  | signed (negative : Bool) (magnitude : Magnitude)
deriving DecidableEq

namespace Number

/-- The place of a number in the order of numbers; both zeros are at `0`. -/
def key? : Number → Option Int
  | nan => none
  | signed true m => some (-(m.rank : Int))
  | signed false m => some m.rank

/-- Numeric equality: the zeros are equal and `nan` is equal to nothing. -/
def eq (a b : Number) : Bool :=
  match a.key?, b.key? with
  | some x, some y => decide (x = y)
  | _, _ => false

/-- Numeric order, which `nan` has no part in. -/
def le (a b : Number) : Bool :=
  match a.key?, b.key? with
  | some x, some y => decide (x ≤ y)
  | _, _ => false

/-- Strict numeric order. -/
def lt (a b : Number) : Bool :=
  match a.key?, b.key? with
  | some x, some y => decide (x < y)
  | _, _ => false

def zero : Number := signed false .zero

def infinity : Number := signed false .infinity

instance : Inhabited Number := ⟨zero⟩

def neg : Number → Number
  | nan => nan
  | signed negative m => signed (!negative) m

/-- The number nearest to a natural number. -/
def ofNat (n : Nat) : Number :=
  signed false (.ofNat n)

/-- The number nearest to an integer. -/
def ofInt (n : Int) : Number :=
  signed (n < 0) (.ofNat n.natAbs)

/-- One for `true`, zero for `false`. -/
def ofBool (b : Bool) : Number :=
  ofNat b.toNat

def isNaN : Number → Bool
  | nan => true
  | signed _ _ => false

def isFinite : Number → Bool
  | nan => false
  | signed _ m => m.isFinite

/-- A finite number without a fraction. -/
def isWhole : Number → Bool
  | nan => false
  | signed _ m => m.isWhole

/-- A zero of either sign. -/
def isZero (n : Number) : Bool :=
  n.eq zero

@[simp]
theorem eq_nan_left (b : Number) : nan.eq b = false := by
  simp [eq, key?]

@[simp]
theorem eq_nan_right (a : Number) : a.eq nan = false := by
  cases a <;> simp [eq, key?]

@[simp]
theorem le_nan_left (b : Number) : nan.le b = false := by
  simp [le, key?]

@[simp]
theorem le_nan_right (a : Number) : a.le nan = false := by
  cases a <;> simp [le, key?]

theorem eq_iff_key? {a b : Number} : a.eq b = true ↔ ∃ k, a.key? = some k ∧ b.key? = some k := by
  unfold eq
  cases a.key? <;> cases b.key? <;> simp [eq_comm]

theorem eq_comm (a b : Number) : a.eq b = b.eq a := by
  rw [Bool.eq_iff_iff, eq_iff_key?, eq_iff_key?]
  simp [and_comm]

end Number

end Rulebook
