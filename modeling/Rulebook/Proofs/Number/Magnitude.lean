import Mathlib.Tactic.Ring
import Rulebook.Number.Magnitude

/-!
# Rounding to magnitudes

A magnitude is a whole number of steps, and the width of its steps is the one that rounding
chooses for its units.  So rounding leaves every magnitude as it is, and a quotient cannot
get far past the ranks of its width.
-/

namespace Rulebook.Magnitude

/-! ## Quotients rounded to a whole number -/

theorem halfEven_mul (whole : Nat) {den : Nat} (positive : 0 < den) :
    halfEven (whole * den) den = whole := by
  simp [halfEven, positive]

theorem halfEven_le (num den : Nat) : halfEven num den ≤ num / den + 1 := by
  unfold halfEven
  simp only
  split
  · exact Nat.le_succ _
  · split <;> omega

/-! ## Units as steps -/

/-- The units of a magnitude are steps of the width that is chosen for them, and its rank
counts these steps after all narrower ones. -/
theorem exists_steps (m : Magnitude) :
    ∃ steps, m.units = steps * 2 ^ (m.units.log2 - 52) ∧
      (m.units.log2 - 52) * ranksPerWidth + steps = m.rank := by
  have width : ranksPerWidth = 2 ^ 52 := rfl
  by_cases narrow : m.rank < ranksPerWidth
  · have units : m.units = m.rank := if_pos narrow
    have small : m.rank.log2 - 52 = 0 := by
      rw [Nat.sub_eq_zero_iff_le]
      by_cases isZero : m.rank = 0
      · simp [isZero]
      · exact Nat.le_of_lt ((Nat.log2_lt isZero).mpr narrow)
    exact ⟨m.rank, by simp [units, small]⟩
  · have units : m.units =
        (m.rank % ranksPerWidth + ranksPerWidth) * 2 ^ (m.rank / ranksPerWidth - 1) :=
      if_neg narrow
    have within := Nat.mod_lt m.rank (by decide : 0 < ranksPerWidth)
    have parts := Nat.div_add_mod m.rank ranksPerWidth
    have atLeast : 1 ≤ m.rank / ranksPerWidth :=
      (Nat.one_le_div_iff (by decide)).mpr (Nat.le_of_not_lt narrow)
    generalize m.rank / ranksPerWidth = widths at *
    generalize m.rank % ranksPerWidth = further at *
    have log : m.units.log2 - 52 = widths - 1 := by
      have positive : m.units ≠ 0 := by
        rw [units]
        exact Nat.ne_of_gt (Nat.mul_pos (by omega) (Nat.two_pow_pos _))
      have exact : m.units.log2 = 52 + (widths - 1) := by
        rw [Nat.log2_eq_iff positive, units]
        constructor
        · rw [Nat.pow_add, ← width]
          exact Nat.mul_le_mul_right _ (Nat.le_add_left _ _)
        · rw [Nat.add_right_comm, Nat.pow_add]
          exact Nat.mul_lt_mul_of_pos_right (by omega) (Nat.two_pow_pos _)
      omega
    refine ⟨further + ranksPerWidth, ?_, ?_⟩
    · rw [log]
      exact units
    · rw [log, Nat.sub_mul, ← parts, Nat.mul_comm]
      have once : ranksPerWidth ≤ ranksPerWidth * widths := Nat.le_mul_of_pos_right _ atLeast
      omega

/-- Rounding leaves a magnitude as it is. -/
theorem nearest_units (m : Magnitude) {den : Nat} (positive : 0 < den) :
    nearest (m.units * den) den = m := by
  obtain ⟨steps, unitsEq, rankEq⟩ := m.exists_steps
  have whole : halfEven (m.units * den) (den * Nat.pow 2 (m.units.log2 - 52)) = steps := by
    have product : m.units * den = steps * (den * 2 ^ (m.units.log2 - 52)) := by
      calc m.units * den = steps * 2 ^ (m.units.log2 - 52) * den := by rw [← unitsEq]
        _ = steps * (den * 2 ^ (m.units.log2 - 52)) := by ring
    rw [product]
    exact halfEven_mul steps (Nat.mul_pos positive (Nat.two_pow_pos _))
  apply ext_rank
  simp only [nearest]
  rw [Nat.mul_div_cancel _ positive, whole, rankEq]
  exact Nat.min_eq_left m.rank_le

theorem unitsPerOne_pos : 0 < unitsPerOne := by
  decide +kernel

theorem log2_unitsPerOne : unitsPerOne.log2 = 1074 := by
  decide +kernel

/-- A product with one is not rounded. -/
theorem mul_one_units (m : Magnitude) {one : Magnitude} (isOne : one.units = unitsPerOne) :
    m.mul one = m := by
  rw [mul, isOne]
  exact m.nearest_units unitsPerOne_pos

/-! ## Whole numbers -/

/-- Of the widest steps there are at most as many as two widths have ranks. -/
theorem rank_nearest_le (num den : Nat) :
    (nearest num den).rank ≤ ((num / den).log2 - 52 + 2) * ranksPerWidth := by
  have width : ranksPerWidth = 2 ^ 52 := rfl
  have fits : num / den / 2 ^ ((num / den).log2 - 52) < 2 ^ 53 := by
    rw [Nat.div_lt_iff_lt_mul (Nat.two_pow_pos _), ← Nat.pow_add]
    exact Nat.lt_of_lt_of_le Nat.lt_log2_self (Nat.pow_le_pow_right (by decide) (by omega))
  have steps := halfEven_le num (den * 2 ^ ((num / den).log2 - 52))
  rw [← Nat.div_div_eq_div_mul] at steps
  refine Nat.le_trans (Nat.min_le_left _ _) ?_
  change _ * _ + halfEven num (den * 2 ^ ((num / den).log2 - 52)) ≤ _
  rw [Nat.add_mul, width]
  omega

theorem log2_mul_le (a b : Nat) : (a * b).log2 ≤ a.log2 + b.log2 + 1 := by
  by_cases isZero : a * b = 0
  · simp [isZero]
  · have bound : a * b < 2 ^ (a.log2 + 1 + (b.log2 + 1)) := by
      rw [Nat.pow_add]
      exact Nat.mul_lt_mul'' Nat.lt_log2_self Nat.lt_log2_self
    have log := (Nat.log2_lt isZero).mpr bound
    omega

/-- Whole numbers of 64 bits are far from the largest magnitude. -/
theorem isFinite_ofNat {n : Nat} (small : n < 2 ^ 64) : (ofNat n).isFinite = true := by
  have bits : n.log2 < 64 := by
    by_cases isZero : n = 0
    · simp [isZero]
    · exact (Nat.log2_lt isZero).mpr small
  have log := log2_mul_le n unitsPerOne
  have unit := log2_unitsPerOne
  have rank := rank_nearest_le (n * unitsPerOne) 1
  rw [Nat.div_one] at rank
  have bound : ((n * unitsPerOne).log2 - 52 + 2) * ranksPerWidth ≤ 1088 * ranksPerWidth :=
    Nat.mul_le_mul_right _ (by omega)
  have last : 1088 * ranksPerWidth < infinityRank := by decide
  rw [isFinite, decide_eq_true_iff]
  exact Nat.lt_of_le_of_lt (Nat.le_trans rank bound) last

end Rulebook.Magnitude
