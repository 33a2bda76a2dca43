import Rulebook.Proofs.Number.Magnitude

/-!
# Decimals rounded to magnitudes

Exponents that are settled without computing the power come out as if it had been computed:
`ofDecimal` is one rounding of one quotient.  So zeros at the end of the digits can be told by
the exponent as well, which is all the freedom that a decimal notation has.
-/

namespace Rulebook.Magnitude

/-! ## Quotients -/

theorem halfEven_mul_mul (num den : Nat) {factor : Nat} (positive : 0 < factor) :
    halfEven (num * factor) (den * factor) = halfEven num den := by
  have below : ∀ a b, 2 * (a * factor) < b * factor ↔ 2 * a < b := fun a b => by
    rw [← Nat.mul_assoc, Nat.mul_lt_mul_right positive]
  have above : ∀ a b, b * factor < 2 * (a * factor) ↔ b < 2 * a := fun a b => by
    rw [← Nat.mul_assoc, Nat.mul_lt_mul_right positive]
  simp only [halfEven, Nat.mul_div_mul_right _ _ positive, Nat.mul_mod_mul_right, below, above]

/-- A quotient is rounded, not the two numbers that make it. -/
theorem nearest_mul_mul (num den : Nat) {factor : Nat} (positive : 0 < factor) :
    nearest (num * factor) (den * factor) = nearest num den := by
  simp only [nearest, Nat.mul_div_mul_right _ _ positive, Nat.mul_right_comm den factor,
    halfEven_mul_mul _ _ positive]

/-- Less than half a unit is nothing. -/
theorem nearest_eq_zero {num den : Nat} (small : 2 * num < den) : nearest num den = zero := by
  have whole : num / den = 0 := Nat.div_eq_of_lt (by omega)
  have remainder : num % den = num := Nat.mod_eq_of_lt (by omega)
  apply ext_rank
  simp only [nearest, halfEven, whole]
  simp [whole, remainder, small, zero]

/-- No step is as wide as these quotients would need. -/
theorem nearest_eq_infinity {num den : Nat} (large : 2099 ≤ (num / den).log2) :
    nearest num den = infinity := by
  have wide : 2047 * ranksPerWidth ≤ ((num / den).log2 - 52) * ranksPerWidth :=
    Nat.mul_le_mul_right _ (by omega)
  have last : infinityRank = 2047 * ranksPerWidth := rfl
  apply ext_rank
  simp only [nearest, infinity]
  omega

/-! ## Decimals -/

theorem two_pow_le_ten_pow (exponent : Nat) : 2 ^ (3 * exponent) ≤ 10 ^ exponent := by
  rw [Nat.pow_mul]
  exact Nat.pow_le_pow_left (by decide) exponent

/-- Digits before more than four hundred zeros are beyond all finite magnitudes. -/
theorem nearest_eq_infinity_of_lt {digits exponent : Nat} (notZero : digits ≠ 0)
    (large : 400 < exponent) : nearest (digits * 10 ^ exponent * unitsPerOne) 1 = infinity := by
  have units := log2_unitsPerOne
  have atLeast : 2 ^ (3 * exponent + unitsPerOne.log2) ≤ digits * 10 ^ exponent * unitsPerOne := by
    rw [Nat.pow_add]
    apply Nat.mul_le_mul _ (Nat.log2_self_le (Nat.ne_of_gt unitsPerOne_pos))
    exact Nat.le_trans (two_pow_le_ten_pow exponent)
      (Nat.le_mul_of_pos_left _ (Nat.pos_of_ne_zero notZero))
  have positive := Nat.ne_of_gt (Nat.lt_of_lt_of_le (Nat.two_pow_pos _) atLeast)
  apply nearest_eq_infinity
  rw [Nat.div_one]
  exact Nat.le_trans (by omega) ((Nat.le_log2 positive).mpr atLeast)

/-- Digits far enough behind the point are less than half a unit. -/
theorem nearest_eq_zero_of_lt {digits places : Nat} (small : digits.log2 + 1100 < 3 * places) :
    nearest (digits * unitsPerOne) (10 ^ places) = zero := by
  have units := log2_unitsPerOne
  apply nearest_eq_zero
  calc
    2 * (digits * unitsPerOne) < 2 * (2 ^ (digits.log2 + 1) * 2 ^ (unitsPerOne.log2 + 1)) :=
      Nat.mul_lt_mul_of_pos_left (Nat.mul_lt_mul'' Nat.lt_log2_self Nat.lt_log2_self) (by decide)
    _ = 2 ^ (digits.log2 + 1 + (unitsPerOne.log2 + 1) + 1) := by
      rw [← Nat.pow_add, Nat.pow_succ 2, Nat.mul_comm]
    _ ≤ 2 ^ (3 * places) := Nat.pow_le_pow_right (by decide) (by omega)
    _ ≤ 10 ^ places := two_pow_le_ten_pow places

/-- A decimal is one quotient rounded once, with the power of ten above or below the line. -/
theorem ofDecimal_eq_nearest (digits : Nat) (exponent : Int) :
    ofDecimal digits exponent =
      nearest (digits * 10 ^ exponent.toNat * unitsPerOne) (10 ^ (-exponent).toNat) := by
  by_cases isZero : digits = 0
  · rw [isZero, ofDecimal_zero, Nat.zero_mul, Nat.zero_mul,
      nearest_eq_zero (Nat.pow_pos (by decide))]
  · rw [ofDecimal, if_neg isZero]
    by_cases above : 0 ≤ exponent
    · have den : (-exponent).toNat = 0 := by omega
      rw [den, Nat.pow_zero]
      split
      · next large => exact (nearest_eq_infinity_of_lt isZero (by omega)).symm
      · rw [if_neg (by omega)]
        rfl
    · have num : exponent.toNat = 0 := by omega
      rw [num, Nat.pow_zero, Nat.mul_one, if_neg (by omega)]
      split
      · next small => exact (nearest_eq_zero_of_lt (by omega)).symm
      · rfl

/-- Zeros at the end are a matter of the exponent. -/
theorem ofDecimal_mul_pow (digits zeros : Nat) (exponent : Int) :
    ofDecimal (digits * 10 ^ zeros) exponent = ofDecimal digits (exponent + zeros) := by
  rw [ofDecimal_eq_nearest, ofDecimal_eq_nearest]
  obtain ⟨common, above, below⟩ : ∃ common,
      zeros + exponent.toNat = (exponent + zeros).toNat + common ∧
        (-exponent).toNat = (-(exponent + zeros)).toNat + common :=
    ⟨zeros + exponent.toNat - (exponent + zeros).toNat, by omega, by omega⟩
  rw [below, Nat.pow_add 10 _ common, Nat.mul_assoc digits, ← Nat.pow_add, above, Nat.pow_add,
    ← Nat.mul_assoc, Nat.mul_right_comm, nearest_mul_mul _ _ (Nat.pow_pos (by decide))]

end Rulebook.Magnitude
