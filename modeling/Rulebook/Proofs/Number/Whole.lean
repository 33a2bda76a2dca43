import Rulebook.Proofs.Number.Text

/-!
# Whole numbers

Magnitudes are ordered as their units are.  Every whole number up to `2 ^ 53` is a magnitude
itself, so that whole numbers up to there compare as they do before rounding, and a text of
digits alone stands for the number that its digits are.
-/

namespace Rulebook

namespace Magnitude

/-! ## The order of units -/

section

variable {m : Magnitude} {steps : Nat} (unitsEq : m.units = steps * 2 ^ (m.units.log2 - 52))

include unitsEq

/-- More steps than this would be wider ones. -/
theorem steps_lt : steps < 2 * ranksPerWidth := by
  have width : 2 * ranksPerWidth = 2 ^ 53 := rfl
  have bound : steps * 2 ^ (m.units.log2 - 52) < 2 ^ 53 * 2 ^ (m.units.log2 - 52) := by
    rw [← unitsEq, ← Nat.pow_add]
    exact Nat.lt_of_lt_of_le Nat.lt_log2_self (Nat.pow_le_pow_right (by decide) (by omega))
  rw [width]
  exact Nat.lt_of_mul_lt_mul_right bound

/-- Fewer steps than this would be narrower ones, if there are any. -/
theorem le_steps (wide : 52 < m.units.log2) : ranksPerWidth ≤ steps := by
  have width : ranksPerWidth = 2 ^ 52 := rfl
  have positive : m.units ≠ 0 := by
    intro isZero
    simp [isZero] at wide
  have bound : 2 ^ 52 * 2 ^ (m.units.log2 - 52) ≤ steps * 2 ^ (m.units.log2 - 52) := by
    rw [← unitsEq, ← Nat.pow_add, Nat.add_sub_cancel' (Nat.le_of_lt wide)]
    exact Nat.log2_self_le positive
  rw [width]
  exact Nat.le_of_mul_le_mul_right bound (Nat.two_pow_pos _)

end

theorem log2_le_log2 {a b : Nat} (le : a ≤ b) : a.log2 ≤ b.log2 := by
  by_cases isZero : a = 0
  · simp [isZero]
  · exact (Nat.le_log2 (by omega)).mpr (Nat.le_trans (Nat.log2_self_le isZero) le)

theorem rank_le_of_units_le {a b : Magnitude} (le : a.units ≤ b.units) : a.rank ≤ b.rank := by
  obtain ⟨steps, unitsEq, rankEq⟩ := a.exists_steps
  obtain ⟨steps', unitsEq', rankEq'⟩ := b.exists_steps
  have widths : a.units.log2 - 52 ≤ b.units.log2 - 52 :=
    Nat.sub_le_sub_right (log2_le_log2 le) 52
  rcases Nat.eq_or_lt_of_le widths with same | wider
  · rw [unitsEq, unitsEq', same] at le
    have fewer := Nat.le_of_mul_le_mul_right le (Nat.two_pow_pos _)
    rw [← rankEq, ← rankEq', same]
    exact Nat.add_le_add_left fewer _
  · -- Steps of the next width start where two widths of these would end.
    have few := steps_lt unitsEq
    have many := le_steps unitsEq' (by omega)
    have apart := Nat.mul_le_mul_right ranksPerWidth wider
    rw [Nat.succ_mul] at apart
    omega

/-- Magnitudes are in the order of their units. -/
theorem rank_le_rank_iff {a b : Magnitude} : a.rank ≤ b.rank ↔ a.units ≤ b.units := by
  constructor
  · intro le
    by_contra above
    have same := ext_rank (Nat.le_antisymm le (rank_le_of_units_le (Nat.le_of_not_le above)))
    exact above (Nat.le_of_eq (congrArg units same))
  · exact rank_le_of_units_le

/-! ## Exact whole numbers -/

/-- So many steps of one width are a magnitude. -/
theorem exists_units_eq {steps width : Nat} (many : ranksPerWidth ≤ steps)
    (few : steps < 2 * ranksPerWidth) (inRange : width < 2046) :
    ∃ m : Magnitude, m.units = steps * 2 ^ width := by
  unfold ranksPerWidth at many few
  have rank_le : width * ranksPerWidth + steps ≤ infinityRank := by
    unfold ranksPerWidth infinityRank
    omega
  have notNarrow : ¬width * ranksPerWidth + steps < ranksPerWidth := by
    unfold ranksPerWidth
    omega
  have place : (width * ranksPerWidth + steps) % ranksPerWidth + ranksPerWidth = steps := by
    unfold ranksPerWidth
    omega
  have row : (width * ranksPerWidth + steps) / ranksPerWidth - 1 = width := by
    unfold ranksPerWidth
    omega
  refine ⟨⟨width * ranksPerWidth + steps, rank_le⟩, ?_⟩
  rw [units, if_neg notNarrow, place, row]
  rfl

/-- Numbers of at most 53 bits are steps once enough zeros stand behind their bits. -/
theorem exists_places {n : Nat} (positive : 0 < n) (fits : n < 2 ^ 53) :
    ∃ places ≤ 52, ranksPerWidth ≤ n * 2 ^ places ∧ n * 2 ^ places < 2 * ranksPerWidth := by
  have log : n.log2 < 53 := (Nat.log2_lt (Nat.ne_of_gt positive)).mpr fits
  refine ⟨52 - n.log2, Nat.sub_le _ _, ?_, ?_⟩
  · calc
      ranksPerWidth = 2 ^ n.log2 * 2 ^ (52 - n.log2) := by
        rw [← Nat.pow_add, Nat.add_sub_cancel' (by omega), ranksPerWidth]
      _ ≤ n * 2 ^ (52 - n.log2) :=
        Nat.mul_le_mul_right _ (Nat.log2_self_le (Nat.ne_of_gt positive))
  · calc
      n * 2 ^ (52 - n.log2) < 2 ^ (n.log2 + 1) * 2 ^ (52 - n.log2) :=
        Nat.mul_lt_mul_of_pos_right Nat.lt_log2_self (Nat.two_pow_pos _)
      _ = 2 * ranksPerWidth := by
        rw [← Nat.pow_add, Nat.add_right_comm, Nat.add_sub_cancel' (by omega), ranksPerWidth]

/-- A number up to `2 ^ 53` with zeros behind its bits is the number of units of a magnitude. -/
theorem exists_units_eq_mul {n bits : Nat} (small : n ≤ 2 ^ 53) (above : 52 ≤ bits)
    (inRange : bits < 2045) : ∃ m : Magnitude, m.units = n * 2 ^ bits := by
  rcases Nat.eq_zero_or_pos n with rfl | positive
  · exact ⟨zero, by rw [units_zero, Nat.zero_mul]⟩
  rcases Nat.eq_or_lt_of_le small with rfl | fits
  · obtain ⟨m, unitsEq⟩ :=
      @exists_units_eq (2 ^ 52) (bits + 1) (by decide) (by decide) (by omega)
    have shifted : 2 ^ 52 * 2 ^ (bits + 1) = 2 ^ 53 * 2 ^ bits := by
      rw [← Nat.pow_add, ← Nat.pow_add, Nat.add_comm bits, ← Nat.add_assoc]
    exact ⟨m, unitsEq.trans shifted⟩
  · obtain ⟨places, few, many, fewer⟩ := exists_places positive fits
    obtain ⟨m, unitsEq⟩ := exists_units_eq many fewer (show bits - places < 2046 by omega)
    refine ⟨m, ?_⟩
    rw [unitsEq, Nat.mul_assoc, ← Nat.pow_add, Nat.add_sub_cancel' (Nat.le_trans few above)]

theorem unitsPerOne_eq_two_pow : unitsPerOne = 2 ^ 1074 := by
  have power : unitsPerOne = 2 ^ unitsPerOne.log2 := by decide +kernel
  rwa [log2_unitsPerOne] at power

/-- Whole numbers up to `2 ^ 53` need no rounding. -/
theorem units_ofNat {n : Nat} (small : n ≤ 2 ^ 53) : (ofNat n).units = n * unitsPerOne := by
  obtain ⟨m, unitsEq⟩ := @exists_units_eq_mul n 1074 small (by decide) (by decide)
  rw [← unitsPerOne_eq_two_pow] at unitsEq
  have rounded : ofNat n = m := by
    rw [ofNat, ← unitsEq, ← Nat.mul_one m.units, m.nearest_units Nat.one_pos]
  rw [rounded, unitsEq]

end Magnitude

namespace Number

/-! ## Comparing whole numbers -/

theorem eq_eq_le_and_le (a b : Number) : a.eq b = (b.le a && a.le b) := by
  unfold eq le
  cases a.key? with
  | none => cases b.key? <;> rfl
  | some x =>
      cases b.key? with
      | none => rfl
      | some y =>
          rw [Bool.eq_iff_iff, Bool.and_eq_true, decide_eq_true_iff, decide_eq_true_iff,
            decide_eq_true_iff]
          omega

theorem le_ofNat_iff {m n : Nat} (small : m ≤ 2 ^ 53) (small' : n ≤ 2 ^ 53) :
    (ofNat m).le (ofNat n) = true ↔ m ≤ n := by
  have positive := Magnitude.unitsPerOne_pos
  rw [← Nat.mul_le_mul_right_iff positive, ← Magnitude.units_ofNat small,
    ← Magnitude.units_ofNat small', ← Magnitude.rank_le_rank_iff, ← Int.ofNat_le]
  exact decide_eq_true_iff

end Number

/-! ## Digits alone -/

/-- The digits of a number, with or without zeros in front. -/
structure DigitsOf (n : Nat) (s : List Char) : Prop where
  ne_nil : s ≠ []
  isDigit : ∀ c ∈ s, c.isDigit = true
  digitsValue_eq : digitsValue s = n

theorem digitsOf_decimalDigits (n : Nat) : DigitsOf n (decimalDigits n) where
  ne_nil := decimalDigits_ne_nil n
  isDigit _ := isDigit_of_mem_decimalDigits
  digitsValue_eq := digitsValue_decimalDigits n

namespace DigitsOf

variable {n : Nat} {s : List Char} (digits : DigitsOf n s)

include digits

/-- Digits alone are read as the number nearest to theirs. -/
theorem ofChars? : Number.ofChars? s = some (Number.ofNat n) := by
  have taken := @takeWhile_isDigit_append s [] digits.isDigit nofun
  have dropped := @dropWhile_isDigit_append s [] digits.isDigit nofun
  rw [List.append_nil] at taken dropped
  have value : Numeral.nearest ⟨false, s, [], 0⟩ = .ofNat n := by
    rw [← digits.digitsValue_eq]
    simp [Numeral.nearest, Numeral.digits, Numeral.scale, Magnitude.ofDecimal_eq_nearest,
      Number.ofNat, Magnitude.ofNat]
  obtain ⟨c, rest, rfl⟩ := List.exists_cons_of_ne_nil digits.ne_nil
  have isDigit := digits.isDigit c List.mem_cons_self
  simp only [Number.ofChars?, readSign_of_isDigit isDigit, Number.ofWord?_of_isDigit false isDigit,
    Number.ofDigits?, taken, dropped, readFraction, readExponent?, List.isEmpty_cons,
    Bool.false_and, Bool.false_eq_true, if_false, value]

/-- So they are as the text of an argument. -/
theorem ofArgument : Number.ofArgument s = .ofNat n :=
  Number.ofArgument_of_ofChars? digits.ne_nil
    (fun c isMember => isBlank_of_isDigit (digits.isDigit c isMember)) digits.ofChars?

end DigitsOf

end Rulebook
