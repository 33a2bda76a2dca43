import Rulebook.Json.Number
import Rulebook.Proofs.Json.Document
import Rulebook.Proofs.Number.Magnitude
import Rulebook.Proofs.Number.Shortest

/-!
# Numbers of JSON text

A whole number that fits the significand is read without leaving out a digit and without
any power of ten, so it is read as the number nearest to it.  The document of a number has
a text, whatever the number is.
-/

namespace Rulebook

/-! ## Whole numbers -/

namespace Magnitude

/-- The power of ten zero is one, which is not rounded. -/
theorem mul_powerOfTen_zero (m : Magnitude) : m.mul (powerOfTen 0) = m :=
  m.mul_one_units (by decide +kernel)

theorem scaleBy?_zero {m : Magnitude} (finite : m.isFinite = true) : m.scaleBy? 0 = some m := by
  unfold scaleBy?
  rw [if_pos (Int.le_refl 0)]
  split
  · next isZero => rw [isZero]
  · rw [if_pos (by decide)]
    simp only [Int.toNat_zero, mul_powerOfTen_zero]
    rw [if_pos finite]

end Magnitude

namespace Numeral

theorem le_ofDigitChars (digits : List Char) (significand : Nat) :
    significand ≤ Nat.ofDigitChars 10 digits significand := by
  induction digits generalizing significand with
  | nil => exact Nat.le_refl _
  | cons c digits ih =>
      rw [Nat.ofDigitChars_cons]
      exact Nat.le_trans (by omega) (ih _)

/-- Digits whose value fits are all taken. -/
theorem gather_eq (digits : List Char) (significand : Nat)
    (fits : Nat.ofDigitChars 10 digits significand < 2 ^ 64) :
    gather significand digits = (Nat.ofDigitChars 10 digits significand, digits.length) := by
  induction digits generalizing significand with
  | nil => rfl
  | cons c digits ih =>
      rw [Nat.ofDigitChars_cons] at fits ⊢
      have next : significand * 10 + (c.toNat - '0'.toNat) < Nat.pow 2 64 := by
        have grows := le_ofDigitChars digits (10 * significand + (c.toNat - '0'.toNat))
        exact Nat.lt_of_le_of_lt (by omega) fits
      rw [Nat.mul_comm 10] at *
      simp only [gather]
      rw [if_pos next, ih _ fits]
      rfl

/-- A whole number of 64 bits is read as the number nearest to it. -/
theorem scaled?_ofNat {n : Nat} (small : n < 2 ^ 64) :
    (ofNat n).scaled? = some (Number.ofNat n) := by
  have value : Nat.ofDigitChars 10 (decimalDigits n) 0 = n := digitsValue_decimalDigits n
  have taken := gather_eq (decimalDigits n) 0 (by rw [value]; exact small)
  rw [value] at taken
  simp only [scaled?, ofNat, taken, gather, Nat.sub_self]
  change (Magnitude.scaleBy? (.ofNat n) 0).map _ = _
  rw [Magnitude.scaleBy?_zero (Magnitude.isFinite_ofNat small)]
  rfl

end Numeral

/-! ## The document of a number -/

namespace Number

theorem isFinite_signed (negative : Bool) {m : Magnitude} :
    (signed negative m).isFinite = true ↔ m ≠ .infinity := by
  have top : m = .infinity ↔ m.rank = infinityRank :=
    ⟨fun same => congrArg Magnitude.rank same, fun same => Magnitude.ext_rank same⟩
  rw [isFinite, Magnitude.isFinite, decide_eq_true_iff, ne_eq, top]
  have bound := m.rank_le
  omega

theorem writable_toJson (n : Number) : n.toJson.Writable := by
  cases n with
  | nan => trivial
  | signed negative m =>
      rw [toJson]
      split
      · trivial
      · have areDigits : ∀ c ∈ jsonLayout.emptyFraction, c.isDigit = true := by
          simp [jsonLayout]
        exact Layout.proper_numeral negative areDigits m

theorem nesting_toJson (n : Number) : n.toJson.nesting = 0 := by
  cases n with
  | nan => rfl
  | signed negative m =>
      rw [toJson]
      split <;> rfl

/-- Numbers without digits are written as `null`. -/
theorem toJson_of_not_isFinite {n : Number} (unbounded : ¬n.isFinite = true) :
    n.toJson = .null := by
  cases n with
  | nan => rfl
  | signed negative m => exact if_pos (of_not_not ((isFinite_signed negative).not.mp unbounded))

end Number

end Rulebook
