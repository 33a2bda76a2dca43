import Mathlib.Algebra.Group.Nat.Defs
import Mathlib.Data.List.Induction
import Rulebook.Proofs.Json.Numeral

/-!
# Digits in a fixed width

A number below a power of ten has exactly one text of as many digits as the power has zeros, and
the value of such a text is always below that power.
-/

namespace Rulebook

/-- So many digits and nothing else. -/
structure IsDigits (width : Nat) (s : List Char) : Prop where
  length_eq : s.length = width
  isDigit : ∀ c ∈ s, c.isDigit = true

instance (width : Nat) (s : List Char) : Decidable (IsDigits width s) :=
  decidable_of_iff (s.length = width ∧ s.all Char.isDigit = true)
    ⟨fun ⟨length, all⟩ => ⟨length, List.all_eq_true.mp all⟩,
      fun ⟨length, areDigits⟩ => ⟨length, List.all_eq_true.mpr areDigits⟩⟩

theorem digitsValue_append (front back : List Char) :
    digitsValue (front ++ back) = 10 ^ back.length * digitsValue front + digitsValue back := by
  rw [digitsValue, Nat.ofDigitChars_append, Nat.ofDigitChars_eq_ofDigitChars_zero]
  rfl

theorem digitsValue_concat (s : List Char) (c : Char) :
    digitsValue (s ++ [c]) = 10 * digitsValue s + (c.toNat - '0'.toNat) := by
  rw [digitsValue_append]
  simp [digitsValue, Nat.ofDigitChars_cons]

/-- Zeros in front do not count. -/
theorem digitsValue_replicate_append (zeros : Nat) (s : List Char) :
    digitsValue (List.replicate zeros '0' ++ s) = digitsValue s := by
  rw [digitsValue_append, digitsValue, Nat.ofDigitChars_replicate_zero]
  simp

/-- Zeros at the end are factors of ten. -/
theorem digitsValue_append_zeros (s : List Char) (zeros : Nat) :
    digitsValue (s ++ List.replicate zeros '0') = digitsValue s * 10 ^ zeros := by
  have value : digitsValue (List.replicate zeros '0') = 0 := by
    rw [digitsValue, Nat.ofDigitChars_replicate_zero, Nat.mul_zero]
  rw [digitsValue_append, value, List.length_replicate, Nat.add_zero, Nat.mul_comm]

namespace IsDigits

variable {width : Nat} {s t : List Char}

theorem digitsValue_lt (digits : IsDigits width s) : digitsValue s < 10 ^ width := by
  obtain ⟨rfl, areDigits⟩ := digits
  induction s using List.reverseRecOn with
  | nil => decide
  | append_singleton s c ih =>
      rw [List.forall_mem_append, List.forall_mem_singleton, Char.isDigit_iff_toNat] at areDigits
      have front := ih areDigits.1
      have last := areDigits.2.2
      have nine : '9'.toNat = '0'.toNat + 9 := rfl
      rw [digitsValue_concat, List.length_append, List.length_singleton, Nat.pow_succ]
      omega

/-- Digits are known from their value if it is known how many they are. -/
theorem eq_of_digitsValue_eq (digits : IsDigits width s) (digits' : IsDigits width t)
    (same : digitsValue s = digitsValue t) : s = t := by
  obtain ⟨rfl, areDigits⟩ := digits
  obtain ⟨sameLength, areDigits'⟩ := digits'
  induction s using List.reverseRecOn generalizing t with
  | nil => exact (List.eq_nil_of_length_eq_zero sameLength).symm
  | append_singleton s c ih =>
      rcases List.eq_nil_or_concat' t with rfl | ⟨t, d, rfl⟩
      · simp at sameLength
      · rw [List.forall_mem_append, List.forall_mem_singleton, Char.isDigit_iff_toNat]
          at areDigits areDigits'
        have nine : '9'.toNat = '0'.toNat + 9 := rfl
        rw [digitsValue_concat, digitsValue_concat] at same
        obtain rfl : c = d := Char.toNat_inj.mp (by omega)
        have front : digitsValue s = digitsValue t := by omega
        rw [ih front areDigits.1 (by simpa using sameLength) areDigits'.1]

end IsDigits

end Rulebook
