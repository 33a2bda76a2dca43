import Mathlib.Data.List.DropRight
import Rulebook.Number.Shortest
import Rulebook.Proofs.Json.Numeral

/-!
# Numerals that are written

Whatever a layout does with the point, the digits of a number other than zero start with
another digit than zero, so that no needless zero stands in front of them.
-/

namespace Rulebook

namespace Magnitude

theorem units_ne_zero {m : Magnitude} (notZero : m ≠ zero) : m.units ≠ 0 := by
  unfold units
  split
  · exact fun rank => notZero (ext_rank rank)
  · have width : 0 < ranksPerWidth := by decide
    exact Nat.ne_of_gt (Nat.mul_pos (by omega) (Nat.two_pow_pos _))

/-- A neighbour is chosen only if it reads back. -/
theorem nearest_of_neighbour?_eq {tieUp : Bool} {m : Magnitude} {exponent : Int} {s : Scaled}
    (chosen : m.neighbour? tieUp exponent = some s) : s.nearest = m := by
  unfold neighbour? at chosen
  simp only at chosen
  split at chosen
  · next low high =>
      rw [decide_eq_true_iff] at low high
      split at chosen <;> cases chosen <;> assumption
  · next low _ =>
      cases chosen
      exact decide_eq_true_iff.mp low
  · next _ high =>
      cases chosen
      exact decide_eq_true_iff.mp high
  · cases chosen

/-- Only zero is written with the digit zero alone. -/
theorem digits_shortest_pos {m : Magnitude} (notZero : m ≠ zero) (tieUp : Bool) :
    0 < (m.shortest tieUp).digits := by
  rw [Nat.pos_iff_ne_zero]
  unfold shortest
  simp only
  split
  · next s chosen =>
      obtain ⟨count, _, chosen⟩ := List.exists_of_findSome?_eq_some chosen
      intro noDigits
      have reads := nearest_of_neighbour?_eq chosen
      rw [Scaled.nearest, noDigits, ofDecimal_zero] at reads
      exact notZero reads.symm
  · exact Nat.mul_ne_zero (units_ne_zero notZero) (by decide +kernel)

end Magnitude

/-! ## Digits without a zero in front -/

/-- Digits of which the first is not zero. -/
structure Leading (digits : List Char) : Prop where
  ne_nil : digits ≠ []
  isDigit : ∀ c ∈ digits, c.isDigit = true
  head?_ne : digits.head? ≠ some '0'

theorem leading_decimalDigits {n : Nat} (positive : 0 < n) : Leading (decimalDigits n) where
  ne_nil := decimalDigits_ne_nil n
  isDigit _ := isDigit_of_mem_decimalDigits
  head?_ne := head?_decimalDigits_ne positive

namespace Leading

variable {digits rest : List Char} (leading : Leading digits)

include leading

theorem append (areDigits : ∀ c ∈ rest, c.isDigit = true) : Leading (digits ++ rest) where
  ne_nil := List.append_ne_nil_of_left_ne_nil leading.ne_nil rest
  isDigit := List.forall_mem_append.mpr ⟨leading.isDigit, areDigits⟩
  head?_ne := by
    rw [List.head?_append_of_ne_nil _ leading.ne_nil]
    exact leading.head?_ne

/-- The first digit stays in front when digits are taken from the end. -/
theorem of_prefix {first : List Char} (isPrefix : first <+: digits) (ne_nil : first ≠ []) :
    Leading first where
  ne_nil := ne_nil
  isDigit c isDigit := leading.isDigit c (isPrefix.subset isDigit)
  head?_ne := by
    obtain ⟨rest, rfl⟩ := isPrefix
    have head := leading.head?_ne
    rwa [List.head?_append_of_ne_nil _ ne_nil] at head

theorem take {count : Nat} (positive : count ≠ 0) : Leading (digits.take count) :=
  leading.of_prefix (List.take_prefix count digits) fun empty =>
    (List.take_eq_nil_iff.mp empty).elim positive leading.ne_nil

/-- The first digit is none of the zeros at the end. -/
theorem rdropWhile : Leading (digits.rdropWhile (· == '0')) := by
  refine leading.of_prefix (List.rdropWhile_prefix _ _) fun empty => ?_
  have zeros := List.rdropWhile_eq_nil_iff.mp empty
  obtain ⟨c, cs, rfl⟩ := List.exists_cons_of_ne_nil leading.ne_nil
  have zero : c = '0' := eq_of_beq (zeros c List.mem_cons_self)
  exact leading.head?_ne (congrArg some zero)

theorem proper (negative : Bool) {fraction : List Char}
    (areDigits : ∀ c ∈ fraction, c.isDigit = true) (exponent : Int) :
    Numeral.Proper ⟨negative, digits, fraction, exponent⟩ where
  whole_ne_nil := leading.ne_nil
  isDigit_whole := leading.isDigit
  isDigit_fraction := areDigits
  whole_eq_zero leads := absurd leads leading.head?_ne

end Leading

/-! ## Layouts -/

namespace Layout

variable (negative : Bool)

/-- A single zero before the point. -/
theorem proper_zero {fraction : List Char} (areDigits : ∀ c ∈ fraction, c.isDigit = true) :
    Numeral.Proper ⟨negative, ['0'], fraction, 0⟩ where
  whole_ne_nil := List.cons_ne_nil _ _
  isDigit_whole := List.forall_mem_singleton.mpr (by decide)
  isDigit_fraction := areDigits
  whole_eq_zero _ := rfl

theorem isDigit_of_mem_zeros {count : Nat} :
    ∀ c ∈ List.replicate count '0', c.isDigit = true := by
  intro c isZero
  rw [List.eq_of_mem_replicate isZero]
  decide

section

variable {digits : List Char} (leading : Leading digits) (point : Int)

include leading

theorem proper_scientific : (scientific negative digits point).Proper :=
  (leading.take Nat.one_ne_zero).proper negative
    (fun c later => leading.isDigit c (List.mem_of_mem_drop later)) _

variable {layout : Layout} (areDigits : ∀ c ∈ layout.emptyFraction, c.isDigit = true)

include areDigits

theorem proper_positional : (layout.positional negative digits point).Proper := by
  unfold positional
  split
  · exact proper_zero negative (List.forall_mem_append.mpr ⟨isDigit_of_mem_zeros, leading.isDigit⟩)
  · split
    · exact (leading.take (by omega)).proper negative
        (fun c later => leading.isDigit c (List.mem_of_mem_drop later)) _
    · exact (leading.append isDigit_of_mem_zeros).proper negative areDigits _

end

/-- Every finite magnitude is written as a proper numeral. -/
theorem proper_numeral {layout : Layout}
    (areDigits : ∀ c ∈ layout.emptyFraction, c.isDigit = true) (m : Magnitude) :
    (layout.numeral negative m).Proper := by
  unfold numeral
  split
  · exact proper_zero negative areDigits
  · next notZero =>
      have positive := m.digits_shortest_pos notZero layout.tieUp
      have leading := (leading_decimalDigits positive).rdropWhile
      simp only
      split
      · exact proper_positional negative leading _ areDigits
      · exact proper_scientific negative leading _

end Layout

end Rulebook
