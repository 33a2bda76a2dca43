import Mathlib.Data.List.Basic
import Rulebook.Json.Reader
import Rulebook.Text.Blank

/-!
# Numerals read back

A numeral is proper if its digits are digits and it has no needless zero in front.  The
text of a proper numeral is read as that numeral again, if nothing stands behind it that
would go on with the number.
-/

namespace Rulebook

/-! ## Digits -/

theorem isBlank_of_isDigit {c : Char} (isDigit : c.isDigit = true) : Text.isBlank c = false := by
  obtain ⟨above, below⟩ := Char.isDigit_iff_toNat.mp isDigit
  have zero : '0'.toNat = 48 := rfl
  have nine : '9'.toNat = 57 := rfl
  simp [Text.isBlank]
  omega

theorem toLower_of_isDigit {c : Char} (isDigit : c.isDigit = true) : c.toLower = c := by
  obtain ⟨above, below⟩ := Char.isDigit_iff_toNat.mp isDigit
  unfold Char.toLower
  rw [dif_neg]
  rintro ⟨upper, -⟩
  rw [ge_iff_le, UInt32.le_iff_toNat_le] at upper
  exact absurd (Nat.le_trans upper below) (by decide)

section

variable {digits rest : List Char}

/-- Digits are taken up to the first character that is none. -/
theorem takeWhile_isDigit_append (areDigits : ∀ c ∈ digits, c.isDigit = true)
    (stops : ∀ c ∈ rest.head?, c.isDigit = false) :
    (digits ++ rest).takeWhile Char.isDigit = digits := by
  rw [List.takeWhile_append_of_pos areDigits]
  cases rest with
  | nil => exact List.append_nil digits
  | cons c rest => rw [List.takeWhile_cons_of_neg (by simp [stops c rfl]), List.append_nil]

theorem dropWhile_isDigit_append (areDigits : ∀ c ∈ digits, c.isDigit = true)
    (stops : ∀ c ∈ rest.head?, c.isDigit = false) :
    (digits ++ rest).dropWhile Char.isDigit = rest := by
  rw [List.dropWhile_append_of_pos areDigits]
  cases rest with
  | nil => rfl
  | cons c rest => rw [List.dropWhile_cons_of_neg (by simp [stops c rfl])]

end

theorem isDigit_of_mem_decimalDigits {n : Nat} {c : Char} (isDigit : c ∈ decimalDigits n) :
    c.isDigit = true :=
  Nat.isDigit_of_mem_toDigits (by decide) (by decide) isDigit

theorem decimalDigits_ne_nil (n : Nat) : decimalDigits n ≠ [] :=
  Nat.toDigits_ne_nil

theorem digitsValue_decimalDigits (n : Nat) : digitsValue (decimalDigits n) = n :=
  Nat.ofDigitChars_ten_toDigits

/-- A number other than zero is written without a zero in front. -/
theorem head?_decimalDigits_ne {n : Nat} (positive : 0 < n) :
    (decimalDigits n).head? ≠ some '0' := by
  induction n using Nat.strongRecOn with
  | ind n ih =>
      unfold decimalDigits at ih ⊢
      rw [Nat.toDigits_eq_if (by decide)]
      split
      · next small =>
          have noZero : ∀ m < 10, 0 < m → Nat.digitChar m ≠ '0' := by decide
          rw [List.head?_cons, ne_eq, Option.some.injEq]
          exact noZero n small positive
      · next large =>
          rw [List.head?_append_of_ne_nil _ Nat.toDigits_ne_nil]
          exact ih (n / 10) (by omega) (by omega)

namespace Numeral

/-- Digits that are digits, at least one of them before the point, and no needless zero in
front. -/
structure Proper (n : Numeral) : Prop where
  whole_ne_nil : n.whole ≠ []
  isDigit_whole : ∀ c ∈ n.whole, c.isDigit = true
  isDigit_fraction : ∀ c ∈ n.fraction, c.isDigit = true
  whole_eq_zero : n.whole.head? = some '0' → n.whole = ['0']

/-- A natural number written in full is proper. -/
theorem proper_ofNat (n : Nat) : (ofNat n).Proper where
  whole_ne_nil := decimalDigits_ne_nil n
  isDigit_whole _ := isDigit_of_mem_decimalDigits
  isDigit_fraction := List.forall_mem_nil _
  whole_eq_zero := by
    rcases Nat.eq_zero_or_pos n with rfl | positive
    · exact fun _ => rfl
    · exact fun leads => absurd leads (head?_decimalDigits_ne positive)

/-- What stands behind a number does not go on with it. -/
def Ends (rest : List Char) : Prop :=
  ∀ c ∈ rest.head?, c.isDigit = false ∧ c ≠ '.' ∧ c ≠ 'e' ∧ c ≠ 'E'

theorem ends_nil : Ends [] :=
  nofun

theorem ends_comma (rest : List Char) : Ends (',' :: rest) := by
  rintro c ⟨⟩
  decide

theorem ends_bracket (rest : List Char) : Ends (']' :: rest) := by
  rintro c ⟨⟩
  decide

theorem ends_brace (rest : List Char) : Ends ('\x7d' :: rest) := by
  rintro c ⟨⟩
  decide

section

variable {rest : List Char} (ends : Ends rest)

include ends

/-- The power of ten starts with its own letter, and without one the number ends there. -/
theorem head?_exponentText (exponent : Int) :
    ∀ c ∈ (exponentText exponent ++ rest).head?, c.isDigit = false ∧ c ≠ '.' := by
  unfold exponentText
  split
  · intro c first
    exact ⟨(ends c first).1, (ends c first).2.1⟩
  · rintro c ⟨⟩
    decide

theorem readExponent?_exponentText (exponent : Int) :
    readExponent? (exponentText exponent ++ rest) = some (exponent, rest) := by
  unfold exponentText
  split
  · next isZero =>
      rw [isZero, List.nil_append]
      cases rest with
      | nil => rfl
      | cons c rest =>
          have noLetter : ¬((decide (c = 'e') || decide (c = 'E')) = true) := by
            have further := (ends c rfl).2.2
            simp [further.1, further.2]
          rw [readExponent?, if_neg noLetter]
  · have areDigits : ∀ c ∈ decimalDigits exponent.natAbs, c.isDigit = true :=
      fun _ => isDigit_of_mem_decimalDigits
    have taken := takeWhile_isDigit_append areDigits fun c first => (ends c first).1
    have dropped := dropWhile_isDigit_append areDigits fun c first => (ends c first).1
    have someDigit : (decimalDigits exponent.natAbs).isEmpty = false :=
      List.isEmpty_eq_false_iff.mpr (decimalDigits_ne_nil _)
    split
    · next negative =>
        have value : -(exponent.natAbs : Int) = exponent := by omega
        simp only [List.cons_append, readExponent?, readSign, decide_true, Bool.true_or, if_true,
          taken, dropped, someDigit, digitsValue_decimalDigits, Bool.false_eq_true, if_false, value]
    · next positive =>
        have value : (exponent.natAbs : Int) = exponent := by omega
        simp only [List.cons_append, readExponent?, readSign, decide_true, Bool.true_or, if_true,
          taken, dropped, someDigit, digitsValue_decimalDigits, Bool.false_eq_true, if_false, value]

end

/-- The digits after the point, up to the power of ten. -/
theorem readFraction_append {fraction rest : List Char}
    (areDigits : ∀ c ∈ fraction, c.isDigit = true)
    (stops : ∀ c ∈ rest.head?, c.isDigit = false ∧ c ≠ '.') :
    readFraction ((if fraction.isEmpty then [] else '.' :: fraction) ++ rest) =
      (fraction, rest) := by
  cases fraction with
  | nil =>
      rw [List.isEmpty_nil, if_pos rfl, List.nil_append]
      unfold readFraction
      split
      · next c rest => exact absurd rfl (stops '.' rfl).2
      · rfl
  | cons d fraction =>
      rw [List.isEmpty_cons, if_neg Bool.false_ne_true, List.cons_append]
      have stopsDigits := fun c first => (stops c first).1
      rw [readFraction, takeWhile_isDigit_append areDigits stopsDigits,
        dropWhile_isDigit_append areDigits stopsDigits]

/-- What stands behind the digits before the point starts with no digit. -/
theorem head?_fraction_append (fraction : List Char) {rest : List Char}
    (stops : ∀ c ∈ rest.head?, c.isDigit = false) :
    ∀ c ∈ ((if fraction.isEmpty then [] else '.' :: fraction) ++ rest).head?,
      c.isDigit = false := by
  cases fraction with
  | nil => exact stops
  | cons d fraction =>
      rintro c ⟨⟩
      decide

variable {n : Numeral}

theorem Proper.readWhole? (proper : n.Proper) {rest : List Char}
    (stops : ∀ c ∈ rest.head?, c.isDigit = false) :
    Json.readWhole? (n.whole ++ rest) = some (n.whole, rest) := by
  unfold Json.readWhole?
  rw [takeWhile_isDigit_append proper.isDigit_whole stops,
    dropWhile_isDigit_append proper.isDigit_whole stops]
  split
  · next empty => exact absurd empty proper.whole_ne_nil
  · next zero => rw [zero]
  · next tail notZero leads =>
      have lone := proper.whole_eq_zero (by rw [leads]; rfl)
      rw [leads, List.cons.injEq] at lone
      exact absurd lone.2 notZero
  · rfl

theorem Proper.head?_whole_ne_minus (proper : n.Proper) : n.whole.head? ≠ some '-' := by
  intro minus
  have isDigit := proper.isDigit_whole '-' (List.mem_of_mem_head? minus)
  contradiction

/-- What follows the sign of a number. -/
def readUnsigned? (negative : Bool) (s : List Char) : Option (Numeral × List Char) := do
  let (whole, s) ← Json.readWhole? s
  let (fraction, rest) := readFraction s
  if fraction.isEmpty && s.head? = some '.' then none
  else
    let (exponent, rest) ← readExponent? rest
    return (⟨negative, whole, fraction, exponent⟩, rest)

theorem readNumber?_minus (s : List Char) :
    Json.readNumber? ('-' :: s) = readUnsigned? true s :=
  rfl

theorem readNumber?_of_head?_ne {s : List Char} (noMinus : s.head? ≠ some '-') :
    Json.readNumber? s = readUnsigned? false s := by
  unfold Json.readNumber?
  split
  · next negative rest isSign =>
      split at isSign
      · exact absurd rfl noMinus
      · cases isSign
        rfl

theorem Proper.readUnsigned?_append (proper : n.Proper) (negative : Bool) {rest : List Char}
    (ends : Ends rest) :
    readUnsigned? negative (n.whole ++ ((if n.fraction.isEmpty then [] else '.' :: n.fraction) ++
        (exponentText n.exponent ++ rest))) =
      some (⟨negative, n.whole, n.fraction, n.exponent⟩, rest) := by
  have stopsFraction := head?_exponentText ends n.exponent
  have fractionRead := readFraction_append proper.isDigit_fraction stopsFraction
  have exponentRead := readExponent?_exponentText ends n.exponent
  generalize exponentText n.exponent ++ rest = power at *
  have stopsWhole := head?_fraction_append n.fraction fun c first => (stopsFraction c first).1
  -- A point has digits after it.
  have noPoint : (n.fraction.isEmpty && decide (((if n.fraction.isEmpty then []
      else '.' :: n.fraction) ++ power).head? = some '.')) = false := by
    cases n.fraction with
    | nil => simpa using fun point => (stopsFraction '.' point).2 rfl
    | cons d fraction => rfl
  simp only [readUnsigned?, proper.readWhole? stopsWhole, Option.bind_eq_bind, Option.bind_some,
    fractionRead, noPoint, exponentRead, Option.pure_def, Bool.false_eq_true, if_false]

/-- A proper numeral is read back, whatever stands behind it. -/
theorem Proper.readNumber?_text (proper : n.Proper) {rest : List Char} (ends : Ends rest) :
    Json.readNumber? (n.text ++ rest) = some (n, rest) := by
  have read := proper.readUnsigned?_append n.negative ends
  unfold text
  simp only [List.append_assoc]
  cases sign : n.negative with
  | true =>
      rw [sign] at read
      rw [if_pos rfl, List.singleton_append, readNumber?_minus, read, ← sign]
  | false =>
      rw [sign] at read
      rw [if_neg Bool.false_ne_true, List.nil_append, readNumber?_of_head?_ne, read, ← sign]
      rw [List.head?_append_of_ne_nil _ proper.whole_ne_nil]
      exact proper.head?_whole_ne_minus

end Numeral

end Rulebook
