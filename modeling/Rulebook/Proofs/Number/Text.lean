import Rulebook.Proofs.Number.Decimal
import Rulebook.Proofs.Number.Digits
import Rulebook.Proofs.Number.Shortest
import Rulebook.Proofs.Text.Trim
import Rulebook.Proofs.Value.Akin

/-!
# Numbers read back from their text

The digits of a magnitude are chosen because they read back as it.  A layout moves the point
and the zeros at the end into other places, but what is written has the same value, and a
proper numeral is read as the number nearest to what is written.  So a number is equal to what
its text reads as, and two numbers have the same text only if they are equal.
-/

namespace Rulebook

/-! ## Digits that read back -/

namespace Magnitude

/-- As many places as one has bits hold every magnitude to its last digit. -/
theorem nearest_exact (m : Magnitude) : m.exact.nearest = m := by
  have digits : m.exact.digits = m.units * Nat.pow 5 1074 := by
    simp only [exact]
  have ten : Nat.pow 5 1074 * unitsPerOne = 10 ^ (-m.exact.exponent).toNat := by
    simp only [exact]
    decide +kernel
  have whole : m.exact.exponent.toNat = 0 := rfl
  rw [Scaled.nearest, ofDecimal_eq_nearest, whole, Nat.pow_zero, Nat.mul_one, digits,
    Nat.mul_assoc, ten, nearest_units m (Nat.pow_pos (by decide))]

/-- The digits chosen for a magnitude read back as it. -/
theorem nearest_shortest (tieUp : Bool) (m : Magnitude) : (m.shortest tieUp).nearest = m := by
  unfold shortest
  simp only
  split
  · next s chosen =>
      obtain ⟨count, -, chosen⟩ := List.exists_of_findSome?_eq_some chosen
      exact nearest_of_neighbour?_eq chosen
  · exact m.nearest_exact

end Magnitude

/-! ## The value of what is written -/

/-- Zeros at the end, and the digits before them. -/
theorem exists_eq_append_zeros (digits : List Char) :
    ∃ zeros, digits = digits.rdropWhile (· == '0') ++ List.replicate zeros '0' := by
  refine ⟨(digits.rtakeWhile (· == '0')).length, ?_⟩
  have zeros : ∀ c ∈ digits.rtakeWhile (· == '0'), c = '0' := fun c isLast =>
    beq_iff_eq.mp (List.mem_rtakeWhile_imp isLast :)
  rw [← List.eq_replicate_of_mem zeros, List.rdropWhile_append_rtakeWhile]

/-- Without the zeros at the end of its digits a decimal has the same value. -/
theorem Scaled.nearest_eq (s : Scaled) :
    s.nearest =
      .ofDecimal (digitsValue ((decimalDigits s.digits).rdropWhile (· == '0')))
        (s.exponent + (decimalDigits s.digits).length -
          ((decimalDigits s.digits).rdropWhile (· == '0')).length) := by
  obtain ⟨zeros, parts⟩ := exists_eq_append_zeros (decimalDigits s.digits)
  have value := congrArg digitsValue parts
  have length := congrArg List.length parts
  rw [digitsValue_decimalDigits, digitsValue_append_zeros] at value
  rw [List.length_append, List.length_replicate] at length
  have exponent : s.exponent + (decimalDigits s.digits).length -
      ((decimalDigits s.digits).rdropWhile (· == '0')).length = s.exponent + zeros := by
    omega
  rw [exponent, ← Magnitude.ofDecimal_mul_pow, ← value, nearest]

namespace Layout

variable {layout : Layout} (negative : Bool) {digits : List Char} (point : Int)

/-- A digit before the point and the others behind it, with the power of ten. -/
theorem nearest_scientific (some : digits ≠ []) :
    (scientific negative digits point).nearest =
      .signed negative (.ofDecimal (digitsValue digits) (point - digits.length)) := by
  have positive := List.length_pos_iff.mpr some
  have scale : (scientific negative digits point).scale = point - digits.length := by
    simp only [scientific, Numeral.scale, List.length_drop]
    omega
  rw [Numeral.nearest, scale, Numeral.digits, scientific, List.take_append_drop]

/-- Digits with a point before, between or behind them. -/
theorem nearest_positional (zeros : ∀ c ∈ layout.emptyFraction, c = '0') :
    (layout.positional negative digits point).nearest =
      .signed negative (.ofDecimal (digitsValue digits) (point - digits.length)) := by
  unfold positional
  split
  · next before =>
      have value := digitsValue_replicate_append ((-point).toNat + 1) digits
      rw [List.replicate_succ, List.cons_append] at value
      simp only [Numeral.nearest, Numeral.digits, Numeral.scale, List.length_append,
        List.length_replicate, List.singleton_append, value]
      congr 2
      omega
  · split
    · next between =>
        simp only [Numeral.nearest, Numeral.digits, Numeral.scale, List.take_append_drop,
          List.length_drop]
        congr 2
        omega
    · next behind =>
        have further := List.eq_replicate_of_mem zeros
        generalize layout.emptyFraction.length = places at further
        simp only [Numeral.nearest, Numeral.digits, Numeral.scale, further, List.append_assoc,
          List.replicate_append_replicate, digitsValue_append_zeros, Magnitude.ofDecimal_mul_pow,
          List.length_replicate]
        congr 2
        omega

/-- What is written has the value of the magnitude. -/
theorem nearest_numeral (zeros : ∀ c ∈ layout.emptyFraction, c = '0') (m : Magnitude) :
    (layout.numeral negative m).nearest = .signed negative m := by
  unfold numeral
  split
  · next isZero =>
      have further := List.eq_replicate_of_mem zeros
      have value := digitsValue_replicate_append (layout.emptyFraction.length + 1) []
      rw [List.replicate_succ, ← further, List.append_nil] at value
      rw [Numeral.nearest, Numeral.digits, List.singleton_append, value, isZero]
      exact congrArg _ (Magnitude.ofDecimal_zero _)
  · next notZero =>
      have some := (leading_decimalDigits (m.digits_shortest_pos notZero layout.tieUp)).rdropWhile
      have reads := (m.shortest layout.tieUp).nearest_eq
      rw [m.nearest_shortest layout.tieUp] at reads
      simp only
      split
      · exact (nearest_positional negative _ zeros).trans (congrArg _ reads.symm)
      · exact (nearest_scientific negative _ some.ne_nil).trans (congrArg _ reads.symm)

end Layout

/-! ## Reading -/

theorem readSign_of_isDigit {c : Char} (isDigit : c.isDigit = true) (s : List Char) :
    readSign (c :: s) = (false, c :: s) := by
  unfold readSign
  split
  · next sign =>
      obtain ⟨rfl, -⟩ := List.cons.inj sign
      contradiction
  · next sign =>
      obtain ⟨rfl, -⟩ := List.cons.inj sign
      contradiction
  · rfl

/-- What a digit starts is no word that starts with a letter. -/
theorem ofList_map_toLower_ne {c : Char} (isDigit : c.isDigit = true) (s : List Char)
    {word : String} {letter : Char} (starts : word.toList.head? = some letter)
    (noDigit : letter.isDigit = false) : String.ofList ((c :: s).map Char.toLower) ≠ word := by
  rintro rfl
  rw [String.toList_ofList, List.map_cons, toLower_of_isDigit isDigit, List.head?_cons,
    Option.some.injEq] at starts
  rw [← starts, isDigit] at noDigit
  contradiction

theorem Number.ofWord?_of_isDigit (negative : Bool) {c : Char} (isDigit : c.isDigit = true)
    (s : List Char) : ofWord? negative (c :: s) = none := by
  have noInf := @ofList_map_toLower_ne c isDigit s "inf" 'i' rfl rfl
  have noInfinity := @ofList_map_toLower_ne c isDigit s "infinity" 'i' rfl rfl
  have noNan := @ofList_map_toLower_ne c isDigit s "nan" 'n' rfl rfl
  simp only [ofWord?, noInf, noInfinity, noNan, decide_false, Bool.or_self, Bool.false_eq_true,
    if_false]

/-- Without blanks an argument is read as it is. -/
theorem Number.ofArgument_of_ofChars? {s : List Char} {n : Number} (ne_nil : s ≠ [])
    (noBlanks : ∀ c ∈ s, Text.isBlank c = false) (read : ofChars? s = some n) :
    ofArgument s = n := by
  have trimmed := Text.trimChars_eq_self_iff.mpr (Text.unpadded_of_noBlanks noBlanks)
  simp only [ofArgument, trimmed, List.isEmpty_eq_false_iff.mpr ne_nil, read, Bool.false_eq_true,
    if_false, Option.getD_some]

namespace Numeral

/-- The text of a numeral without its sign. -/
def unsigned (n : Numeral) : List Char :=
  n.whole ++ ((if n.fraction.isEmpty then [] else '.' :: n.fraction) ++ exponentText n.exponent)

theorem text_eq (n : Numeral) : n.text = (if n.negative then ['-'] else []) ++ n.unsigned := by
  simp only [text, unsigned, List.append_assoc]

namespace Proper

variable {n : Numeral} (proper : n.Proper)

include proper

/-- Digits, signs, the point and the letter of a power are not blank. -/
theorem isBlank_of_mem_text : ∀ c ∈ n.text, Text.isBlank c = false := by
  have digits : ∀ {s : List Char}, (∀ c ∈ s, c.isDigit = true) →
      ∀ c ∈ s, Text.isBlank c = false :=
    fun areDigits c isMember => isBlank_of_isDigit (areDigits c isMember)
  have sign : ∀ c ∈ if n.negative then ['-'] else [], Text.isBlank c = false := by
    split
    · exact List.forall_mem_singleton.mpr (by decide)
    · exact List.forall_mem_nil _
  have fraction : ∀ c ∈ if n.fraction.isEmpty then [] else '.' :: n.fraction,
      Text.isBlank c = false := by
    split
    · exact List.forall_mem_nil _
    · exact List.forall_mem_cons.mpr ⟨by decide, digits proper.isDigit_fraction⟩
  have power : ∀ c ∈ exponentText n.exponent, Text.isBlank c = false := by
    unfold exponentText
    split
    · exact List.forall_mem_nil _
    · refine List.forall_mem_cons.mpr ⟨by decide, List.forall_mem_cons.mpr ⟨?_, ?_⟩⟩
      · split <;> decide
      · exact digits fun _ => isDigit_of_mem_decimalDigits
  simp only [text, List.forall_mem_append]
  exact ⟨⟨⟨sign, digits proper.isDigit_whole⟩, fraction⟩, power⟩

/-- Without its sign a proper numeral starts with a digit. -/
theorem exists_unsigned_eq_cons : ∃ c s, c.isDigit = true ∧ n.unsigned = c :: s := by
  obtain ⟨c, whole, isWhole⟩ := List.exists_cons_of_ne_nil proper.whole_ne_nil
  have isDigit : c.isDigit = true := proper.isDigit_whole c (isWhole ▸ List.mem_cons_self)
  rw [unsigned, isWhole, List.cons_append]
  exact ⟨c, _, isDigit, rfl⟩

theorem ofDigits?_unsigned (negative : Bool) :
    Number.ofDigits? negative n.unsigned = some (nearest { n with negative }) := by
  have stops := head?_exponentText ends_nil n.exponent
  have fractionRead := readFraction_append proper.isDigit_fraction stops
  have exponentRead := readExponent?_exponentText ends_nil n.exponent
  have stopsWhole := head?_fraction_append n.fraction fun c first => (stops c first).1
  rw [List.append_nil] at *
  have some : (n.whole.isEmpty && n.fraction.isEmpty) = false := by
    rw [List.isEmpty_eq_false_iff.mpr proper.whole_ne_nil, Bool.false_and]
  simp only [Number.ofDigits?, unsigned, takeWhile_isDigit_append proper.isDigit_whole stopsWhole,
    dropWhile_isDigit_append proper.isDigit_whole stopsWhole, fractionRead, some, exponentRead,
    Bool.false_eq_true, if_false]

/-- A proper numeral is read as the number nearest to what is written. -/
theorem ofChars?_text : Number.ofChars? n.text = some n.nearest := by
  obtain ⟨c, s, isDigit, start⟩ := proper.exists_unsigned_eq_cons
  have signRead : readSign n.text = (n.negative, n.unsigned) := by
    rw [text_eq]
    cases n.negative with
    | true => rfl
    | false => rw [if_neg Bool.false_ne_true, List.nil_append, start, readSign_of_isDigit isDigit]
  have noWord := Number.ofWord?_of_isDigit n.negative isDigit s
  rw [← start] at noWord
  simp only [Number.ofChars?, signRead, noWord, proper.ofDigits?_unsigned]

/-- So it is as the text of an argument. -/
theorem ofArgument_text : Number.ofArgument n.text = n.nearest := by
  obtain ⟨c, s, -, start⟩ := proper.exists_unsigned_eq_cons
  have ne_nil : n.text ≠ [] := by
    rw [text_eq, start]
    simp
  exact Number.ofArgument_of_ofChars? ne_nil proper.isBlank_of_mem_text proper.ofChars?_text

end Proper

end Numeral

namespace Number

/-- The text of a number reads as the number, a zero without its sign. -/
theorem ofArgument_text (negative : Bool) (m : Magnitude) :
    ofArgument (signed negative m).text.toList = signed (negative && m != .zero) m := by
  rw [text]
  split
  · next unbounded =>
      rw [unbounded]
      cases negative <;> decide
  · rw [String.toList_ofList, (Layout.proper_numeral _ (List.forall_mem_nil _) m).ofArgument_text,
      Layout.nearest_numeral _ (List.forall_mem_nil _)]

/-- The text of a number reads as a number in the same place. -/
theorem key?_ofArgument_text (n : Number) : (ofArgument n.text.toList).key? = n.key? := by
  cases n with
  | nan => decide
  | signed negative m =>
      rw [ofArgument_text]
      by_cases isZero : m = .zero
      · rw [isZero]
        cases negative <;> rfl
      · rw [bne_iff_ne.mpr isZero, Bool.and_true]

/-- Numbers have the same text if they are in the same place, and only then. -/
theorem text_eq_iff_key?_eq {m n : Number} : m.text = n.text ↔ m.key? = n.key? := by
  constructor
  · intro sameText
    rw [← key?_ofArgument_text m, sameText, key?_ofArgument_text n]
  · exact text_congr

/-- A number that is not `nan` has a place in the order of numbers. -/
theorem exists_key?_eq {n : Number} (isNumber : n ≠ nan) : ∃ k, n.key? = some k := by
  cases n with
  | nan => contradiction
  | signed negative m => cases negative <;> exact ⟨_, rfl⟩

/-- The text of a number reads as a number equal to it, so that the number is loosely equal to its
text, and no number that is not equal to it has the same text. -/
theorem stringify_identifies {n : Number} (isNumber : n ≠ nan) (m : Number) :
    (ofArgument (Value.number n).stringify.toList).eq n = true ∧
      (Value.number n).looseEqText (Value.number n).stringify = true ∧
      ((Value.number m).stringify = (Value.number n).stringify ↔ m.eq n = true) := by
  obtain ⟨k, place⟩ := exists_key?_eq isNumber
  have reads : (ofArgument n.text.toList).eq n = true :=
    eq_iff_key?.mpr ⟨k, (key?_ofArgument_text n).trans place, place⟩
  refine ⟨reads, reads, ?_⟩
  rw [Value.stringify, Value.stringify, text_eq_iff_key?_eq, eq_iff_key?]
  constructor
  · intro samePlace
    exact ⟨k, samePlace.trans place, place⟩
  · rintro ⟨j, first, second⟩
    exact first.trans second.symm

/-- The least number but zero, and a zero with a sign. -/
theorem stringify_identifies_least :
    let least := signed true ⟨1, by decide⟩
    least ≠ nan ∧ (Value.number least).stringify = "-5e-324" ∧
      (ofArgument "-5e-324".toList).eq least = true ∧
      (Value.number least).looseEqText "-5e-324" = true ∧
      (Value.number zero.neg).stringify ≠ "-5e-324" := by
  intro least
  have text : (Value.number least).stringify = "-5e-324" := by decide +kernel
  obtain ⟨reads, looselyEqual, sameText⟩ := @stringify_identifies least nofun zero.neg
  rw [text] at reads looselyEqual sameText
  refine ⟨nofun, text, reads, looselyEqual, ?_⟩
  rw [ne_eq, sameText]
  decide

end Number

end Rulebook
