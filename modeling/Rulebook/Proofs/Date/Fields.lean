import Mathlib.Algebra.Order.Floor.Div
import Mathlib.GroupTheory.GroupAction.Ring
import Rulebook.Proofs.Date.Calendar
import Rulebook.Proofs.Date.Pass
import Rulebook.Proofs.Date.Scan

/-!
# The fields that are written

Every letter of a pattern stands for a number, and where its first run is the digits of that number
are written, whatever else is in the pattern.  For a date that was read the number of every letter
is in the range of its field, whichever notation the date was read from.  There is one exception:
in a leap second the letter for the milliseconds stands for a thousand and more.
-/

namespace Rulebook.Date

open Piece

/-! ## One pass over two parts -/

/-- The tokens whose letters do not come up in a text. -/
def unused (tokens : List Token) (s : List Char) : List Token :=
  tokens.filter fun token => token.letter ∉ s

section

variable {token : Token} {waiting : List Token} {c : Char} {front back : List Char}

/-- A run ends with its text if something else follows. -/
theorem Token.more_append (apart : ∀ c ∈ back.head?, c ≠ token.letter) :
    token.more (front ++ back) = token.more front := by
  cases single : token.single with
  | true => rw [more_of_single single, more_of_single single]
  | false =>
      obtain ⟨count, rest, rfl, maximal⟩ := exists_eq_replicate_append token.letter front
      have maximalToo : (rest ++ back).head? ≠ some token.letter := by
        rw [List.head?_append, ne_eq, Option.or_eq_some_iff]
        rintro (first | ⟨-, first⟩)
        · exact maximal first
        · exact apart _ first rfl
      rw [List.append_assoc, more_replicate_append single maximalToo,
        more_replicate_append single maximal]

theorem Token.more_le_length (token : Token) (front : List Char) :
    token.more front ≤ front.length := by
  unfold more
  split
  · exact Nat.zero_le _
  · exact (List.takeWhile_sublist _).length_le

/-- A pass over two parts goes over the first, and then over the second with the tokens that have
not had their run, unless a run crosses from one part to the other. -/
theorem pass_append (apart : ∀ c ∈ back.head?, c ∉ front) :
    pass waiting (front ++ back) = pass waiting front ++ pass (unused waiting front) back := by
  -- Along the pass over the front: what is left waiting is what its letters have not used up.
  fun_induction pass waiting front with
  | case1 waiting => simp [unused]
  | case2 waiting c rest token found ih =>
      have letterEq : token.letter = c := by simpa using List.find?_some found
      have apartRest : ∀ c ∈ back.head?, c ∉ rest.drop (token.more rest) :=
        fun d first isPart => apart d first (List.mem_cons_of_mem c (List.mem_of_mem_drop isPart))
      have stops : ∀ d ∈ back.head?, d ≠ token.letter :=
        fun d first same => apart d first (by rw [same, letterEq]; exact List.mem_cons_self)
      have left : unused (without c waiting) (rest.drop (token.more rest)) =
          unused waiting (c :: rest) := by
        rw [unused, without, List.filter_filter, unused]
        apply List.filter_congr
        intro other _
        by_cases same : other.letter = c
        · simp [same]
        · simp [same, Token.mem_drop_more (letterEq ▸ same)]
      rw [List.cons_append, pass_cons_of_find? found, Token.more_append stops,
        List.drop_append_of_le_length (token.more_le_length rest), ih apartRest, left,
        List.cons_append]
  | case3 waiting c rest foreign ih =>
      have apartRest : ∀ c ∈ back.head?, c ∉ rest :=
        fun d first isPart => apart d first (List.mem_cons_of_mem c isPart)
      have foreignToo : ∀ token ∈ waiting, token.letter ≠ c := by simpa using foreign
      have left : unused waiting rest = unused waiting (c :: rest) := by
        apply List.filter_congr
        intro token isWaiting
        simp [foreignToo token isWaiting]
      rw [List.cons_append, pass_cons_of_foreign foreignToo, ih apartRest, left, List.cons_append]

end

/-! ## What a letter stands for -/

/-- Wherever the first run of a letter is in a pattern, unless it is too long, or the first such
letter alone, the digits of a number are written for it, with zeros in front or without.  What
stands before the run is written as if nothing followed, and behind it the letters have their turn
that have not come up.  There is no text if there is none for one of these parts. -/
def Renders (d : DateTime) (letter : Char) (single : Bool) (n : Nat) : Prop :=
  ∀ (front back : List Char) (count : Nat), letter ∉ front → count + 1 ≤ greatestWidth →
    (single = true → count = 0) → (single = false → back.head? ≠ some letter) → ∃ zeros,
      formatChars d (front ++ (List.replicate (count + 1) letter ++ back)) = do
        let before ← formatChars d front
        let after ← spread (pass (unused (tokens d) (front ++ [letter])) back)
        return before ++ (List.replicate zeros '0' ++ decimalDigits n) ++ after

section

variable {d : DateTime} {token : Token}

theorem unused_append_letter (waiting : List Token) (front : List Char) (letter : Char) :
    without letter (unused waiting front) = unused waiting (front ++ [letter]) := by
  rw [without, unused, List.filter_filter, unused]
  apply List.filter_congr
  intro token _
  by_cases same : token.letter = letter <;> simp [same]

/-- A token renders its run where the run is. -/
theorem formatChars_run (isToken : token ∈ tokens d) {front back text : List Char} {count : Nat}
    (first : token.letter ∉ front) (alone : token.single = true → count = 0)
    (maximal : token.single = false → back.head? ≠ some token.letter)
    (renders : token.render (count + 1) = some text) :
    formatChars d (front ++ (List.replicate (count + 1) token.letter ++ back)) = do
      let before ← formatChars d front
      let after ← spread (pass (unused (tokens d) (front ++ [token.letter])) back)
      return before ++ text ++ after := by
  have apart : ∀ c ∈ (List.replicate (count + 1) token.letter ++ back).head?, c ∉ front := by
    rintro c ⟨⟩
    exact first
  have distinct : ((unused (tokens d) front).map Token.letter).Nodup :=
    (orderly_tokens d).distinct.sublist (List.filter_sublist.map _)
  have isUnused : token ∈ unused (tokens d) front :=
    List.mem_filter.mpr ⟨isToken, by simpa using first⟩
  rw [formatChars_eq_spread_pass, formatChars_eq_spread_pass, pass_append apart,
    pass_run distinct isUnused alone maximal, unused_append_letter, spread_append, spread_cons,
    Piece.text, renders]
  cases spread (pass (tokens d) front) with
  | none => rfl
  | some before =>
      cases spread (pass (unused (tokens d) (front ++ [token.letter])) back) <;> simp

theorem renders_of_mem_paddedFields {letter : Char} {n : Nat}
    (isField : (letter, n) ∈ paddedFields d) : Renders d letter false n := by
  intro front back count first fits alone maximal
  exact ⟨_, formatChars_run (token_mem_of_mem_paddedFields isField) first alone maximal
    (if_pos fits)⟩

theorem renders_millisecond : Renders d 'S' true (d.nanosecond / 1000000) := by
  intro front back count first _ alone maximal
  have isToken :
      (⟨'S', true, fun _ => some (decimalDigits (d.nanosecond / 1000000))⟩ : Token) ∈ tokens d :=
    List.mem_append_right _ (List.mem_singleton_self _)
  exact ⟨0, formatChars_run isToken first alone maximal rfl⟩

end

/-! ## Ranges -/

/-- A quarter is a third of the months, rounded up. -/
theorem quarter_eq {date : CalendarDate} (some : 1 ≤ date.month) :
    date.quarter = date.month ⌈/⌉ 3 := by
  rw [Nat.ceilDiv_eq_add_pred_div, CalendarDate.quarter]
  omega

/-- Whatever text a date was read from, all its letters stand for numbers in the ranges of their
fields, but for the milliseconds of a leap second. -/
theorem renders_of_read? {text : String} {d : DateTime} (read : read? text = some d) :
    ∃ month day hour minute second quarter millisecond,
      (Renders d 'M' false month ∧ 1 ≤ month ∧ month ≤ 12) ∧
      (Renders d 'd' false day ∧ 1 ≤ day ∧ day ≤ daysInMonth d.date.year month) ∧
      (Renders d 'h' false hour ∧ hour ≤ 23) ∧
      (Renders d 'm' false minute ∧ minute ≤ 59) ∧
      (Renders d 's' false second ∧ second ≤ 59) ∧
      (Renders d 'q' false quarter ∧ 1 ≤ quarter ∧ quarter ≤ 4 ∧ quarter = month ⌈/⌉ 3) ∧
      Renders d 'S' true millisecond ∧
      (d.nanosecond < 1000000000 ∧ millisecond ≤ 999 ∨
        1000000000 ≤ d.nanosecond ∧ second = 59 ∧ 1000 ≤ millisecond ∧ millisecond ≤ 1999) := by
  obtain ⟨-, ⟨⟨one_le_month, month_le, one_le_day, day_le⟩, hour_lt, minute_lt, second_lt⟩, part⟩ :=
    DateTime.isValid_iff.mp (isValid_of_read? read)
  have month : Renders d 'M' false d.date.month :=
    renders_of_mem_paddedFields (by simp [paddedFields])
  have day : Renders d 'd' false d.date.day := renders_of_mem_paddedFields (by simp [paddedFields])
  have hour : Renders d 'h' false d.hour := renders_of_mem_paddedFields (by simp [paddedFields])
  have minute : Renders d 'm' false d.minute := renders_of_mem_paddedFields (by simp [paddedFields])
  have second : Renders d 's' false d.second := renders_of_mem_paddedFields (by simp [paddedFields])
  have quarter : Renders d 'q' false d.date.quarter :=
    renders_of_mem_paddedFields (by simp [paddedFields])
  have quarters := quarter_eq one_le_month
  have fourth : 1 ≤ d.date.quarter ∧ d.date.quarter ≤ 4 := by
    rw [CalendarDate.quarter]
    omega
  exact ⟨_, _, _, _, _, _, _, ⟨month, one_le_month, month_le⟩, ⟨day, one_le_day, day_le⟩,
    ⟨hour, by omega⟩, ⟨minute, by omega⟩, ⟨second, by omega⟩,
    ⟨quarter, fourth.1, fourth.2, quarters⟩, renders_millisecond, by omega⟩

/-- A leap second at the end of a year, on a clock that shows the next year. -/
theorem renders_of_read?_leap_second :
    let d : DateTime := ⟨⟨2016, 12, 31⟩, 23, 59, 59, 1250000000⟩
    read? "2017-01-01T00:59:60.25+01:00" = some d ∧
      ∃ quarter second millisecond, Renders d 'q' false quarter ∧ quarter ≤ 4 ∧
        Renders d 's' false second ∧ second ≤ 59 ∧ Renders d 'S' true millisecond ∧
        1000 ≤ millisecond ∧ millisecond ≤ 1999 := by
  intro d
  have read : read? "2017-01-01T00:59:60.25+01:00" = some d := by decide +kernel
  obtain ⟨_, _, _, _, second, quarter, millisecond, -, -, -, -, ⟨seconds, second_le⟩,
    ⟨quarters, -, quarter_le, -⟩, milliseconds, ⟨whole, -⟩ | ⟨-, -, least, most⟩⟩ :=
    renders_of_read? read
  · exact absurd whole (by decide)
  · exact ⟨read, quarter, second, millisecond, quarters, quarter_le, seconds, second_le,
      milliseconds, least, most⟩

/-- In a leap second the letter for the milliseconds stands for more than 999. -/
theorem format_leap_second :
    (read? "2016-12-31T23:59:60.25Z").bind (format · "S") = some "1250" := by
  decide +kernel

end Rulebook.Date
