import Mathlib.Logic.Function.Iterate
import Rulebook.Regex.Basic

/-!
# What matching means

An expression leads from a position of a text to another if a match may start at the one and end
at the other.  The relation says so by the shape of the expression and knows neither sets of
positions nor a bound on rounds.  The matcher, which follows all choices at once and gives up a
repetition after as many rounds as the text is long, finds just the positions that are led to.
-/

namespace Rulebook

/-! ## Sets of positions -/

namespace Positions

theorem testBit_toNat_add_zero (b : Bool) (n : Nat) : (b.toNat + 2 * n).testBit 0 = b := by
  rw [Nat.testBit_zero]
  cases b <;> simp

theorem testBit_toNat_add_succ (b : Bool) (n i : Nat) :
    (b.toNat + 2 * n).testBit (i + 1) = n.testBit i := by
  have half : (b.toNat + 2 * n) / 2 = n := by
    have := b.toNat_le
    omega
  rw [Nat.testBit_succ, half]

theorem testBit_upTo (length i : Nat) : (upTo length).testBit i = decide (i ≤ length) := by
  change (2 ^ (length + 1) - 1).testBit i = _
  rw [Nat.testBit_two_pow_sub_one]
  exact decide_eq_decide.mpr Nat.lt_succ_iff

theorem testBit_before (test : Char → Bool) (text : List Char) (i : Nat) :
    (before test text).testBit i = text[i]?.any test := by
  induction text generalizing i with
  | nil => simp [before]
  | cons c text ih =>
      cases i with
      | zero =>
          rw [before, testBit_toNat_add_zero]
          rfl
      | succ i => rw [before, testBit_toNat_add_succ, ih, List.getElem?_cons_succ]

/-- The character in front of a position, `last` being the one in front of the text. -/
def charBefore (last : Option Char) (text : List Char) : Nat → Option Char
  | 0 => last
  | i + 1 => text[i]?

theorem charBefore_cons_succ (last : Option Char) (c : Char) (text : List Char) (i : Nat) :
    charBefore last (c :: text) (i + 1) = charBefore (some c) text i := by
  cases i <;> rfl

theorem testBit_looking (look : Look) (last : Option Char) (text : List Char) (i : Nat) :
    (looking look last text).testBit i =
      (decide (i ≤ text.length) && look.holds (charBefore last text i) text[i]?) := by
  induction text generalizing last i with
  | nil =>
      have lone := testBit_toNat_add_zero (look.holds last none) 0
      have others := testBit_toNat_add_succ (look.holds last none) 0
      rw [looking]
      cases i with
      | zero => simpa [charBefore] using lone
      | succ i => simpa using others i
  | cons c text ih =>
      rw [looking]
      cases i with
      | zero =>
          rw [testBit_toNat_add_zero]
          simp [charBefore]
      | succ i =>
          rw [testBit_toNat_add_succ, ih, charBefore_cons_succ, List.getElem?_cons_succ]
          simp

/-- Steps that change nothing need not be taken. -/
theorem settle_eq_iterate (step : Positions → Positions) (count : Nat) (here : Positions) :
    settle step count here = step^[count] here := by
  induction count generalizing here with
  | zero => rfl
  | succ count ih =>
      rw [settle, Function.iterate_succ_apply]
      split
      · next fixed => rw [fixed, Function.iterate_fixed fixed]
      · exact ih (step here)

end Positions

/-! ## Rounds -/

/-- A relation followed so many times. -/
def Rounds (step : Nat → Nat → Prop) : Nat → Nat → Nat → Prop
  | 0, i, j => i = j
  | n + 1, i, j => ∃ k, step i k ∧ Rounds step n k j

namespace Rounds

variable {step : Nat → Nat → Prop}

theorem add_iff {m n i j : Nat} :
    Rounds step (m + n) i j ↔ ∃ k, Rounds step m i k ∧ Rounds step n k j := by
  induction m generalizing i with
  | zero => simp [Rounds]
  | succ m ih =>
      rw [Nat.succ_add]
      constructor
      · rintro ⟨h, first, rest⟩
        obtain ⟨k, front, back⟩ := ih.mp rest
        exact ⟨k, ⟨h, first, front⟩, back⟩
      · rintro ⟨k, ⟨h, first, front⟩, back⟩
        exact ⟨h, first, ih.mpr ⟨k, front, back⟩⟩

/-- Rounds that may also stay in place are fewer rounds. -/
theorem eq_or_iff {n i j : Nat} :
    Rounds (fun i j => i = j ∨ step i j) n i j ↔ ∃ m ≤ n, Rounds step m i j := by
  induction n generalizing i with
  | zero => simp [Rounds]
  | succ n ih =>
      constructor
      · rintro ⟨k, rfl | first, rest⟩
        · obtain ⟨m, bound, rounds⟩ := ih.mp rest
          exact ⟨m, Nat.le_succ_of_le bound, rounds⟩
        · obtain ⟨m, bound, rounds⟩ := ih.mp rest
          exact ⟨m + 1, Nat.succ_le_succ bound, k, first, rounds⟩
      · rintro ⟨m, bound, rounds⟩
        cases m with
        | zero =>
            cases rounds
            exact ⟨_, .inl rfl, ih.mpr ⟨0, Nat.zero_le n, rfl⟩⟩
        | succ m =>
            obtain ⟨k, first, rest⟩ := rounds
            exact ⟨k, .inr first, ih.mpr ⟨m, Nat.le_of_succ_le_succ bound, rest⟩⟩

theorem le (forward : ∀ i j, step i j → i ≤ j) {n i j : Nat} (rounds : Rounds step n i j) :
    i ≤ j := by
  induction n generalizing i with
  | zero => exact Nat.le_of_eq rounds
  | succ n ih =>
      obtain ⟨k, first, rest⟩ := rounds
      exact Nat.le_trans (forward i k first) (ih rest)

/-- Rounds leave a text no sooner than a step does. -/
theorem within {length : Nat} (within : ∀ i j, step i j → i = j ∨ j ≤ length) {n i j : Nat}
    (rounds : Rounds step n i j) : i = j ∨ j ≤ length := by
  induction n generalizing i with
  | zero => exact .inl rounds
  | succ n ih =>
      obtain ⟨k, first, rest⟩ := rounds
      rcases ih rest with rfl | inside
      · exact within i k first
      · exact .inr inside

/-- Only rounds that move count, and there is no room for more of them than for steps by one. -/
theorem shorten (forward : ∀ i j, step i j → i ≤ j) {n i j : Nat} (rounds : Rounds step n i j) :
    ∃ m ≤ j - i, Rounds step m i j := by
  induction n generalizing i with
  | zero =>
      cases rounds
      exact ⟨0, Nat.zero_le _, rfl⟩
  | succ n ih =>
      obtain ⟨k, first, rest⟩ := rounds
      obtain ⟨m, bound, fewer⟩ := ih rest
      have bySteps := forward i k first
      have onward := le forward rest
      by_cases stays : i = k
      · subst stays
        exact ⟨m, bound, fewer⟩
      · exact ⟨m + 1, by omega, k, first, fewer⟩

/-- Sets of positions are taken round by round as positions are. -/
theorem testBit_iterate {onSets : Positions → Positions}
    (leads : ∀ here j, (onSets here).testBit j = true ↔
      ∃ i, here.testBit i = true ∧ step i j) (n : Nat) (here : Positions) (j : Nat) :
    (onSets^[n] here).testBit j = true ↔ ∃ i, here.testBit i = true ∧ Rounds step n i j := by
  induction n generalizing here with
  | zero => simp [Rounds]
  | succ n ih =>
      rw [Function.iterate_succ_apply, ih]
      constructor
      · rintro ⟨k, reached, rest⟩
        obtain ⟨i, start, first⟩ := (leads here k).mp reached
        exact ⟨i, start, k, first, rest⟩
      · rintro ⟨i, start, k, first, rest⟩
        exact ⟨k, (leads here k).mpr ⟨i, start, first⟩, rest⟩

end Rounds

namespace Regex

/-! ## Where an expression leads -/

/-- Whether a match that starts at one position of a text may end at another. -/
def Leads (text : List Char) : Regex → Nat → Nat → Prop
  | empty, i, j => i = j ∧ i ≤ text.length
  | set s, i, j => j = i + 1 ∧ ∃ c, text[i]? = some c ∧ s.mem c = true
  | look l, i, j =>
      i = j ∧ i ≤ text.length ∧ l.holds (Positions.charBefore none text i) text[i]? = true
  | seq a b, i, j => ∃ k, Leads text a i k ∧ Leads text b k j
  | alt a b, i, j => Leads text a i j ∨ Leads text b i j
  | repeated r least most, i, j =>
      ∃ n, least ≤ n ∧ (∀ m, most = some m → n ≤ max least m) ∧ Rounds (Leads text r) n i j
  | capture r, i, j => Leads text r i j

section

variable {text : List Char}

/-- A match goes forward, and it cannot leave the text. -/
theorem Leads.forward {r : Regex} {i j : Nat} (leads : r.Leads text i j) :
    i ≤ j ∧ (i = j ∨ j ≤ text.length) := by
  induction r generalizing i j with
  | empty => exact ⟨Nat.le_of_eq leads.1, .inl leads.1⟩
  | set s =>
      obtain ⟨rfl, c, there, -⟩ := leads
      exact ⟨Nat.le_succ i, .inr (List.getElem?_eq_some_iff.mp there).1⟩
  | look l => exact ⟨Nat.le_of_eq leads.1, .inl leads.1⟩
  | seq a b iha ihb =>
      obtain ⟨k, front, back⟩ := leads
      have before := iha front
      have after := ihb back
      omega
  | alt a b iha ihb =>
      rcases leads with first | second
      · exact iha first
      · exact ihb second
  | repeated r least most ih =>
      obtain ⟨n, -, -, rounds⟩ := leads
      exact ⟨rounds.le fun _ _ step => (ih step).1, rounds.within fun _ _ step => (ih step).2⟩
  | capture r ih => exact ih leads

/-- A repetition is some rounds that it asks for and some that it allows. -/
theorem leads_repeated_iff {r : Regex} {least : Nat} {most : Option Nat} {i j : Nat} :
    (r.repeated least most).Leads text i j ↔ ∃ k, Rounds (r.Leads text) least i k ∧
      ∃ m ≤ most.elim text.length (· - least), Rounds (r.Leads text) m k j := by
  constructor
  · rintro ⟨n, enough, bound, rounds⟩
    rw [← Nat.add_sub_cancel' enough, Rounds.add_iff] at rounds
    obtain ⟨k, front, back⟩ := rounds
    refine ⟨k, front, ?_⟩
    cases most with
    | some most =>
        have := bound most rfl
        exact ⟨n - least, by rw [Option.elim_some]; omega, back⟩
    | none =>
        obtain ⟨m, few, fewer⟩ := back.shorten fun _ _ step => step.forward.1
        have inside := back.within fun _ _ step => step.forward.2
        exact ⟨m, by rw [Option.elim_none]; omega, fewer⟩
  · rintro ⟨k, front, m, bound, back⟩
    refine ⟨least + m, Nat.le_add_right _ _, ?_, Rounds.add_iff.mpr ⟨k, front, back⟩⟩
    rintro most rfl
    rw [Option.elim_some] at bound
    omega

/-! ## The matcher -/

/-- The matcher reaches the positions that the expression leads to. -/
theorem testBit_reach (r : Regex) (here : Positions) (j : Nat) :
    ((r.layOver text).reach text.length here).testBit j = true ↔
      ∃ i, here.testBit i = true ∧ r.Leads text i j := by
  induction r generalizing here j with
  | empty =>
      rw [layOver, Layover.reach, Nat.testBit_and, Positions.testBit_upTo, Bool.and_eq_true,
        decide_eq_true_iff]
      constructor
      · rintro ⟨start, inside⟩
        exact ⟨j, start, rfl, inside⟩
      · rintro ⟨i, start, rfl, inside⟩
        exact ⟨start, inside⟩
  | set s =>
      rw [layOver, Layover.reach, Nat.testBit_shiftLeft, Nat.testBit_and,
        Positions.testBit_before, Bool.and_eq_true, Bool.and_eq_true, decide_eq_true_iff,
        Option.any_eq_true]
      constructor
      · rintro ⟨positive, start, c, there, member⟩
        exact ⟨j - 1, start, (Nat.sub_add_cancel positive).symm, c, there, member⟩
      · rintro ⟨i, start, rfl, c, there, member⟩
        exact ⟨Nat.le_add_left 1 i, start, c, there, member⟩
  | look l =>
      rw [layOver, Layover.reach, Nat.testBit_and, Positions.testBit_looking, Bool.and_eq_true,
        Bool.and_eq_true, decide_eq_true_iff]
      constructor
      · rintro ⟨start, inside, holds⟩
        exact ⟨j, start, rfl, inside, holds⟩
      · rintro ⟨i, start, rfl, inside, holds⟩
        exact ⟨start, inside, holds⟩
  | seq a b iha ihb =>
      rw [layOver, Layover.reach, ihb]
      constructor
      · rintro ⟨k, reached, back⟩
        obtain ⟨i, start, front⟩ := (iha here k).mp reached
        exact ⟨i, start, k, front, back⟩
      · rintro ⟨i, start, k, front, back⟩
        exact ⟨k, (iha here k).mpr ⟨i, start, front⟩, back⟩
  | alt a b iha ihb =>
      rw [layOver, Layover.reach, Nat.testBit_or, Bool.or_eq_true, iha, ihb, ← exists_or]
      exact exists_congr fun i => and_or_left.symm
  | repeated r least most ih =>
      have orStays (here : Positions) (j : Nat) :
          (here ||| (r.layOver text).reach text.length here).testBit j = true ↔
            ∃ i, here.testBit i = true ∧ (i = j ∨ r.Leads text i j) := by
        rw [Nat.testBit_or, Bool.or_eq_true, ih]
        constructor
        · rintro (stays | ⟨i, start, leads⟩)
          · exact ⟨j, stays, .inl rfl⟩
          · exact ⟨i, start, .inr leads⟩
        · rintro ⟨i, start, rfl | leads⟩
          · exact .inl start
          · exact .inr ⟨i, start, leads⟩
      rw [layOver, Layover.reach, Positions.settle_eq_iterate, Positions.settle_eq_iterate,
        Rounds.testBit_iterate orStays]
      simp only [Rounds.testBit_iterate ih, Rounds.eq_or_iff, leads_repeated_iff]
      constructor
      · rintro ⟨k, ⟨i, start, front⟩, back⟩
        exact ⟨i, start, k, front, back⟩
      · rintro ⟨i, start, k, front, back⟩
        exact ⟨k, ⟨i, start, front⟩, back⟩
  | capture r ih => exact ih here j

/-- A text is matched if the expression leads from one of its positions to any. -/
theorem isMatchChars_iff (r : Regex) :
    r.isMatchChars text = true ↔ ∃ i ≤ text.length, ∃ j, r.Leads text i j := by
  rw [isMatchChars, bne_iff_ne]
  constructor
  · intro found
    obtain ⟨j, reached⟩ := Nat.exists_testBit_of_ne_zero found
    obtain ⟨i, start, leads⟩ := (testBit_reach r _ j).mp reached
    rw [Positions.testBit_upTo, decide_eq_true_iff] at start
    exact ⟨i, start, j, leads⟩
  · rintro ⟨i, start, j, leads⟩ none
    have reached : ((r.layOver text).reach text.length
        (Positions.upTo text.length)).testBit j = true :=
      (testBit_reach r _ j).mpr ⟨i, by rw [Positions.testBit_upTo]; exact decide_eq_true start,
        leads⟩
    rw [none, Nat.zero_testBit] at reached
    cases reached

/-- With both ends fixed, a text is matched if the expression leads from its start to its end. -/
theorem isMatchChars_whole_iff (r : Regex) :
    (whole r).isMatchChars text = true ↔ r.Leads text 0 text.length := by
  rw [isMatchChars_iff]
  constructor
  · rintro ⟨i, inside, j, _, ⟨rfl, -, atStart⟩, k, leads, rfl, within, atEnd⟩
    obtain rfl : i = 0 := by
      cases i with
      | zero => rfl
      | succ i =>
          rw [Look.holds, Positions.charBefore, Option.isNone_iff_eq_none,
            List.getElem?_eq_none_iff] at atStart
          omega
    rw [Look.holds, Option.isNone_iff_eq_none, List.getElem?_eq_none_iff] at atEnd
    rwa [Nat.le_antisymm within atEnd] at leads
  · intro leads
    refine ⟨0, Nat.zero_le _, text.length, 0, ⟨rfl, Nat.zero_le _, rfl⟩, text.length, leads, rfl,
      Nat.le_refl _, ?_⟩
    rw [List.getElem?_eq_none (Nat.le_refl _)]
    rfl

end

end Regex

end Rulebook
