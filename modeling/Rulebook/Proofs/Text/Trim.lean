import Rulebook.Text.Blank
import Mathlib.Data.List.DropRight

/-!
# Trimmed text

Trimming drops characters at the ends only, and what it leaves has no blank at
either end.  The texts that it leaves alone are exactly the unpadded ones.
-/

namespace Rulebook.Text

/-- No blank at either end. -/
def Unpadded (s : List Char) : Prop :=
  (∀ c ∈ s.head?, isBlank c = false) ∧ ∀ c ∈ s.getLast?, isBlank c = false

instance : DecidablePred Unpadded := fun s =>
  decidable_of_iff (s.head?.any isBlank = false ∧ s.getLast?.any isBlank = false) <| by
    simp only [Unpadded, Option.any_eq_false, Option.mem_def]

theorem trimEnd_isPrefix (s : List Char) : trimEnd s <+: s :=
  List.rdropWhile_prefix isBlank s

theorem trimEnd_eq_self {s : List Char} (last : ∀ c ∈ s.getLast?, isBlank c = false) :
    trimEnd s = s := by
  apply List.rdropWhile_eq_self_iff.mpr
  intro nonempty blank
  rw [last _ (List.getLast?_eq_some_getLast nonempty)] at blank
  contradiction

theorem dropWhile_isBlank_eq_self {s : List Char} (first : ∀ c ∈ s.head?, isBlank c = false) :
    s.dropWhile isBlank = s := by
  cases s with
  | nil => rfl
  | cons c s => rw [List.dropWhile_cons_of_neg (by simp [first c rfl])]

theorem unpadded_of_noBlanks {s : List Char} (noBlanks : ∀ c ∈ s, isBlank c = false) :
    Unpadded s :=
  ⟨fun c first => noBlanks c (List.mem_of_mem_head? first),
    fun c last => noBlanks c (List.mem_of_getLast? last)⟩

/-- What trimming leaves is unpadded. -/
theorem unpadded_trimChars (s : List Char) : Unpadded (trimChars s) := by
  constructor
  · intro c first
    obtain ⟨t, rest⟩ := trimEnd_isPrefix (s.dropWhile isBlank)
    have dropped : (s.dropWhile isBlank).head? = some c := by
      rw [← rest, List.head?_append]
      exact Option.or_eq_some_iff.mpr (.inl first)
    have kept := List.head?_dropWhile_not isBlank s
    rw [dropped] at kept
    simpa using kept
  · intro c last
    have nonempty : trimChars s ≠ [] := by
      rintro empty
      simp [empty] at last
    have kept := List.rdropWhile_last_not isBlank (s.dropWhile isBlank) nonempty
    change ¬isBlank ((trimChars s).getLast nonempty) = true at kept
    rw [Option.mem_def, List.getLast?_eq_some_getLast nonempty, Option.some.injEq] at last
    rw [← last]
    simpa using kept

/-- Trimming leaves alone the unpadded texts and no others. -/
theorem trimChars_eq_self_iff {s : List Char} : trimChars s = s ↔ Unpadded s := by
  constructor
  · intro same
    rw [← same]
    exact unpadded_trimChars s
  · rintro ⟨first, last⟩
    rw [trimChars, dropWhile_isBlank_eq_self first, trimEnd_eq_self last]

theorem trimChars_sublist (s : List Char) : (trimChars s).Sublist s :=
  (trimEnd_isPrefix _).sublist.trans (List.dropWhile_sublist _)

/-- Without a blank at the front only the end is cut. -/
theorem trimChars_isPrefix {s : List Char} (first : ∀ c ∈ s.head?, isBlank c = false) :
    trimChars s <+: s := by
  rw [trimChars, dropWhile_isBlank_eq_self first]
  exact trimEnd_isPrefix s

/-- Trimming puts no other character in the place of one that is not blank. -/
theorem trimChars_append_cons_ne {front : List Char} {c d : Char} (notBlank : isBlank c = false)
    (differs : c ≠ d) (rest : List Char) : trimChars (front ++ c :: rest) ≠ front ++ [d] := by
  intro same
  have unpadded : Unpadded (front ++ [d]) := by
    rw [← same]
    exact unpadded_trimChars _
  have first : ∀ b ∈ (front ++ c :: rest).head?, isBlank b = false := by
    cases front with
    | nil => simpa using notBlank
    | cons b front => exact unpadded.1
  -- Only the end is cut, and it is behind the place where the texts differ.
  have start := trimChars_isPrefix first
  rw [same, List.prefix_append_right_inj, List.cons_prefix_cons] at start
  exact differs start.1.symm

/-! ## Blanks around a text -/

theorem trimEnd_append_blanks (s : List Char) {blanks : List Char}
    (blank : ∀ c ∈ blanks, isBlank c = true) : trimEnd (s ++ blanks) = trimEnd s := by
  have reversed : ∀ c ∈ blanks.reverse, isBlank c = true := by
    simpa using blank
  rw [trimEnd, trimEnd, List.reverse_append, List.dropWhile_append_of_pos reversed]

theorem trimChars_append_blanks (s : List Char) {blanks : List Char}
    (blank : ∀ c ∈ blanks, isBlank c = true) : trimChars (s ++ blanks) = trimChars s := by
  rw [trimChars, trimChars, List.dropWhile_append]
  split
  · next empty =>
      rw [List.isEmpty_iff] at empty
      have dropped : blanks.dropWhile isBlank = [] := List.dropWhile_eq_nil_iff.mpr blank
      rw [empty, dropped]
  · exact trimEnd_append_blanks _ blank

theorem trimChars_blanks_append {blanks : List Char} (blank : ∀ c ∈ blanks, isBlank c = true)
    (s : List Char) : trimChars (blanks ++ s) = trimChars s := by
  rw [trimChars, trimChars, List.dropWhile_append_of_pos blank]

end Rulebook.Text
