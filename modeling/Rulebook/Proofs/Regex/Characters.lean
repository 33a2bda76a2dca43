import Rulebook.Proofs.Regex.Spelling

/-!
# The characters of spelled texts

An expression spells no character that is in none of its sets.  So if all its sets are within a
range of code points, all characters of the texts that it matches are, however its parts are
repeated, left out or chosen from.
-/

namespace Rulebook

/-! ## Ranges of sets -/

namespace CharSet

/-- Whether it can be seen from the ranges of a set that it is within a range itself. -/
def isWithin (low high : Nat) : CharSet → Bool
  | ranges rs => rs.all fun r => low ≤ r.1 && r.2 ≤ high
  | union a b | symmDiff a b => a.isWithin low high && b.isWithin low high
  | inter a b => a.isWithin low high || b.isWithin low high
  | diff a _ => a.isWithin low high
  | compl _ => false

theorem within_of_has {low high n : Nat} {s : CharSet} (within : s.isWithin low high = true)
    (has : s.has n = true) : low ≤ n ∧ n ≤ high := by
  induction s with
  | ranges rs =>
      obtain ⟨r, isMember, above⟩ := List.any_eq_true.mp has
      have bounds := List.all_eq_true.mp within r isMember
      simp only [Bool.and_eq_true, decide_eq_true_iff] at above bounds
      exact ⟨Nat.le_trans bounds.1 above.1, Nat.le_trans above.2 bounds.2⟩
  | union a b iha ihb =>
      obtain ⟨first, second⟩ := Bool.and_eq_true_iff.mp within
      rcases Bool.or_eq_true_iff.mp has with inFirst | inSecond
      · exact iha first inFirst
      · exact ihb second inSecond
  | symmDiff a b iha ihb =>
      obtain ⟨first, second⟩ := Bool.and_eq_true_iff.mp within
      cases inFirst : a.has n with
      | true => exact iha first inFirst
      | false =>
          rw [CharSet.has, inFirst] at has
          exact ihb second (by simpa using has)
  | inter a b iha ihb =>
      obtain ⟨inFirst, inSecond⟩ := Bool.and_eq_true_iff.mp has
      rcases Bool.or_eq_true_iff.mp within with first | second
      · exact iha first inFirst
      · exact ihb second inSecond
  | diff a b iha ihb => exact iha within (Bool.and_eq_true_iff.mp has).1
  | compl a => cases within

end CharSet

namespace Regex

/-! ## Sets of expressions -/

/-- The sets of characters in an expression. -/
def sets : Regex → List CharSet
  | empty | look _ => []
  | set s => [s]
  | seq a b | alt a b => a.sets ++ b.sets
  | repeated r _ _ | capture r => r.sets

theorem Spells.exists_mem_sets {r : Regex} {s : List Char} (spells : r.Spells s) :
    ∀ c ∈ s, ∃ members ∈ r.sets, members.mem c = true := by
  induction r generalizing s with
  | empty =>
      cases spells
      exact List.forall_mem_nil _
  | set members =>
      obtain ⟨c, isMember, rfl⟩ := spells
      exact List.forall_mem_singleton.mpr ⟨members, List.mem_singleton_self members, isMember⟩
  | look l => cases spells
  | seq a b iha ihb =>
      obtain ⟨front, back, spellsFront, spellsBack, rfl⟩ := spells
      refine List.forall_mem_append.mpr ⟨fun c isFront => ?_, fun c isBack => ?_⟩
      · obtain ⟨members, isSet, isMember⟩ := iha spellsFront c isFront
        exact ⟨members, List.mem_append_left _ isSet, isMember⟩
      · obtain ⟨members, isSet, isMember⟩ := ihb spellsBack c isBack
        exact ⟨members, List.mem_append_right _ isSet, isMember⟩
  | alt a b iha ihb =>
      intro c isChar
      rcases spells with first | second
      · obtain ⟨members, isSet, isMember⟩ := iha first c isChar
        exact ⟨members, List.mem_append_left _ isSet, isMember⟩
      · obtain ⟨members, isSet, isMember⟩ := ihb second c isChar
        exact ⟨members, List.mem_append_right _ isSet, isMember⟩
  | repeated r least most ih =>
      obtain ⟨parts, -, -, spellsEach, rfl⟩ := spells
      intro c isChar
      obtain ⟨part, isPart, isChar⟩ := List.mem_flatten.mp isChar
      exact ih (spellsEach part isPart) c isChar
  | capture r ih => exact ih spells

section

variable {low high : Nat} {r : Regex} (setsWithin : r.sets.all (·.isWithin low high) = true)

include setsWithin

theorem Spells.within {s : List Char} (spells : r.Spells s) :
    ∀ c ∈ s, low ≤ c.toNat ∧ c.toNat ≤ high := by
  intro c isChar
  obtain ⟨members, isSet, isMember⟩ := spells.exists_mem_sets c isChar
  exact CharSet.within_of_has (List.all_eq_true.mp setsWithin members isSet) isMember

/-- A whole text that is matched has characters of the range alone. -/
theorem within_of_isMatch_whole (plain : r.isPlain = true) {text : String}
    (isMatch : (whole r).isMatch text = true) :
    ∀ c ∈ text.toList, low ≤ c.toNat ∧ c.toNat ≤ high :=
  Spells.within setsWithin ((isMatchChars_whole_iff_spells plain).mp isMatch)

end

end Regex

end Rulebook
