import Rulebook.Proofs.Value.Alike

/-!
# Other orders of fields

A value comes in another order if the fields of the objects in it are moved around
among themselves, at whatever depth.  It stays well-formed and alike, also where it
holds `nan` and is not equal to itself.
-/

namespace Rulebook.Value

/-- The second value is the first one with the fields of some objects in another order. -/
inductive Reordered : Value → Value → Prop
  | refl (value : Value) : Reordered value value
  | here {as bs : Record} (reordered : as.Perm bs) : Reordered (.object as) (.object bs)
  | field {fields : Record} {name : String} {a b : Value} (found : fields.find? name = some a)
      (inside : Reordered a b) : Reordered (.object fields) (.object (fields.insert name b))
  | item {items : List Value} {i : Nat} {a b : Value} (there : items[i]? = some a)
      (inside : Reordered a b) : Reordered (.array items) (.array (items.set i b))
  | trans {a b c : Value} (first : Reordered a b) (second : Reordered b c) : Reordered a c

namespace Twins

variable {a b : Value}

theorem here {as bs : Record} (wellFormed : (object as).WellFormed) (reordered : as.Perm bs) :
    Twins (.object as) (.object bs) := by
  have sameFields := wellFormed.1.find?_perm reordered
  refine ⟨wellFormed, ⟨wellFormed.1.perm reordered, wellFormedFields_iff.mpr ?_⟩, .object ?_ ?_⟩
  · intro entry isEntry
    exact wellFormedFields_iff.mp wellFormed.2 entry (reordered.mem_iff.mpr isEntry)
  · intro name
    rw [Table.has, Table.has, sameFields]
  · intro name a b first second
    rw [sameFields, second, Option.some.injEq] at first
    rw [first]
    exact .refl a

theorem field {fields : Record} (wellFormed : (object fields).WellFormed) {name : String}
    (found : fields.find? name = some a) (twins : Twins a b) :
    Twins (.object fields) (.object (fields.insert name b)) := by
  refine ⟨wellFormed, ⟨wellFormed.1.insert name b, wellFormedFields_iff.mpr ?_⟩, .object ?_ ?_⟩
  · intro entry isEntry
    rcases Table.mem_insert isEntry with rfl | isOld
    · exact twins.second
    · exact wellFormedFields_iff.mp wellFormed.2 entry isOld
  · intro other
    rw [Table.has, Table.has, Table.find?_insert]
    split
    · next isName => rw [← isName, found]; rfl
    · rfl
  · intro other c d first second
    rw [Table.find?_insert] at second
    split at second
    · next isName =>
        rw [← isName, found, Option.some.injEq] at first
        rw [Option.some.injEq] at second
        rw [← first, ← second]
        exact twins.alike
    · rw [first, Option.some.injEq] at second
      rw [second]
      exact .refl d

theorem item {items : List Value} (wellFormed : (array items).WellFormed) {i : Nat}
    (there : items[i]? = some a) (twins : Twins a b) :
    Twins (.array items) (.array (items.set i b)) := by
  refine ⟨wellFormed, wellFormedItems_iff.mpr ?_, .array List.length_set.symm ?_⟩
  · intro item isItem
    rcases List.mem_or_eq_of_mem_set isItem with isOld | rfl
    · exact wellFormedItems_iff.mp wellFormed item isOld
    · exact twins.second
  · intro j c d first second
    by_cases isThere : i = j
    · subst isThere
      rw [there, Option.some.injEq] at first
      have inside : i < items.length := (List.getElem?_eq_some_iff.mp there).1
      rw [List.getElem?_set_self inside, Option.some.injEq] at second
      rw [← first, ← second]
      exact twins.alike
    · rw [List.getElem?_set_ne isThere, first, Option.some.injEq] at second
      rw [second]
      exact .refl d

end Twins

/-- A well-formed value and the same value in another order of fields. -/
theorem Reordered.twins {a b : Value} (reordered : Reordered a b) (wellFormed : a.WellFormed) :
    Twins a b := by
  induction reordered with
  | refl value => exact .refl wellFormed
  | here reordered => exact .here wellFormed reordered
  | field found _ ih => exact .field wellFormed found (ih (wellFormed.field found))
  | item there _ ih => exact .item wellFormed there (ih (wellFormed.item there))
  | trans _ _ ihFirst ihSecond =>
      have left := ihFirst wellFormed
      have right := ihSecond left.second
      exact ⟨wellFormed, right.second, left.alike.trans right.alike⟩

end Rulebook.Value
