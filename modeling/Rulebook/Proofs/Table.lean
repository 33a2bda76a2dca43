import Mathlib.Data.List.Perm.Subperm
import Rulebook.Table

/-!
# Tables as finite maps

All that a table of distinct names says is in what it has under each name, so the
order of its entries does not count.  Such a table has the same names as another one
of the same length if the other one has all of them.
-/

namespace Rulebook.Table

variable {α β : Type}

theorem has_iff_mem_names {table : Table α} {name : String} :
    table.has name = true ↔ name ∈ table.names := by
  induction table with
  | nil => simp [has]
  | cons head rest ih =>
      obtain ⟨other, old⟩ := head
      rw [has] at ih ⊢
      rw [find?_cons, names_cons, List.mem_cons, ← ih]
      by_cases same : other = name
      · simp [same]
      · simp [same, Ne.symm same]

theorem has_of_find?_eq_some {table : Table α} {name : String} {entry : α}
    (found : table.find? name = some entry) : table.has name = true := by
  rw [has, found]
  rfl

theorem exists_find?_of_has {table : Table α} {name : String} (there : table.has name = true) :
    ∃ entry, table.find? name = some entry :=
  Option.isSome_iff_exists.mp there

theorem mem_insert {table : Table α} {name : String} {entry : α} {other : String × α}
    (isEntry : other ∈ table.insert name entry) : other = (name, entry) ∨ other ∈ table := by
  induction table with
  | nil => exact .inl (List.mem_singleton.mp isEntry)
  | cons head rest ih =>
      obtain ⟨first, old⟩ := head
      rw [insert] at isEntry
      split at isEntry
      · rcases List.mem_cons.mp isEntry with rfl | later
        · exact .inl rfl
        · exact .inr (List.mem_cons_of_mem _ later)
      · rcases List.mem_cons.mp isEntry with rfl | later
        · exact .inr List.mem_cons_self
        · exact (ih later).imp_right (List.mem_cons_of_mem _)

theorem find?_filter {table : Table α} {keep : String → Bool} {name : String}
    (kept : keep name = true) :
    find? (α := α) (table.filter fun entry => keep entry.1) name = table.find? name := by
  induction table with
  | nil => rfl
  | cons entry table ih =>
      obtain ⟨other, old⟩ := entry
      rw [List.filter_cons]
      by_cases same : other = name
      · rw [if_pos (same ▸ kept), find?_cons, find?_cons, if_pos same, if_pos same]
      · split
        · rw [find?_cons, find?_cons, if_neg same, if_neg same, ih]
        · rw [find?_cons, if_neg same, ih]

/-- Inserting entries of distinct names leaves them as they are. -/
theorem Distinct.ofList_eq {entries : Table α} (distinct : entries.Distinct) :
    Table.ofList entries = entries :=
  insertAll_eq_append distinct fun _ _ => List.not_mem_nil

namespace Distinct

variable {as bs : Table α} {name : String}

theorem find?_eq_some_iff (distinct : as.Distinct) {entry : α} :
    as.find? name = some entry ↔ (name, entry) ∈ as :=
  ⟨mem_of_find?_eq_some, distinct.find?_eq_some_of_mem⟩

theorem perm (distinct : as.Distinct) (reordered : as.Perm bs) : bs.Distinct :=
  (reordered.map Prod.fst).nodup_iff.mp distinct

theorem find?_perm (distinct : as.Distinct) (reordered : as.Perm bs) (name : String) :
    as.find? name = bs.find? name := by
  apply Option.ext
  intro entry
  rw [distinct.find?_eq_some_iff, (distinct.perm reordered).find?_eq_some_iff]
  exact reordered.mem_iff

/-- Names that are all in a table of the same length are all of its names. -/
theorem has_eq_of_subset {bs : Table β} (distinct : as.Distinct) (length : as.length = bs.length)
    (subset : as.names ⊆ bs.names) (name : String) : as.has name = bs.has name := by
  have lengths : bs.names.length = as.names.length := by
    rw [names, names, List.length_map, List.length_map, length]
  have reordered : as.names.Perm bs.names :=
    (List.Nodup.subperm distinct subset).perm_of_length_le (Nat.le_of_eq lengths)
  rw [Bool.eq_iff_iff, has_iff_mem_names, has_iff_mem_names]
  exact reordered.mem_iff

/-- Tables with the same names have the same length. -/
theorem length_eq_of_has {bs : Table β} (distinctFirst : as.Distinct)
    (distinctSecond : bs.Distinct) (names : ∀ name, as.has name = bs.has name) :
    as.length = bs.length := by
  have reordered : as.names.Perm bs.names := by
    apply (List.perm_ext_iff_of_nodup distinctFirst distinctSecond).mpr
    intro name
    rw [← has_iff_mem_names, ← has_iff_mem_names, names]
  have lengths := reordered.length_eq
  rwa [Table.names, Table.names, List.length_map, List.length_map] at lengths

end Distinct

end Rulebook.Table
