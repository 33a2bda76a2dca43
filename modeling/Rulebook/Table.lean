/-!
# Tables

A table maps names to entries and keeps the order in which the names were first
inserted.  Inserting under a name that is there replaces its entry in place.
-/

namespace Rulebook

/-- Entries by name, in the order of first insertion. -/
abbrev Table (α : Type) := List (String × α)

namespace Table

variable {α : Type}

/-- The entry under a name. -/
def find? (table : Table α) (name : String) : Option α :=
  List.lookup name table

/-- Whether there is an entry under a name. -/
def has (table : Table α) (name : String) : Bool :=
  (table.find? name).isSome

/-- The names in order. -/
def names (table : Table α) : List String :=
  table.map Prod.fst

/-- Puts an entry under a name. -/
def insert (table : Table α) (name : String) (entry : α) : Table α :=
  match table with
  | [] => [(name, entry)]
  | (other, old) :: rest =>
      if other = name then (name, entry) :: rest else (other, old) :: insert rest name entry

/-- Inserts entries one after the other. -/
def insertAll (table : Table α) (entries : List (String × α)) : Table α :=
  entries.foldl (fun t e => t.insert e.1 e.2) table

/-- The table that inserting the entries makes. -/
def ofList (entries : List (String × α)) : Table α :=
  insertAll [] entries

/-- No name occurs twice, which holds of every table made by insertion. -/
def Distinct (table : Table α) : Prop :=
  table.names.Nodup

@[simp]
theorem names_nil : names ([] : Table α) = [] :=
  rfl

@[simp]
theorem names_cons (name : String) (entry : α) (rest : Table α) :
    names ((name, entry) :: rest) = name :: rest.names :=
  rfl

@[simp]
theorem names_append (first second : Table α) :
    names (first ++ second) = first.names ++ second.names :=
  List.map_append

@[simp]
theorem find?_nil (name : String) : find? ([] : Table α) name = none :=
  rfl

theorem find?_cons (other : String) (old : α) (rest : Table α) (name : String) :
    find? ((other, old) :: rest) name = if other = name then some old else find? rest name := by
  unfold find?
  rw [List.lookup_cons]
  split
  · next same => rw [if_pos (beq_iff_eq.1 same).symm]
  · next differ => rw [if_neg fun same => by simp [same] at differ]

theorem mem_of_find?_eq_some {table : Table α} {name : String} {entry : α}
    (found : table.find? name = some entry) : (name, entry) ∈ table := by
  induction table with
  | nil => simp at found
  | cons head rest ih =>
      obtain ⟨other, old⟩ := head
      rw [find?_cons] at found
      split at found
      · next same =>
          rw [Option.some.injEq] at found
          rw [same, found]
          exact List.mem_cons_self
      · exact List.mem_cons_of_mem _ (ih found)

@[simp]
theorem find?_insert (table : Table α) (name : String) (entry : α) (asked : String) :
    (table.insert name entry).find? asked =
      if name = asked then some entry else table.find? asked := by
  induction table with
  | nil => simp [insert, find?_cons]
  | cons head rest ih =>
      obtain ⟨other, old⟩ := head
      unfold insert
      split
      · next same =>
          subst same
          simp only [find?_cons]
          split <;> rfl
      · next differ =>
          simp only [find?_cons, ih]
          split
          · next hit =>
              subst hit
              rw [if_neg (Ne.symm differ)]
          · rfl

@[simp]
theorem names_insert (table : Table α) (name : String) (entry : α) :
    (table.insert name entry).names =
      if name ∈ table.names then table.names else table.names ++ [name] := by
  induction table with
  | nil => simp [insert, names]
  | cons head rest ih =>
      obtain ⟨other, old⟩ := head
      unfold insert
      split
      · next same => simp [names, same]
      · next differ =>
          simp only [names, List.map_cons, List.mem_cons] at ih ⊢
          rw [ih]
          simp only [Ne.symm differ, false_or]
          split <;> simp [*]

/-- A new name goes to the end. -/
theorem insert_eq_append {table : Table α} {name : String} (absent : name ∉ table.names)
    (entry : α) : table.insert name entry = table ++ [(name, entry)] := by
  induction table with
  | nil => rfl
  | cons head rest ih =>
      obtain ⟨other, old⟩ := head
      rw [names_cons, List.mem_cons, not_or] at absent
      rw [insert, if_neg (Ne.symm absent.1), ih absent.2, List.cons_append]

theorem insertAll_eq_append {table entries : Table α} (distinct : entries.Distinct)
    (absent : ∀ name ∈ entries.names, name ∉ table.names) :
    table.insertAll entries = table ++ entries := by
  induction entries generalizing table with
  | nil => exact (List.append_nil table).symm
  | cons head rest ih =>
      obtain ⟨name, entry⟩ := head
      rw [Distinct, names_cons, List.nodup_cons] at distinct
      rw [names_cons, List.forall_mem_cons] at absent
      have stillAbsent : ∀ other ∈ names rest, other ∉ names (table ++ [(name, entry)]) := by
        intro other isOther
        have differs : other ≠ name := by
          rintro rfl
          exact distinct.1 isOther
        simp [absent.2 other isOther, differs]
      calc
        table.insertAll ((name, entry) :: rest) = (table.insert name entry).insertAll rest := rfl
        _ = (table ++ [(name, entry)]).insertAll rest := by rw [insert_eq_append absent.1]
        _ = table ++ (name, entry) :: rest := by
          rw [ih distinct.2 stillAbsent, List.append_assoc, List.singleton_append]

/-- A name stands for the one entry that it comes with. -/
theorem Distinct.find?_eq_some_of_mem {table : Table α} (distinct : table.Distinct)
    {name : String} {entry : α} (isEntry : (name, entry) ∈ table) :
    table.find? name = some entry := by
  induction table with
  | nil => contradiction
  | cons head rest ih =>
      obtain ⟨other, old⟩ := head
      rw [Distinct, names_cons, List.nodup_cons] at distinct
      rw [List.mem_cons] at isEntry
      rw [find?_cons]
      rcases isEntry with isHead | isLater
      · obtain ⟨rfl, rfl⟩ := Prod.mk.inj isHead
        exact if_pos rfl
      · have differs : other ≠ name := by
          rintro rfl
          exact distinct.1 (List.mem_map_of_mem isLater)
        rw [if_neg differs]
        exact ih distinct.2 isLater

theorem Distinct.insert {table : Table α} (distinct : table.Distinct) (name : String) (entry : α) :
    (table.insert name entry).Distinct := by
  unfold Distinct at *
  rw [names_insert]
  split
  · exact distinct
  · next absent =>
      refine List.nodup_append.2 ⟨distinct, by simp, ?_⟩
      intro a ha b hb
      rw [List.mem_singleton] at hb
      rintro rfl
      exact absent (hb ▸ ha)

theorem Distinct.insertAll {table : Table α} (distinct : table.Distinct)
    (entries : List (String × α)) : (table.insertAll entries).Distinct := by
  induction entries generalizing table with
  | nil => exact distinct
  | cons entry entries ih => exact ih (distinct.insert entry.1 entry.2)

theorem Distinct.ofList (entries : List (String × α)) : (Table.ofList entries).Distinct :=
  Distinct.insertAll (by simp [Distinct, names]) entries

end Table

end Rulebook
