import Rulebook.Proofs.Table
import Rulebook.Proofs.Value.Akin

/-!
# Alike values

Alike values have the same content, whatever the order of fields is and whatever sign
a zero has.  Equality is likeness of values without `nan`, which is not equal to
itself.  This reduces every law of the equalities to one of likeness, which is an
equivalence on all values.
-/

namespace Rulebook.Value

/-- Induction on what is inside a value. -/
@[elab_as_elim]
theorem induct {motive : Value → Prop} (null : motive .null) (bool : ∀ b, motive (.bool b))
    (number : ∀ n, motive (.number n)) (string : ∀ s, motive (.string s))
    (array : ∀ items, (∀ item ∈ items, motive item) → motive (.array items))
    (object : ∀ fields, (∀ entry ∈ fields, motive entry.2) → motive (.object fields))
    (file : ∀ f, motive (.file f)) (files : ∀ fs, motive (.files fs)) (value : Value) :
    motive value :=
  @Value.rec motive (fun items => ∀ item ∈ items, motive item)
    (fun fields => ∀ entry ∈ fields, motive entry.2) (fun entry => motive entry.2)
    null bool number string array object file files
    (List.forall_mem_nil _) (fun _ _ head rest => List.forall_mem_cons.mpr ⟨head, rest⟩)
    (List.forall_mem_nil _) (fun _ _ head rest => List.forall_mem_cons.mpr ⟨head, rest⟩)
    (fun _ _ inside => inside) value

/-! ## Well-formed values -/

theorem wellFormedItems_iff {items : List Value} :
    WellFormedItems items ↔ ∀ item ∈ items, item.WellFormed := by
  induction items with
  | nil => simp [WellFormedItems]
  | cons item items ih => rw [WellFormedItems, ih, List.forall_mem_cons]

theorem wellFormedFields_iff {fields : Record} :
    WellFormedFields fields ↔ ∀ entry ∈ fields, entry.2.WellFormed := by
  induction fields with
  | nil => simp [WellFormedFields]
  | cons entry fields ih => rw [WellFormedFields, ih, List.forall_mem_cons]

theorem WellFormed.item {items : List Value} (wellFormed : (array items).WellFormed) {i : Nat}
    {item : Value} (there : items[i]? = some item) : item.WellFormed :=
  wellFormedItems_iff.mp wellFormed item (List.mem_of_getElem? there)

theorem WellFormed.field {fields : Record} (wellFormed : (object fields).WellFormed) {name : String}
    {value : Value} (found : fields.find? name = some value) : value.WellFormed :=
  wellFormedFields_iff.mp wellFormed.2 _ (Table.mem_of_find?_eq_some found)

/-- What a nested rule set is walked for is well-formed with the value. -/
theorem WellFormed.fields {value : Value} (wellFormed : value.WellFormed) :
    (object value.fields).WellFormed := by
  cases value with
  | object fields => exact wellFormed
  | _ => exact ⟨List.nodup_nil, trivial⟩

/-! ## Likeness -/

/-- Values with the same content. -/
inductive Alike : Value → Value → Prop
  | null : Alike .null .null
  | bool (b : Bool) : Alike (.bool b) (.bool b)
  | number {a b : Number} (sameKey : a.key? = b.key?) : Alike (.number a) (.number b)
  | string (s : String) : Alike (.string s) (.string s)
  | array {as bs : List Value} (length : as.length = bs.length)
      (items : ∀ (i : Nat) a b, as[i]? = some a → bs[i]? = some b → Alike a b) :
      Alike (.array as) (.array bs)
  | object {as bs : Record} (names : ∀ name, as.has name = bs.has name)
      (fields : ∀ name a b, as.find? name = some a → bs.find? name = some b → Alike a b) :
      Alike (.object as) (.object bs)
  | file (f : File) : Alike (.file f) (.file f)
  | files (fs : List File) : Alike (.files fs) (.files fs)

/-- A value that is `nan` or holds `nan` at some depth. -/
inductive HasNaN : Value → Prop
  | number : HasNaN (.number .nan)
  | item {items : List Value} {i : Nat} {item : Value} (there : items[i]? = some item)
      (inside : HasNaN item) : HasNaN (.array items)
  | field {fields : Record} {name : String} {value : Value} (found : fields.find? name = some value)
      (inside : HasNaN value) : HasNaN (.object fields)

/-- A position that there is in one of two lists of the same length is there in the other. -/
theorem exists_getElem?_of_length_eq {as bs : List Value} (length : as.length = bs.length) {i : Nat}
    {a : Value} (there : as[i]? = some a) : ∃ b, bs[i]? = some b := by
  have inside : i < bs.length := by
    rw [← length]
    exact (List.getElem?_eq_some_iff.mp there).1
  exact ⟨bs[i], List.getElem?_eq_getElem inside⟩

/-- A name that there is in one of two records with the same names is there in the other. -/
theorem exists_find?_of_names_eq {as bs : Record} (names : ∀ name, as.has name = bs.has name)
    {name : String} {a : Value} (found : as.find? name = some a) : ∃ b, bs.find? name = some b := by
  apply Table.exists_find?_of_has
  rw [← names]
  exact Table.has_of_find?_eq_some found

namespace Alike

variable {a b c : Value}

theorem refl (value : Value) : Alike value value := by
  induction value using induct with
  | null => exact .null
  | bool b => exact .bool b
  | number n => exact .number rfl
  | string s => exact .string s
  | array items ih =>
      apply Alike.array rfl
      intro i a b first second
      rw [first, Option.some.injEq] at second
      rw [← second]
      exact ih a (List.mem_of_getElem? first)
  | object fields ih =>
      apply Alike.object fun _ => rfl
      intro name a b first second
      rw [first, Option.some.injEq] at second
      rw [← second]
      exact ih _ (Table.mem_of_find?_eq_some first)
  | file f => exact .file f
  | files fs => exact .files fs

theorem symm (alike : Alike a b) : Alike b a := by
  induction alike with
  | null => exact .null
  | bool b => exact .bool b
  | number sameKey => exact .number sameKey.symm
  | string s => exact .string s
  | array length _ ih => exact .array length.symm fun i a b first second => ih i b a second first
  | object names _ ih =>
      exact .object (fun name => (names name).symm) fun name a b first second =>
        ih name b a second first
  | file f => exact .file f
  | files fs => exact .files fs

theorem trans (first : Alike a b) (second : Alike b c) : Alike a c := by
  induction first generalizing c with
  | null => exact second
  | bool b => exact second
  | number sameKey =>
      cases second with
      | number sameKey' => exact .number (sameKey.trans sameKey')
  | string s => exact second
  | array length _ ih =>
      cases second with
      | array length' items' =>
          apply Alike.array (length.trans length')
          intro i a c atFirst atLast
          obtain ⟨b, atMiddle⟩ := exists_getElem?_of_length_eq length atFirst
          exact ih i a b atFirst atMiddle (items' i b c atMiddle atLast)
  | object names _ ih =>
      cases second with
      | object names' fields' =>
          apply Alike.object fun name => (names name).trans (names' name)
          intro name a c inFirst inLast
          obtain ⟨b, inMiddle⟩ := exists_find?_of_names_eq names inFirst
          exact ih name a b inFirst inMiddle (fields' name b c inMiddle inLast)
  | file f => exact second
  | files fs => exact second

theorem hasNaN (alike : Alike a b) (has : HasNaN a) : HasNaN b := by
  induction has generalizing b with
  | number =>
      cases alike with
      | @number _ n sameKey =>
          rcases Number.eq_or_zeros_of_key?_eq sameKey with rfl | ⟨s, t, zeros, -⟩
          · exact .number
          · contradiction
  | item there _ ih =>
      cases alike with
      | array length items =>
          obtain ⟨other, otherThere⟩ := exists_getElem?_of_length_eq length there
          exact .item otherThere (ih (items _ _ other there otherThere))
  | field found _ ih =>
      cases alike with
      | object names fields =>
          obtain ⟨other, otherFound⟩ := exists_find?_of_names_eq names found
          exact .field otherFound (ih (fields _ _ other found otherFound))

/-- Fields of the same name in alike records. -/
theorem find? {as bs : Record} (alike : Alike (.object as) (.object bs)) (name : String) :
    Option.Rel Alike (as.find? name) (bs.find? name) := by
  cases alike with
  | object names fields =>
      cases first : as.find? name with
      | some a =>
          obtain ⟨b, second⟩ := exists_find?_of_names_eq names first
          rw [second]
          exact .some (fields name a b first second)
      | none =>
          cases second : bs.find? name with
          | some b =>
              have there := names name
              simp [Table.has, first, second] at there
          | none => exact .none

/-- What a nested rule set is walked for in alike values. -/
theorem fields (alike : Alike a b) : Alike (.object a.fields) (.object b.fields) := by
  cases alike with
  | object names fields => exact .object names fields
  | _ => exact .refl _

end Alike

/-! Alike values are akin -/

theorem itemTexts_cons (item : Value) (items : List Value) :
    itemTexts (item :: items) =
      (if item.kind = .null then "" else item.stringify) :: itemTexts items := by
  cases item <;> rfl

theorem itemTexts_congr {as bs : List Value} (length : as.length = bs.length)
    (items : ∀ (i : Nat) a b, as[i]? = some a → bs[i]? = some b → Akin a b) :
    itemTexts as = itemTexts bs := by
  induction as generalizing bs with
  | nil => rw [List.length_eq_zero_iff.mp length.symm]
  | cons a as ih =>
      cases bs with
      | nil => contradiction
      | cons b bs =>
          have head : Akin a b := items 0 a b rfl rfl
          have rest : itemTexts as = itemTexts bs :=
            ih (Nat.succ.inj length) fun i => items (i + 1)
          rw [itemTexts_cons, itemTexts_cons, head.kind_eq, head.stringify_eq, rest]

theorem Alike.akin {a b : Value} (alike : Alike a b) : Akin a b := by
  induction alike with
  | number sameKey => exact .number sameKey
  | array length _ ih => exact .array (itemTexts_congr length ih)
  | @object as bs => exact .object as bs
  | _ => exact .refl _

/-! ## Equality -/

theorem sameItems_iff {as bs : List Value} :
    sameItems as bs = true ↔
      as.length = bs.length ∧
        ∀ (i : Nat) a b, as[i]? = some a → bs[i]? = some b → same a b = true := by
  induction as generalizing bs with
  | nil => cases bs <;> simp [sameItems]
  | cons a as ih =>
      cases bs with
      | nil => simp [sameItems]
      | cons b bs =>
          rw [sameItems, Bool.and_eq_true, ih]
          constructor
          · rintro ⟨head, length, rest⟩
            refine ⟨congrArg (· + 1) length, fun i c d first second => ?_⟩
            cases i with
            | zero =>
                obtain rfl := Option.some.inj first
                obtain rfl := Option.some.inj second
                exact head
            | succ i => exact rest i c d first second
          · rintro ⟨length, items⟩
            exact ⟨items 0 a b rfl rfl, Nat.succ.inj length, fun i => items (i + 1)⟩

theorem sameFields_cons (name : String) (a : Value) (as bs : Record) :
    sameFields ((name, a) :: as) bs = ((bs.find? name).any (same a) && sameFields as bs) := by
  rw [sameFields, Table.find?]
  cases List.lookup name bs <;> rfl

theorem sameFields_iff {as bs : Record} :
    sameFields as bs = true ↔
      ∀ name a, (name, a) ∈ as → ∃ b, bs.find? name = some b ∧ same a b = true := by
  induction as with
  | nil => simp [sameFields]
  | cons entry as ih =>
      obtain ⟨name, a⟩ := entry
      rw [sameFields_cons, Bool.and_eq_true, Option.any_eq_true, ih]
      constructor
      · rintro ⟨head, rest⟩ other c isEntry
        rcases List.mem_cons.mp isEntry with isHead | later
        · obtain ⟨rfl, rfl⟩ := Prod.mk.inj isHead
          exact head
        · exact rest other c later
      · intro fields
        exact ⟨fields name a List.mem_cons_self, fun other c later =>
          fields other c (List.mem_cons_of_mem _ later)⟩

theorem same_object_iff {as bs : Record} (distinctFirst : as.Distinct)
    (distinctSecond : bs.Distinct) :
    same (object as) (object bs) = true ↔
      (∀ name, as.has name = bs.has name) ∧
        ∀ name a b, as.find? name = some a → bs.find? name = some b → same a b = true := by
  rw [same, Bool.and_eq_true, beq_iff_eq, sameFields_iff]
  constructor
  · rintro ⟨length, fields⟩
    have subset : as.names ⊆ bs.names := by
      intro name isName
      obtain ⟨⟨_, a⟩, isEntry, rfl⟩ := List.mem_map.mp isName
      obtain ⟨b, found, -⟩ := fields _ a isEntry
      exact Table.has_iff_mem_names.mp (Table.has_of_find?_eq_some found)
    refine ⟨distinctFirst.has_eq_of_subset length subset, fun name a b first second => ?_⟩
    obtain ⟨other, found, equal⟩ := fields name a (Table.mem_of_find?_eq_some first)
    rw [found, Option.some.injEq] at second
    rwa [← second]
  · rintro ⟨names, fields⟩
    refine ⟨distinctFirst.length_eq_of_has distinctSecond names, fun name a isEntry => ?_⟩
    have first := distinctFirst.find?_eq_some_of_mem isEntry
    obtain ⟨b, second⟩ := exists_find?_of_names_eq names first
    exact ⟨b, second, fields name a b first second⟩

/-- Equal values are alike. -/
theorem alike_of_same {a b : Value} (first : a.WellFormed) (second : b.WellFormed)
    (equal : same a b = true) : Alike a b := by
  induction a using induct generalizing b with
  | null =>
      cases b with
      | null => exact .null
      | _ => simp [same] at equal
  | bool x =>
      cases b with
      | bool y =>
          rw [same, beq_iff_eq] at equal
          rw [equal]
          exact .bool y
      | _ => simp [same] at equal
  | number m =>
      cases b with
      | number n =>
          obtain ⟨k, mKey, nKey⟩ := Number.eq_iff_key?.mp equal
          exact .number (mKey.trans nKey.symm)
      | _ => simp [same] at equal
  | string s =>
      cases b with
      | string t =>
          rw [same, beq_iff_eq] at equal
          rw [equal]
          exact .string t
      | _ => simp [same] at equal
  | array as ih =>
      cases b with
      | array bs =>
          rw [same, sameItems_iff] at equal
          obtain ⟨length, items⟩ := equal
          apply Alike.array length
          intro i a b atFirst atSecond
          exact ih a (List.mem_of_getElem? atFirst) (first.item atFirst) (second.item atSecond)
            (items i a b atFirst atSecond)
      | _ => simp [same] at equal
  | object as ih =>
      cases b with
      | object bs =>
          rw [same_object_iff first.1 second.1] at equal
          obtain ⟨names, fields⟩ := equal
          apply Alike.object names
          intro name a b inFirst inSecond
          exact ih _ (Table.mem_of_find?_eq_some inFirst) (first.field inFirst)
            (second.field inSecond) (fields name a b inFirst inSecond)
      | _ => simp [same] at equal
  | file f =>
      cases b with
      | file g =>
          rw [same, beq_iff_eq] at equal
          rw [equal]
          exact .file g
      | _ => simp [same] at equal
  | files fs =>
      cases b with
      | files gs =>
          rw [same, beq_iff_eq] at equal
          rw [equal]
          exact .files gs
      | _ => simp [same] at equal

/-- A value with `nan` is equal to nothing. -/
theorem HasNaN.same_eq_false {a : Value} (has : HasNaN a) (b : Value) : same a b = false := by
  rw [Bool.eq_false_iff]
  intro equal
  induction has generalizing b with
  | number => cases b <;> simp [same] at equal
  | item there _ ih =>
      cases b with
      | array bs =>
          rw [same, sameItems_iff] at equal
          obtain ⟨length, items⟩ := equal
          obtain ⟨other, otherThere⟩ := exists_getElem?_of_length_eq length there
          exact ih other (items _ _ other there otherThere)
      | _ => simp [same] at equal
  | field found _ ih =>
      cases b with
      | object bs =>
          rw [same, Bool.and_eq_true, sameFields_iff] at equal
          obtain ⟨other, -, equal⟩ := equal.2 _ _ (Table.mem_of_find?_eq_some found)
          exact ih other equal
      | _ => simp [same] at equal

/-- Alike values without `nan` are equal. -/
theorem Alike.same {a b : Value} (alike : Alike a b) (first : a.WellFormed) (second : b.WellFormed)
    (noNaN : ¬HasNaN a) : a.same b = true := by
  induction alike with
  | null => rfl
  | bool b => simp [Value.same]
  | @number m n sameKey =>
      rw [Value.same, Number.eq_iff_key?]
      cases key : m.key? with
      | some k => exact ⟨k, rfl, sameKey.symm.trans key⟩
      | none =>
          cases m with
          | nan => exact absurd .number noNaN
          | signed s _ => cases s <;> contradiction
  | string s => simp [Value.same]
  | array length _ ih =>
      rw [Value.same, sameItems_iff]
      refine ⟨length, fun i a b atFirst atSecond => ?_⟩
      exact ih i a b atFirst atSecond (first.item atFirst) (second.item atSecond) fun inside =>
        noNaN (.item atFirst inside)
  | object names _ ih =>
      rw [same_object_iff first.1 second.1]
      refine ⟨names, fun name a b inFirst inSecond => ?_⟩
      exact ih name a b inFirst inSecond (first.field inFirst) (second.field inSecond) fun inside =>
        noNaN (.field inFirst inside)
  | file f => simp [Value.same]
  | files fs => simp [Value.same]

section

variable {a b c d : Value}

/-- Equality is likeness without `nan`. -/
theorem same_iff_alike (first : a.WellFormed) (second : b.WellFormed) :
    same a b = true ↔ Alike a b ∧ ¬HasNaN a := by
  constructor
  · intro equal
    refine ⟨alike_of_same first second equal, fun has => ?_⟩
    rw [has.same_eq_false] at equal
    contradiction
  · rintro ⟨alike, noNaN⟩
    exact alike.same first second noNaN

theorem same_comm_of_wellFormed (first : a.WellFormed) (second : b.WellFormed) :
    same a b = same b a := by
  have halves : ∀ {x y : Value}, x.WellFormed → y.WellFormed → same x y = true →
      same y x = true := by
    intro x y first second equal
    obtain ⟨alike, noNaN⟩ := (same_iff_alike first second).mp equal
    exact alike.symm.same second first fun has => noNaN (alike.symm.hasNaN has)
  rw [Bool.eq_iff_iff]
  exact ⟨halves first second, halves second first⟩

theorem strictEq_eq_same (a b : Value) : strictEq a b = same a b := by
  unfold strictEq
  split <;> rfl

/-- Alike values are equal to the same values. -/
theorem Alike.same_eq (alike : Alike a b) (first : a.WellFormed) (second : b.WellFormed)
    (other : c.WellFormed) : a.same c = b.same c := by
  have halves : ∀ {x y : Value}, Alike x y → x.WellFormed → y.WellFormed →
      x.same c = true → y.same c = true := by
    intro x y alike first second equal
    obtain ⟨likeOther, noNaN⟩ := (same_iff_alike first other).mp equal
    exact (alike.symm.trans likeOther).same second other fun has => noNaN (alike.symm.hasNaN has)
  rw [Bool.eq_iff_iff]
  exact ⟨halves alike first second, halves alike.symm second first⟩

/-! ## Loose equality -/

theorem looseEq_comm_of_wellFormed (first : a.WellFormed) (second : b.WellFormed) :
    looseEq a b = looseEq b a := by
  have strict : strictEq a b = strictEq b a := by
    rw [strictEq_eq_same, strictEq_eq_same, same_comm_of_wellFormed first second]
  -- The arms of the loose equality mirror each other, but where it is the strict one.
  cases a <;> cases b <;> first | rfl | exact strict

theorem looseEqNumber_congr {m n : Number} (sameKey : m.key? = n.key?) (value : Value) :
    looseEqNumber m value = looseEqNumber n value := by
  cases value with
  | number | bool => exact Number.eq_congr_left sameKey _
  | string => exact Number.eq_congr_right sameKey _
  | _ => rfl

/-- Alike values are loosely equal to the same values. -/
theorem Alike.looseEq_eq (alike : Alike a b) (first : a.WellFormed) (second : b.WellFormed)
    (other : c.WellFormed) : a.looseEq c = b.looseEq c := by
  have strict : a.strictEq c = b.strictEq c := by
    rw [strictEq_eq_same, strictEq_eq_same, alike.same_eq first second other]
  have texts := alike.akin.stringify_eq
  cases alike with
  | number sameKey =>
      have numbers := looseEqNumber_congr sameKey c
      cases c with
      | null => rfl
      | _ => exact numbers
  | array | object =>
      cases c with
      | null | bool | number => rfl
      | string s => exact congrArg (· == s) texts
      | _ => exact strict
  | _ => rfl

end

/-! ## Twins -/

/-- Well-formed values that are alike. -/
structure Twins (a b : Value) : Prop where
  first : a.WellFormed
  second : b.WellFormed
  alike : Alike a b

namespace Twins

theorem refl {value : Value} (wellFormed : value.WellFormed) : Twins value value :=
  ⟨wellFormed, wellFormed, .refl value⟩

/-- Fields of the same name in twin records. -/
theorem find? {as bs : Record} (twins : Twins (.object as) (.object bs)) (name : String) :
    Option.Rel Twins (as.find? name) (bs.find? name) := by
  have fields := twins.alike.find? name
  cases first : as.find? name with
  | none =>
      rw [first] at fields
      cases second : bs.find? name with
      | none => exact .none
      | some b => simp [second] at fields
  | some a =>
      rw [first] at fields
      cases second : bs.find? name with
      | none => simp [second] at fields
      | some b =>
          rw [second, Option.rel_some_some] at fields
          exact .some ⟨twins.first.field first, twins.second.field second, fields⟩

variable {a b c d : Value} (left : Twins a b)

include left

/-- What a nested rule set is walked for in twins. -/
theorem fields : Twins (.object a.fields) (.object b.fields) :=
  ⟨left.first.fields, left.second.fields, left.alike.fields⟩

variable (right : Twins c d)

include right

theorem strictEq_congr : a.strictEq c = b.strictEq d := by
  calc
    a.strictEq c = a.same c := strictEq_eq_same a c
    _ = b.same c := left.alike.same_eq left.first left.second right.first
    _ = c.same b := same_comm_of_wellFormed left.second right.first
    _ = d.same b := right.alike.same_eq right.first right.second left.second
    _ = b.same d := same_comm_of_wellFormed right.second left.second
    _ = b.strictEq d := (strictEq_eq_same b d).symm

theorem looseEq_congr : a.looseEq c = b.looseEq d := by
  calc
    a.looseEq c = b.looseEq c := left.alike.looseEq_eq left.first left.second right.first
    _ = c.looseEq b := looseEq_comm_of_wellFormed left.second right.first
    _ = d.looseEq b := right.alike.looseEq_eq right.first right.second left.second
    _ = b.looseEq d := looseEq_comm_of_wellFormed right.second left.second

end Twins

end Rulebook.Value
