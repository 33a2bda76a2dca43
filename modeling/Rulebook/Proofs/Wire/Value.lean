import Rulebook.Proofs.Json.Number
import Rulebook.Proofs.Table
import Rulebook.Value.Equality
import Rulebook.Wire.Value

/-!
# Values that are sent

A text cannot say that an object is a file, nor that a number has no digits.  Everything else
about a value is read back from its text, down to the order of the fields at every level.
That a number is read as the same number cannot be said of all numbers, as reading does not
always round to the nearest one; it is asked for the numbers in the value.
-/

namespace Rulebook

/-- What is left of a file that is sent. -/
def File.document (file : File) : Value :=
  .object [("name", .string file.name), ("size", .number (.ofNat file.size))]

namespace Value

/-! ## Values as they arrive -/

mutual

/-- What is left of a value that is sent. -/
def normalised : Value → Value
  | number n => if n.isFinite then number n else null
  | array items => array (normalisedItems items)
  | object fields => object (normalisedFields fields)
  | file f => f.document
  | files fs => array (fs.map File.document)
  | value => value

/-- `normalised` for every item. -/
def normalisedItems : List Value → List Value
  | [] => []
  | item :: items => normalised item :: normalisedItems items

/-- `normalised` for every field. -/
def normalisedFields : List (String × Value) → List (String × Value)
  | [] => []
  | (name, value) :: fields => (name, normalised value) :: normalisedFields fields

end

mutual

/-- A value and everything inside it. -/
def parts : Value → List Value
  | array items => array items :: partsOfItems items
  | object fields => object fields :: partsOfFields fields
  | value => [value]

/-- The parts of every item. -/
def partsOfItems : List Value → List Value
  | [] => []
  | item :: items => parts item ++ partsOfItems items

/-- The parts of every field. -/
def partsOfFields : List (String × Value) → List Value
  | [] => []
  | (_, value) :: fields => parts value ++ partsOfFields fields

end

/-- Neither files nor a number without digits. -/
def IsPlain : Value → Prop
  | number n => n.isFinite = true
  | file _ | files _ => False
  | _ => True

/-- Sizes have 64 bits, and the text of a finite number is read as that number. -/
def Sendable : Value → Prop
  | number n => n.isFinite = true → ofText? (number n).render = some (number n)
  | file f => f.size < 2 ^ 64
  | files fs => ∀ f ∈ fs, f.size < 2 ^ 64
  | _ => True

mutual

/-- Only plain values arrive as they were sent. -/
theorem normalised_eq_self_iff : ∀ value : Value,
    value.normalised = value ↔ ∀ part ∈ value.parts, part.IsPlain
  | null => by simp [normalised, parts, IsPlain]
  | bool b => by simp [normalised, parts, IsPlain]
  | number n => by
      have single : (number n).parts = [number n] := rfl
      rw [normalised, single, List.forall_mem_singleton, IsPlain]
      split <;> simp_all
  | string s => by simp [normalised, parts, IsPlain]
  | array items => by
      rw [normalised, parts, List.forall_mem_cons, array.injEq, normalisedItems_eq_self_iff items]
      simp [IsPlain]
  | object fields => by
      rw [normalised, parts, List.forall_mem_cons, object.injEq,
        normalisedFields_eq_self_iff fields]
      simp [IsPlain]
  | file f => by simp [normalised, File.document, parts, IsPlain]
  | files fs => by simp [normalised, parts, IsPlain]

theorem normalisedItems_eq_self_iff : ∀ items : List Value,
    normalisedItems items = items ↔ ∀ part ∈ partsOfItems items, part.IsPlain
  | [] => by simp [normalisedItems, partsOfItems]
  | item :: items => by
      rw [normalisedItems, partsOfItems, List.forall_mem_append, List.cons.injEq,
        normalised_eq_self_iff item, normalisedItems_eq_self_iff items]

theorem normalisedFields_eq_self_iff : ∀ fields : List (String × Value),
    normalisedFields fields = fields ↔ ∀ part ∈ partsOfFields fields, part.IsPlain
  | [] => by simp [normalisedFields, partsOfFields]
  | (name, value) :: fields => by
      rw [normalisedFields, partsOfFields, List.forall_mem_append, List.cons.injEq,
        Prod.mk.injEq, normalised_eq_self_iff value, normalisedFields_eq_self_iff fields]
      simp

end

theorem names_normalisedFields : ∀ fields : List (String × Value),
    Table.names (normalisedFields fields) = Table.names fields
  | [] => rfl
  | (name, _) :: fields => congrArg (name :: ·) (names_normalisedFields fields)

/-! ## Numbers -/

/-- The text of a number says no more than its document. -/
theorem ofText?_render_number (n : Number) : ofText? (number n).render = ofJson? n.toJson := by
  rw [ofText?, render, toJson, n.writable_toJson.parse?_render, Option.bind_eq_bind,
    Option.bind_some, n.nesting_toJson, if_pos (by decide)]

/-- Whether a finite number can be sent is settled by reading its numeral. -/
theorem sendable_number_iff {negative : Bool} {m : Magnitude} (finite : m ≠ .infinity) :
    (number (.signed negative m)).Sendable ↔
      (Number.jsonLayout.numeral negative m).scaled? = some (.signed negative m) := by
  have written :
      (Number.signed negative m).toJson = .number (Number.jsonLayout.numeral negative m) :=
    if_neg finite
  have isFinite := (Number.isFinite_signed negative).mpr finite
  rw [Sendable, ofText?_render_number, written, ofJson?]
  simp [isFinite]

/-- The number `3e+23` is read as its neighbour. -/
example : ¬(number (.signed false ⟨0x44CFC3842BD1F072, by decide⟩)).Sendable := by
  rw [sendable_number_iff (by decide)]
  decide +kernel

end Value

/-! ## Files -/

namespace File

theorem writable_toJson (file : File) : file.toJson.Writable :=
  ⟨trivial, Numeral.proper_ofNat file.size, trivial⟩

/-- The size arrives as the number nearest to it. -/
theorem ofJson?_toJson {file : File} (small : file.size < 2 ^ 64) :
    Value.ofJson? file.toJson = some file.document := by
  have distinct (name size : Value) : Table.Distinct [("name", name), ("size", size)] :=
    show ["name", "size"].Nodup by decide
  rw [toJson, Json.ofNat]
  simp only [Value.ofJson?, Value.fieldsOfJson?, Numeral.scaled?_ofNat small, Option.map_some,
    (distinct _ _).ofList_eq]
  rfl

theorem writableItems_map_toJson : ∀ files : List File, Json.WritableItems (files.map toJson)
  | [] => trivial
  | file :: files => ⟨file.writable_toJson, writableItems_map_toJson files⟩

theorem itemsOfJson?_map_toJson {files : List File} (small : ∀ file ∈ files, file.size < 2 ^ 64) :
    Value.itemsOfJson? (files.map toJson) = some (files.map document) := by
  induction files with
  | nil => rfl
  | cons file files ih =>
      rw [List.forall_mem_cons] at small
      rw [List.map_cons, Value.itemsOfJson?, ofJson?_toJson small.1, ih small.2]
      rfl

end File

namespace Value

/-! ## The document of a value -/

mutual

theorem writable_toJson : ∀ value : Value, value.toJson.Writable
  | null => trivial
  | bool _ => trivial
  | number n => n.writable_toJson
  | string _ => trivial
  | array items => writableItems_itemsToJson items
  | object fields => writableMembers_fieldsToJson fields
  | file f => f.writable_toJson
  | files fs => File.writableItems_map_toJson fs

theorem writableItems_itemsToJson : ∀ items : List Value,
    Json.WritableItems (itemsToJson items)
  | [] => trivial
  | item :: items => ⟨writable_toJson item, writableItems_itemsToJson items⟩

theorem writableMembers_fieldsToJson : ∀ fields : List (String × Value),
    Json.WritableMembers (fieldsToJson fields)
  | [] => trivial
  | (_, value) :: fields => ⟨writable_toJson value, writableMembers_fieldsToJson fields⟩

end

mutual

/-- The document of a value stands for what is left of the value. -/
theorem ofJson?_toJson : ∀ {value : Value}, value.WellFormed →
    (∀ part ∈ value.parts, part.Sendable) → ofJson? value.toJson = some value.normalised
  | null, _, _ => rfl
  | bool _, _, _ => rfl
  | number n, _, sendable => by
      have reads := List.forall_mem_singleton.mp sendable
      rw [toJson, normalised]
      split
      · next finite => rw [← ofText?_render_number, reads finite]
      · next unbounded => rw [Number.toJson_of_not_isFinite unbounded, ofJson?]
  | string _, _, _ => rfl
  | array items, wellFormed, sendable => by
      have inside := (List.forall_mem_cons.mp sendable).2
      rw [toJson, ofJson?, itemsOfJson?_itemsToJson wellFormed inside, normalised]
      rfl
  | object fields, wellFormed, sendable => by
      have inside := (List.forall_mem_cons.mp sendable).2
      have distinct : Table.Distinct (normalisedFields fields) := by
        rw [Table.Distinct, names_normalisedFields]
        exact wellFormed.1
      rw [toJson, ofJson?, fieldsOfJson?_fieldsToJson wellFormed.2 inside, normalised,
        Option.map_some, distinct.ofList_eq]
  | file f, _, sendable => by
      have small : (file f).Sendable := List.forall_mem_singleton.mp sendable
      rw [toJson, normalised, File.ofJson?_toJson small]
  | files fs, _, sendable => by
      have small : (files fs).Sendable := List.forall_mem_singleton.mp sendable
      rw [toJson, ofJson?, File.itemsOfJson?_map_toJson small, normalised]
      rfl

theorem itemsOfJson?_itemsToJson : ∀ {items : List Value}, WellFormedItems items →
    (∀ part ∈ partsOfItems items, part.Sendable) →
      itemsOfJson? (itemsToJson items) = some (normalisedItems items)
  | [], _, _ => rfl
  | item :: items, wellFormed, sendable => by
      rw [partsOfItems, List.forall_mem_append] at sendable
      rw [itemsToJson, itemsOfJson?, ofJson?_toJson wellFormed.1 sendable.1,
        itemsOfJson?_itemsToJson wellFormed.2 sendable.2]
      rfl

theorem fieldsOfJson?_fieldsToJson : ∀ {fields : List (String × Value)},
    WellFormedFields fields → (∀ part ∈ partsOfFields fields, part.Sendable) →
      fieldsOfJson? (fieldsToJson fields) = some (normalisedFields fields)
  | [], _, _ => rfl
  | (name, value) :: fields, wellFormed, sendable => by
      rw [partsOfFields, List.forall_mem_append] at sendable
      rw [fieldsToJson, fieldsOfJson?, ofJson?_toJson wellFormed.1 sendable.1,
        fieldsOfJson?_fieldsToJson wellFormed.2 sendable.2]
      rfl

end

variable {value : Value}

/-- A value arrives normalised unless it is nested too deep. -/
theorem ofText?_render_eq (wellFormed : value.WellFormed)
    (sendable : ∀ part ∈ value.parts, part.Sendable) :
    ofText? value.render =
      if value.toJson.nesting < Json.nestingLimit then some value.normalised else none := by
  rw [ofText?, render, value.writable_toJson.parse?_render, Option.bind_eq_bind, Option.bind_some,
    ofJson?_toJson wellFormed sendable]

/-- A value nested less than 128 times arrives with its files as objects and its numbers without
digits as `null`, and it arrives unchanged if there are none of these. -/
theorem ofText?_render_normalised (wellFormed : value.WellFormed)
    (sendable : ∀ part ∈ value.parts, part.Sendable) :
    ofText? value.render = (if value.toJson.nesting < 128 then some value.normalised else none) ∧
      (ofText? value.render = some value ↔
        value.toJson.nesting < 128 ∧ ∀ part ∈ value.parts, part.IsPlain) := by
  have arrives := ofText?_render_eq wellFormed sendable
  rw [Json.nestingLimit] at arrives
  refine ⟨arrives, ?_⟩
  rw [arrives, ← normalised_eq_self_iff]
  split
  · next shallow => rw [Option.some.injEq, and_iff_right shallow]
  · next deep => simp [deep]

/-- One tenth, `nan`, an infinity, the negative zero, a file of the largest size and a list of
one file. -/
theorem ofText?_render_normalised_mixed :
    let tenth : Value := number (.signed false ⟨0x3FB999999999999A, by decide⟩)
    let value : Value := object [("say \"hö\"", array [tenth, number .nan, number .infinity]),
      ("", object []), ("zero", number (.signed true .zero)),
      ("page", file ⟨"a.txt", 2 ^ 64 - 1⟩), ("pages", files [⟨"ä.png", 1⟩])]
    value.WellFormed ∧ (∀ part ∈ value.parts, part.Sendable) ∧
      ofText? value.render = some (object [("say \"hö\"", array [tenth, null, null]),
        ("", object []), ("zero", number (.signed true .zero)),
        ("page", object [("name", string "a.txt"), ("size", number (.ofNat (2 ^ 64 - 1)))]),
        ("pages", array [object [("name", string "ä.png"), ("size", number (.ofNat 1))]])]) := by
  intro tenth value
  have wellFormed : value.WellFormed :=
    ⟨show ["say \"hö\"", "", "zero", "page", "pages"].Nodup by decide,
      ⟨trivial, trivial, trivial, trivial⟩, ⟨List.nodup_nil, trivial⟩, trivial, trivial, trivial,
      trivial⟩
  have sendable : ∀ part ∈ value.parts, part.Sendable := by
    have sendsTenth : tenth.Sendable := (sendable_number_iff (by decide)).mpr (by decide +kernel)
    have sendsZero : (number (.signed true .zero)).Sendable :=
      (sendable_number_iff (by decide)).mpr (by decide +kernel)
    have sendsNaN : (number .nan).Sendable := nofun
    have sendsInfinity : (number .infinity).Sendable := nofun
    have sendsPage : (file ⟨"a.txt", 2 ^ 64 - 1⟩).Sendable := show 2 ^ 64 - 1 < 2 ^ 64 by decide
    have sendsPages : (files [⟨"ä.png", 1⟩]).Sendable :=
      List.forall_mem_singleton.mpr (show 1 < 2 ^ 64 by decide)
    have partsEq : value.parts = [value, array [tenth, number .nan, number .infinity], tenth,
      number .nan, number .infinity, object [], number (.signed true .zero),
      file ⟨"a.txt", 2 ^ 64 - 1⟩, files [⟨"ä.png", 1⟩]] := rfl
    rw [partsEq]
    simp only [List.forall_mem_cons]
    exact ⟨trivial, trivial, sendsTenth, sendsNaN, sendsInfinity, trivial, sendsZero, sendsPage,
      sendsPages, List.forall_mem_nil _⟩
  refine ⟨wellFormed, sendable, ?_⟩
  rw [(ofText?_render_normalised wellFormed sendable).1, if_pos (by decide +kernel)]
  rfl

end Value

end Rulebook
