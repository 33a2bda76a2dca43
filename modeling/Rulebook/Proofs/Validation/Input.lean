import Rulebook.Proofs.Wire.Value
import Rulebook.Regex.Compile
import Rulebook.Validator

/-!
# Ways of input

A record comes as it is, as a document or as a text.  Whichever way it takes, the outcome is
the same, and input that is no record has an outcome of one reject that no rule and no option
has a part in.

A text is read as a document in which every object has one member of each name.  So the reader
of texts settles repeated names before anyone looks at the document, and the reader of values,
which settles them by itself, finds the same value in it.
-/

namespace Rulebook

namespace Json

/-! ## Documents as they are read -/

mutual

/-- Whether a document holds data only: no garbled string and no number out of range. -/
def isData : Json → Bool
  | number n => n.scaled?.isSome
  | array items => isDataItems items
  | object members => isDataMembers members
  | garbled => false
  | _ => true

/-- `isData` for every item. -/
def isDataItems : List Json → Bool
  | [] => true
  | item :: items => isData item && isDataItems items

/-- `isData` for every member. -/
def isDataMembers : List (String × Json) → Bool
  | [] => true
  | (_, item) :: members => isData item && isDataMembers members

end

mutual

/-- The document in which every object has one member of each name, the last one, at the place
of the first. -/
def settled : Json → Json
  | array items => array (settledItems items)
  | object members => object (Table.ofList (settledMembers members))
  | json => json

/-- `settled` for every item. -/
def settledItems : List Json → List Json
  | [] => []
  | item :: items => settled item :: settledItems items

/-- `settled` for every member. -/
def settledMembers : List (String × Json) → List (String × Json)
  | [] => []
  | (name, item) :: members => (name, settled item) :: settledMembers members

end

/-- The document that a text is read as. -/
def read? (text : String) : Option Json := do
  let json ← parse? text
  if json.nesting < nestingLimit && json.isData then some json.settled else none

theorem kindName_settled (json : Json) : json.settled.kindName = json.kindName := by
  cases json <;> rfl

end Json

namespace Value

mutual

/-- Just the documents of data stand for values. -/
theorem isSome_ofJson? : ∀ json : Json, (ofJson? json).isSome = json.isData
  | .null => rfl
  | .bool _ => rfl
  | .number n => by rw [ofJson?, Option.isSome_map, Json.isData]
  | .string _ => rfl
  | .array items => by rw [ofJson?, Option.isSome_map, isSome_itemsOfJson? items, Json.isData]
  | .object members => by
      rw [ofJson?, Option.isSome_map, isSome_fieldsOfJson? members, Json.isData]
  | .garbled => rfl

theorem isSome_itemsOfJson? : ∀ items : List Json,
    (itemsOfJson? items).isSome = Json.isDataItems items
  | [] => rfl
  | item :: items => by
      rw [itemsOfJson?, Json.isDataItems, ← isSome_ofJson? item, ← isSome_itemsOfJson? items]
      cases ofJson? item <;> simp

theorem isSome_fieldsOfJson? : ∀ members : List (String × Json),
    (fieldsOfJson? members).isSome = Json.isDataMembers members
  | [] => rfl
  | (name, item) :: members => by
      rw [fieldsOfJson?, Json.isDataMembers, ← isSome_ofJson? item,
        ← isSome_fieldsOfJson? members]
      cases ofJson? item <;> simp

end

/-! ## Repeated names -/

section

variable {members : List (String × Json)} {fields : List (String × Value)}

theorem fieldsOfJson?_cons_eq_some_iff {name : String} {json : Json} :
    fieldsOfJson? ((name, json) :: members) = some fields ↔
      ∃ value rest, ofJson? json = some value ∧ fieldsOfJson? members = some rest ∧
        fields = (name, value) :: rest := by
  rw [fieldsOfJson?]
  cases ofJson? json with
  | none => simp
  | some value => simp [eq_comm]

theorem itemsOfJson?_cons_eq_some_iff {json : Json} {items : List Json} {values : List Value} :
    itemsOfJson? (json :: items) = some values ↔
      ∃ value rest, ofJson? json = some value ∧ itemsOfJson? items = some rest ∧
        values = value :: rest := by
  rw [itemsOfJson?]
  cases ofJson? json with
  | none => simp
  | some value => simp [eq_comm]

/-- A member that is put into an object is put into the record that it stands for. -/
theorem fieldsOfJson?_insert (stand : fieldsOfJson? members = some fields) {json : Json}
    {value : Value} (stands : ofJson? json = some value) (name : String) :
    fieldsOfJson? (Table.insert members name json) = some (Table.insert fields name value) := by
  induction members generalizing fields with
  | nil =>
      cases stand
      exact fieldsOfJson?_cons_eq_some_iff.mpr ⟨value, [], stands, rfl, rfl⟩
  | cons member members ih =>
      obtain ⟨other, old⟩ := member
      obtain ⟨oldValue, rest, oldStands, restStand, rfl⟩ :=
        fieldsOfJson?_cons_eq_some_iff.mp stand
      rw [Table.insert, Table.insert]
      split
      · exact fieldsOfJson?_cons_eq_some_iff.mpr ⟨value, rest, stands, restStand, rfl⟩
      · exact fieldsOfJson?_cons_eq_some_iff.mpr ⟨oldValue, _, oldStands, ih restStand, rfl⟩

theorem fieldsOfJson?_insertAll {more : List (String × Json)} {moreFields : List (String × Value)}
    (stand : fieldsOfJson? members = some fields)
    (standMore : fieldsOfJson? more = some moreFields) :
    fieldsOfJson? (Table.insertAll members more) = some (Table.insertAll fields moreFields) := by
  induction more generalizing members fields moreFields with
  | nil =>
      cases standMore
      exact stand
  | cons member more ih =>
      obtain ⟨name, json⟩ := member
      obtain ⟨value, rest, stands, restStand, rfl⟩ := fieldsOfJson?_cons_eq_some_iff.mp standMore
      change fieldsOfJson? (Table.insertAll (Table.insert members name json) more) =
        some (Table.insertAll (Table.insert fields name value) rest)
      exact ih (fieldsOfJson?_insert stand stands name) restStand

end

mutual

/-- A document stands for the same value when its repeated names are settled. -/
theorem ofJson?_settled : ∀ {json : Json} {value : Value},
    ofJson? json = some value → ofJson? json.settled = some value
  | .null, _, stands | .bool _, _, stands | .number _, _, stands | .string _, _, stands => stands
  | .array items, value, stands => by
      rw [ofJson?] at stands
      obtain ⟨values, stand, rfl⟩ := Option.map_eq_some_iff.mp stands
      rw [Json.settled, ofJson?, itemsOfJson?_settledItems stand]
      rfl
  | .object members, value, stands => by
      rw [ofJson?] at stands
      obtain ⟨fields, stand, rfl⟩ := Option.map_eq_some_iff.mp stands
      have nothing : fieldsOfJson? [] = some [] := rfl
      have inserted := fieldsOfJson?_insertAll nothing (fieldsOfJson?_settledMembers stand)
      have distinct : (Table.ofList fields).Distinct := .ofList fields
      rw [Json.settled, ofJson?, Table.ofList, inserted]
      exact congrArg (some ∘ object) distinct.ofList_eq
  | .garbled, _, stands => stands

theorem itemsOfJson?_settledItems : ∀ {items : List Json} {values : List Value},
    itemsOfJson? items = some values → itemsOfJson? (Json.settledItems items) = some values
  | [], _, stand => stand
  | item :: items, values, stand => by
      obtain ⟨value, rest, stands, restStand, rfl⟩ := itemsOfJson?_cons_eq_some_iff.mp stand
      exact itemsOfJson?_cons_eq_some_iff.mpr ⟨value, rest, ofJson?_settled stands,
        itemsOfJson?_settledItems restStand, rfl⟩

theorem fieldsOfJson?_settledMembers : ∀ {members : List (String × Json)}
    {fields : List (String × Value)}, fieldsOfJson? members = some fields →
      fieldsOfJson? (Json.settledMembers members) = some fields
  | [], _, stand => stand
  | (name, item) :: members, fields, stand => by
      obtain ⟨value, rest, stands, restStand, rfl⟩ := fieldsOfJson?_cons_eq_some_iff.mp stand
      exact fieldsOfJson?_cons_eq_some_iff.mpr ⟨value, rest, ofJson?_settled stands,
        fieldsOfJson?_settledMembers restStand, rfl⟩

end

end Value

/-! ## Records -/

namespace Record

section

variable {because : String}

/-- An object of data stands for a record. -/
theorem exists_ofJson?_object {members : List (String × Json)}
    (isData : (Json.object members).isData = true) :
    ∃ record, ofJson? because (.object members) = .ok record := by
  rw [← Value.isSome_ofJson?, Value.ofJson?, Option.isSome_map] at isData
  obtain ⟨fields, stand⟩ := Option.isSome_iff_exists.mp isData
  refine ⟨Table.ofList fields, ?_⟩
  rw [ofJson?, Value.ofJson?, stand]
  rfl

/-- Data of any other kind is no record. -/
theorem ofJson?_of_ne_object {json : Json} (isData : json.isData = true)
    (differs : ∀ members, json ≠ .object members) :
    ofJson? because json = .error (.notAnObject json.kindName) := by
  cases json with
  | object members => exact absurd rfl (differs members)
  | garbled => cases isData
  | null | bool _ | string _ => rfl
  | number n =>
      obtain ⟨value, scaled⟩ := Option.isSome_iff_exists.mp isData
      rw [ofJson?, Value.ofJson?, scaled]
      rfl
  | array items =>
      rw [Json.isData, ← Value.isSome_itemsOfJson?] at isData
      obtain ⟨values, stand⟩ := Option.isSome_iff_exists.mp isData
      rw [ofJson?, Value.ofJson?, stand]
      rfl

theorem ofJson?_settled {json : Json} (isData : json.isData = true) :
    ofJson? because json.settled = ofJson? because json := by
  rw [← Value.isSome_ofJson?] at isData
  obtain ⟨value, stands⟩ := Option.isSome_iff_exists.mp isData
  rw [ofJson?, ofJson?, stands, Value.ofJson?_settled stands, Json.kindName_settled]

end

variable {reason : String → String} {text : String}

/-- The record of a text is that of the document that the text is read as. -/
theorem ofText?_of_read? {json : Json} (read : Json.read? text = some json) :
    ofText? reason text = ofJson? (reason text) json ∧ json.isData = true := by
  rw [Json.read?, Option.bind_eq_bind, Option.bind_eq_some_iff] at read
  obtain ⟨tree, parsed, isRead⟩ := read
  rw [Option.ite_none_right_eq_some, Bool.and_eq_true, decide_eq_true_eq] at isRead
  obtain ⟨⟨shallow, isData⟩, settledEq⟩ := isRead
  obtain rfl := Option.some.inj settledEq
  have stands := isData
  rw [← Value.isSome_ofJson?] at stands
  obtain ⟨value, stands⟩ := Option.isSome_iff_exists.mp stands
  constructor
  · rw [ofText?, parsed, ofJson?_settled isData]
    exact if_pos shallow
  · rw [← Value.isSome_ofJson?, Value.ofJson?_settled stands]
    rfl

theorem ofText?_of_unread (unread : Json.read? text = none) :
    ofText? reason text = .error (.invalidJson (reason text)) := by
  rw [Json.read?] at unread
  rw [ofText?]
  cases parsed : Json.parse? text with
  | none => rfl
  | some tree =>
      rw [parsed, Option.bind_eq_bind, Option.bind_some] at unread
      change (if tree.nesting < Json.nestingLimit then ofJson? (reason text) tree
        else .error (.invalidJson (reason text))) = _
      split
      · next shallow =>
          have noData : tree.isData = false := by simpa [shallow] using unread
          rw [← Value.isSome_ofJson?, Option.isSome_eq_false_iff, Option.isNone_iff_eq_none]
            at noData
          rw [ofJson?, noData]
      · rfl

/-- A text that is read as a record value is read as the record. -/
theorem ofText?_of_value {record : Record} (read : Value.ofText? text = some (.object record)) :
    ofText? reason text = .ok record := by
  rw [Value.ofText?, Option.bind_eq_bind, Option.bind_eq_some_iff] at read
  obtain ⟨tree, parsed, isRead⟩ := read
  rw [Option.ite_none_right_eq_some] at isRead
  obtain ⟨shallow, stands⟩ := isRead
  rw [ofText?, parsed]
  change (if tree.nesting < Json.nestingLimit then ofJson? (reason text) tree
    else .error (.invalidJson (reason text))) = _
  rw [if_pos shallow, ofJson?, stands]

end Record

namespace Validator

/-- Data is validated as the record that it stands for, if it stands for one. -/
theorem validateJson_eq (compile : PatternSource) (because : String) (validator : Validator)
    {json : Json} (isData : json.isData = true) (rules : RuleSet) :
    validator.validateJson compile json rules =
      validator.validateInput compile (Record.ofJson? because json) rules := by
  rw [← Value.isSome_ofJson?] at isData
  obtain ⟨value, stands⟩ := Option.isSome_iff_exists.mp isData
  rw [validateJson, Record.ofJson?, stands]
  cases value <;> rfl

/-- All ways of input agree, whatever compiles the patterns and whatever reason is given for texts
that cannot be read.  A text that is read as a document is validated as the document, and an
object in it as the record that is read from the text.  Any other document, and any other text, is
refused with one reject, whatever the validator and the rules are.  A record of plain values
nested less than 128 times is validated by its text as it is. -/
theorem validateText_agrees (compile : PatternSource) (reason : String → String) :
    (∀ text json, Json.read? text = some json →
      (∀ (validator : Validator) (rules : RuleSet),
        validator.validateText compile reason text rules =
          validator.validateJson compile json rules) ∧
      (∀ members, json = .object members → ∃ record, Record.ofText? reason text = .ok record ∧
        ∀ (validator : Validator) (rules : RuleSet),
          validator.validateText compile reason text rules =
            validator.validate compile record rules) ∧
      ((∀ members, json ≠ .object members) → ∀ (validator : Validator) (rules : RuleSet),
        validator.validateText compile reason text rules =
          ⟨.failed, [⟨"", "", "invalid_input", [],
            some ("Invalid input: expected a JSON object, got " ++ json.kindName)⟩]⟩)) ∧
    (∀ text, Json.read? text = none → ∀ (validator : Validator) (rules : RuleSet),
      validator.validateText compile reason text rules = ⟨.failed, [⟨"", "", "invalid_input", [],
        some ("Invalid JSON string: " ++ reason text)⟩]⟩) ∧
    (∀ record, (Value.object record).WellFormed →
      (∀ part ∈ (Value.object record).parts, part.IsPlain ∧ part.Sendable) →
      (Value.object record).toJson.nesting < 128 → ∀ (validator : Validator) (rules : RuleSet),
        validator.validateText compile reason (Value.object record).render rules =
          validator.validate compile record rules) := by
  refine ⟨fun text json read => ?_, fun text unread validator rules => ?_,
    fun record wellFormed plain shallow validator rules => ?_⟩
  · obtain ⟨sameRecord, isData⟩ := Record.ofText?_of_read? read
    refine ⟨fun validator rules => ?_, ?_, fun differs validator rules => ?_⟩
    · rw [validateText, sameRecord, validateJson_eq _ _ _ isData]
    · rintro members rfl
      obtain ⟨record, stands⟩ := Record.exists_ofJson?_object isData
      refine ⟨record, sameRecord.trans stands, fun validator rules => ?_⟩
      rw [validateText, sameRecord, stands]
      rfl
    · rw [validateText, sameRecord, Record.ofJson?_of_ne_object isData differs]
      rfl
  · rw [validateText, Record.ofText?_of_unread unread]
    rfl
  · have same : (Value.object record).normalised = .object record :=
      (Value.normalised_eq_self_iff _).mpr fun part isPart => (plain part isPart).1
    have sendable : ∀ part ∈ (Value.object record).parts, part.Sendable :=
      fun part isPart => (plain part isPart).2
    have arrives : Value.ofText? (Value.object record).render = some (.object record) := by
      rw [Value.ofText?_render_eq wellFormed sendable, same]
      exact if_pos shallow
    rw [validateText, Record.ofText?_of_value arrives]
    rfl

/-- An object that repeats a name, an array, a brace alone, and a record with a number. -/
theorem validateText_agrees_repeated :
    let compile := Regex.compile?
    let reason := fun _ : String => "cut off"
    let repeated : Json :=
      .object [("a", .null), ("b", .array [.bool true]), ("a", .string "x")]
    let json : Json := .object [("a", .string "x"), ("b", .array [.bool true])]
    let record : Record := [("a", .number (.signed true .zero)), ("", .object [])]
    Json.read? repeated.render = some json ∧ Json.read? (Json.array []).render = some (.array []) ∧
      Json.read? "\x7b" = none ∧ (Value.object record).WellFormed ∧
      (∀ part ∈ (Value.object record).parts, part.IsPlain ∧ part.Sendable) ∧
      ∀ (validator : Validator) (rules : RuleSet),
        validator.validateText compile reason repeated.render rules =
          validator.validateJson compile json rules ∧
        (∃ found, Record.ofText? reason repeated.render = .ok found ∧
          validator.validateText compile reason repeated.render rules =
            validator.validate compile found rules) ∧
        validator.validateText compile reason (Json.array []).render rules =
          ⟨.failed, [⟨"", "", "invalid_input", [],
            some "Invalid input: expected a JSON object, got array"⟩]⟩ ∧
        validator.validateText compile reason "\x7b" rules =
          ⟨.failed, [⟨"", "", "invalid_input", [], some "Invalid JSON string: cut off"⟩]⟩ ∧
        validator.validateText compile reason (Value.object record).render rules =
          validator.validate compile record rules := by
  intro compile reason repeated json record
  have readRepeated : Json.read? repeated.render = some json := by
    have writable : repeated.Writable := ⟨trivial, ⟨trivial, trivial⟩, trivial, trivial⟩
    rw [Json.read?, writable.parse?_render]
    rfl
  have readArray : Json.read? (Json.array []).render = some (.array []) := by
    have writable : (Json.array []).Writable := trivial
    rw [Json.read?, writable.parse?_render]
    rfl
  have unread : Json.read? "\x7b" = none := rfl
  have wellFormed : (Value.object record).WellFormed :=
    ⟨show ["a", ""].Nodup by decide, trivial, ⟨List.nodup_nil, trivial⟩, trivial⟩
  have plain : ∀ part ∈ (Value.object record).parts, part.IsPlain ∧ part.Sendable := by
    have sendsZero : (Value.number (.signed true .zero)).Sendable :=
      (Value.sendable_number_iff (by decide)).mpr (by decide +kernel)
    have partsEq : (Value.object record).parts =
        [.object record, .number (.signed true .zero), .object []] := rfl
    rw [partsEq]
    simp only [List.forall_mem_cons]
    exact ⟨⟨trivial, trivial⟩, ⟨rfl, sendsZero⟩, ⟨trivial, trivial⟩, List.forall_mem_nil _⟩
  have shallow : (Value.object record).toJson.nesting < 128 := by decide +kernel
  obtain ⟨ofRead, ofUnread, ofRecord⟩ := validateText_agrees compile reason
  refine ⟨readRepeated, readArray, unread, wellFormed, plain, fun validator rules => ?_⟩
  obtain ⟨sameJson, ofObject, _⟩ := ofRead _ _ readRepeated
  obtain ⟨found, foundRead, sameRecord⟩ := ofObject _ rfl
  obtain ⟨_, _, ofOther⟩ := ofRead _ _ readArray
  exact ⟨sameJson validator rules, ⟨found, foundRead, sameRecord validator rules⟩,
    ofOther nofun validator rules, ofUnread _ unread validator rules,
    ofRecord record wellFormed plain shallow validator rules⟩

end Validator

end Rulebook
