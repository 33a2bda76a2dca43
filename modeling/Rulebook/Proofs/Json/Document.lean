import Rulebook.Proofs.Json.Numeral
import Rulebook.Proofs.Json.Quote

/-!
# Documents read back

Every document without garbled strings, whose numerals are proper, is read back from the
text that it is written as, down to the order of members and to members that repeat a name.
-/

namespace Rulebook.Json

mutual

/-- A document that has a text: its numerals are proper and it has no garbled strings. -/
def Writable : Json → Prop
  | number n => n.Proper
  | array items => WritableItems items
  | object members => WritableMembers members
  | garbled => False
  | _ => True

/-- `Writable` for every item. -/
def WritableItems : List Json → Prop
  | [] => True
  | item :: items => Writable item ∧ WritableItems items

/-- `Writable` for every member. -/
def WritableMembers : List (String × Json) → Prop
  | [] => True
  | (_, item) :: members => Writable item ∧ WritableMembers members

end

/-! ## The first character -/

/-- The text of a number starts with its sign or with a digit. -/
theorem exists_text_eq_cons {n : Numeral} (proper : n.Proper) :
    ∃ c cs, n.text = c :: cs ∧ (c = '-' ∨ c.isDigit = true) := by
  unfold Numeral.text
  cases n.negative with
  | true => exact ⟨'-', _, rfl, .inl rfl⟩
  | false =>
      cases leads : n.whole with
      | nil => exact absurd leads proper.whole_ne_nil
      | cons c whole =>
          have isDigit := proper.isDigit_whole c (leads ▸ List.mem_cons_self)
          exact ⟨c, _, rfl, .inr isDigit⟩

/-- What starts a number starts nothing else. -/
theorem starts_number {c : Char} (starts : c = '-' ∨ c.isDigit = true) :
    isSpace c = false ∧ c ∉ ['n', 't', 'f', '"', '[', ']', '\x7b'] := by
  constructor
  · rcases starts with rfl | isDigit
    · decide
    · simp only [isSpace, Bool.or_eq_false_iff, decide_eq_false_iff_not]
      refine ⟨⟨⟨?_, ?_⟩, ?_⟩, ?_⟩ <;> rintro rfl <;> contradiction
  · intro isOther
    simp only [List.mem_cons, List.not_mem_nil, or_false] at isOther
    rcases isOther with rfl | rfl | rfl | rfl | rfl | rfl | rfl <;> simp at starts

/-- A document starts neither with a blank nor with the end of an array. -/
theorem Writable.exists_chars_eq_cons {json : Json} (writable : json.Writable) :
    ∃ c cs, json.chars = c :: cs ∧ isSpace c = false ∧ c ≠ ']' := by
  cases json with
  | null => exact ⟨'n', _, rfl, by decide, by decide⟩
  | bool b => cases b <;> exact ⟨_, _, rfl, by decide, by decide⟩
  | number n =>
      obtain ⟨c, cs, textEq, starts⟩ := exists_text_eq_cons writable
      obtain ⟨noSpace, noOther⟩ := starts_number starts
      refine ⟨c, cs, textEq, noSpace, ?_⟩
      rintro rfl
      simp at noOther
  | string s => exact ⟨'"', _, rfl, by decide, by decide⟩
  | array items => exact ⟨'[', _, rfl, by decide, by decide⟩
  | object members => exact ⟨'\x7b', _, rfl, by decide, by decide⟩
  | garbled => cases writable

theorem exists_itemChars_eq_cons {item : Json} {items : List Json} (writable : item.Writable) :
    ∃ c cs, itemChars (item :: items) = c :: cs ∧ isSpace c = false ∧ c ≠ ']' := by
  obtain ⟨c, cs, charsEq, starts⟩ := writable.exists_chars_eq_cons
  cases items with
  | nil => exact ⟨c, cs, charsEq, starts⟩
  | cons next items =>
      rw [itemChars, charsEq]
      · exact ⟨c, _, rfl, starts⟩
      · exact nofun

theorem exists_memberChars_eq_cons (member : String × Json) (members : List (String × Json)) :
    ∃ cs, memberChars (member :: members) = '"' :: cs := by
  cases members with
  | nil => exact ⟨_, rfl⟩
  | cons next members => exact ⟨_, rfl⟩

theorem skipSpace_cons {c : Char} (noSpace : isSpace c = false) (rest : List Char) :
    skipSpace (c :: rest) = c :: rest := by
  rw [skipSpace, List.dropWhile_cons_of_neg (by simp [noSpace])]

/-! ## One step of the reader -/

section

variable {fuel : Nat} {rest : List Char}

theorem readValue?_number {c : Char} {cs : List Char} (starts : c = '-' ∨ c.isDigit = true)
    {n : Numeral} (read : readNumber? (c :: cs) = some (n, rest)) :
    readValue? (fuel + 1) (c :: cs) = some (number n, rest) := by
  obtain ⟨noSpace, noOther⟩ := starts_number starts
  rw [readValue?, skipSpace_cons noSpace]
  split <;> simp_all

theorem readValue?_string (s : String) :
    readValue? (fuel + 1) (quote s ++ rest) = some (string s, rest) := by
  have read := readString?_quote s rest
  simp [readValue?, quote, skipSpace_cons, isSpace, read]

theorem readValue?_array {c : Char} {cs : List Char} {items : List Json}
    (noSpace : isSpace c = false) (noEnd : c ≠ ']')
    (read : readItems? fuel (c :: cs) = some (items, rest)) :
    readValue? (fuel + 1) ('[' :: c :: cs) = some (array items, rest) := by
  have start : isSpace '[' = false := by decide
  rw [readValue?, skipSpace_cons start]
  simp [skipSpace_cons noSpace, noEnd, read]

theorem readValue?_object {cs : List Char} {members : List (Option String × Json)}
    (read : readMembers? fuel ('"' :: cs) = some (members, rest)) :
    readValue? (fuel + 1) ('\x7b' :: '"' :: cs) = some (ofMembers members, rest) := by
  have start : isSpace '\x7b' = false := by decide
  have next : isSpace '"' = false := by decide
  rw [readValue?, skipSpace_cons start]
  simp [skipSpace_cons next, read]

variable {s later : List Char} {item : Json}

theorem readItems?_last (read : readValue? fuel s = some (item, ']' :: rest)) :
    readItems? (fuel + 1) s = some ([item], rest) := by
  have noSpace : isSpace ']' = false := by decide
  simp [readItems?, read, skipSpace_cons noSpace]

theorem readItems?_comma {items : List Json}
    (read : readValue? fuel s = some (item, ',' :: later))
    (readLater : readItems? fuel later = some (items, rest)) :
    readItems? (fuel + 1) s = some (item :: items, rest) := by
  have noSpace : isSpace ',' = false := by decide
  simp [readItems?, read, skipSpace_cons noSpace, readLater]

variable {name : String}

theorem readMembers?_last (read : readValue? fuel s = some (item, '\x7d' :: rest)) :
    readMembers? (fuel + 1) (quote name ++ ':' :: s) = some ([(some name, item)], rest) := by
  have nameRead := readString?_quote name (':' :: s)
  have noSpace : isSpace '\x7d' = false := by decide
  have noSpaceColon : isSpace ':' = false := by decide
  have noSpaceQuote : isSpace '"' = false := by decide
  simp [readMembers?, quote, skipSpace_cons, *]

theorem readMembers?_comma {members : List (Option String × Json)}
    (read : readValue? fuel s = some (item, ',' :: later))
    (readLater : readMembers? fuel later = some (members, rest)) :
    readMembers? (fuel + 1) (quote name ++ ':' :: s) =
      some ((some name, item) :: members, rest) := by
  have nameRead := readString?_quote name (':' :: s)
  have noSpace : isSpace ',' = false := by decide
  have noSpaceColon : isSpace ':' = false := by decide
  have noSpaceQuote : isSpace '"' = false := by decide
  simp [readMembers?, quote, skipSpace_cons, *]

end

/-- Members with names that are read are the members of an object. -/
theorem ofMembers_some (members : List (String × Json)) :
    ofMembers (members.map fun member => (some member.1, member.2)) = object members := by
  have named : (members.map fun member => (some member.1, member.2)).mapM
      (fun (member : Option String × Json) => member.1.map (·, member.2)) = some members := by
    induction members with
    | nil => rfl
    | cons member members ih => simp [List.mapM_cons, ih]
  rw [ofMembers, named]

/-! ## Whole documents -/

mutual

/-- The text of a document is read as the document, whatever stands behind it. -/
theorem readValue?_chars : ∀ (json : Json), json.Writable → ∀ (fuel : Nat) (rest : List Char),
    2 * json.chars.length ≤ fuel → Numeral.Ends rest →
      readValue? fuel (json.chars ++ rest) = some (json, rest)
  | null, _, fuel + 1, rest, _, _ => by simp [chars, readValue?, skipSpace_cons, isSpace]
  | bool true, _, fuel + 1, rest, _, _ => by simp [chars, readValue?, skipSpace_cons, isSpace]
  | bool false, _, fuel + 1, rest, _, _ => by simp [chars, readValue?, skipSpace_cons, isSpace]
  | number n, writable, fuel + 1, rest, _, ends => by
      obtain ⟨c, cs, textEq, starts⟩ := exists_text_eq_cons writable
      have read := writable.readNumber?_text ends
      rw [textEq] at read
      rw [chars, textEq]
      exact readValue?_number starts read
  | string s, _, fuel + 1, rest, _, _ => readValue?_string s
  | array [], _, fuel + 1, rest, _, _ => by
      simp [chars, itemChars, readValue?, skipSpace_cons, isSpace]
  | array (item :: items), writable, fuel + 1, rest, enough, _ => by
      simp only [chars, List.length_cons, List.length_append] at enough
      have read := readItems?_itemChars item items writable fuel rest (by omega)
      obtain ⟨c, cs, charsEq, noSpace, noEnd⟩ : ∃ c cs, itemChars (item :: items) = c :: cs ∧ _ :=
        exists_itemChars_eq_cons writable.1
      rw [chars, List.cons_append, List.cons_append, List.append_assoc, List.singleton_append,
        charsEq]
      rw [charsEq] at read
      exact readValue?_array noSpace noEnd read
  | object [], _, fuel + 1, rest, _, _ => by
      simp [chars, memberChars, readValue?, skipSpace_cons, isSpace]
  | object (member :: members), writable, fuel + 1, rest, enough, _ => by
      simp only [chars, List.length_cons, List.length_append] at enough
      have read := readMembers?_memberChars member members writable fuel rest (by omega)
      obtain ⟨cs, charsEq⟩ := exists_memberChars_eq_cons member members
      rw [chars, List.cons_append, List.cons_append, List.append_assoc, List.singleton_append,
        charsEq, ← ofMembers_some]
      rw [charsEq] at read
      exact readValue?_object read
  | json, writable, 0, rest, enough, _ => by
      obtain ⟨c, cs, charsEq, _⟩ := writable.exists_chars_eq_cons
      simp [charsEq] at enough

theorem readItems?_itemChars : ∀ (item : Json) (items : List Json), WritableItems (item :: items) →
    ∀ (fuel : Nat) (rest : List Char), 2 * (itemChars (item :: items)).length + 1 ≤ fuel →
      readItems? fuel (itemChars (item :: items) ++ ']' :: rest) = some (item :: items, rest)
  | item, [], writable, fuel + 1, rest, enough => by
      apply readItems?_last
      exact readValue?_chars item writable.1 fuel (']' :: rest) (Nat.le_of_succ_le_succ enough)
        (Numeral.ends_bracket rest)
  | item, next :: items, writable, fuel + 1, rest, enough => by
      have split : itemChars (item :: next :: items) =
          item.chars ++ ',' :: itemChars (next :: items) := rfl
      simp only [split, List.length_append, List.length_cons] at enough
      rw [split, List.append_assoc, List.cons_append]
      apply readItems?_comma
      · exact readValue?_chars item writable.1 fuel _ (by omega) (Numeral.ends_comma _)
      · exact readItems?_itemChars next items writable.2 fuel rest (by omega)

theorem readMembers?_memberChars : ∀ (member : String × Json) (members : List (String × Json)),
    WritableMembers (member :: members) → ∀ (fuel : Nat) (rest : List Char),
      2 * (memberChars (member :: members)).length + 1 ≤ fuel →
        readMembers? fuel (memberChars (member :: members) ++ '\x7d' :: rest) =
          some ((member :: members).map fun member => (some member.1, member.2), rest)
  | (name, item), [], writable, fuel + 1, rest, enough => by
      have split : memberChars [(name, item)] = quote name ++ ':' :: item.chars := rfl
      simp only [split, List.length_append, List.length_cons] at enough
      rw [split, List.append_assoc, List.cons_append]
      apply readMembers?_last
      exact readValue?_chars item writable.1 fuel _ (by omega) (Numeral.ends_brace rest)
  | (name, item), next :: members, writable, fuel + 1, rest, enough => by
      have split : memberChars ((name, item) :: next :: members) =
          quote name ++ ':' :: (item.chars ++ ',' :: memberChars (next :: members)) := rfl
      simp only [split, List.length_append, List.length_cons] at enough
      rw [split, List.append_assoc, List.cons_append, List.append_assoc, List.cons_append]
      apply readMembers?_comma
      · exact readValue?_chars item writable.1 fuel _ (by omega) (Numeral.ends_comma _)
      · exact readMembers?_memberChars next members writable.2 fuel rest (by omega)

end

/-- A document is read back from its text. -/
theorem Writable.parse?_render {json : Json} (writable : json.Writable) :
    parse? json.render = some json := by
  have read := readValue?_chars json writable (2 * json.chars.length + 2) [] (by omega)
    Numeral.ends_nil
  rw [List.append_nil] at read
  rw [parse?, render, String.toList_ofList, parseChars?, read]
  rfl

end Rulebook.Json
