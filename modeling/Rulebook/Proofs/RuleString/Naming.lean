import Rulebook.Proofs.RuleString.Render
import Rulebook.Proofs.Text.Join
import Rulebook.Regex.Compile
import Rulebook.Registry

/-!
# Registered names in rule strings

The names that a registry accepts hold no separators, so rule strings can hold
them as they are.  Every one of them alone is read back.  A backslash at the end
of a name, which the registry does not look for, takes in the separator that
follows: such a name can have neither arguments nor a rule after it.
-/

namespace Rulebook

open Text Call

/-! ## Names and registrations -/

/-- A name that a registry accepts. -/
structure IsName (name : String) : Prop where
  nonempty : name ≠ ""
  unpadded : Unpadded name.toList
  unseparated : ∀ c ∈ name.toList, c ∉ Registry.separators

namespace Registry

/-- A name is accepted for the text that it is the trimmed form of. -/
theorem checkedName_eq_ok_iff {text name : String} :
    checkedName text = .ok name ↔ name = trim text ∧ IsName name := by
  have unpadded : Unpadded (trim text).toList := by
    rw [toList_trim]
    exact unpadded_trimChars _
  unfold checkedName
  simp only
  split
  · next empty =>
      rw [String.isEmpty_iff] at empty
      simp only [reduceCtorEq, false_iff]
      rintro ⟨rfl, isName⟩
      exact isName.nonempty empty
  · next full =>
      rw [String.isEmpty_iff] at full
      split
      · next separator found =>
          simp only [reduceCtorEq, false_iff]
          rintro ⟨rfl, isName⟩
          have isSeparator := List.find?_some found
          exact isName.unseparated separator (List.mem_of_find?_eq_some found)
            (by simpa using isSeparator)
      · next free =>
          rw [List.find?_eq_none] at free
          rw [Except.ok.injEq]
          constructor
          · rintro rfl
            exact ⟨rfl, full, unpadded, by simpa using free⟩
          · rintro ⟨rfl, _⟩
            rfl

/-- A registration under a text that succeeds: of a value rule, of a pattern or of
a presence rule. -/
inductive Registers (compile : PatternSource) (registry : Registry) (text : String)
    (next : Registry) : Prop
  | value {rule : ValueRule} (added : registry.add text rule = (.ok (), next))
  | pattern {pattern : String} (added : registry.addPattern compile text pattern = (.ok (), next))
  | presence {rule : PresenceRule} (added : registry.addPresence text rule = (.ok (), next))

section

variable {compile : PatternSource} {registry next : Registry} {text : String}

/-- A rule is put under an accepted name and no other. -/
theorem store_eq_ok_iff {put : String → Registry} :
    registry.store text put = (.ok (), next) ↔ IsName (trim text) ∧ next = put (trim text) := by
  unfold store
  cases checked : checkedName text with
  | ok name =>
      obtain ⟨rfl, isName⟩ := checkedName_eq_ok_iff.mp checked
      simp [isName, eq_comm]
  | error reason =>
      have notName : ¬IsName (trim text) := by
        intro isName
        have accepted := checkedName_eq_ok_iff.mpr ⟨rfl, isName⟩
        rw [checked] at accepted
        cases accepted
      simp [notName]

theorem add_eq_ok_iff {rule : ValueRule} :
    registry.add text rule = (.ok (), next) ↔ IsName (trim text) ∧
      next = { registry with values := registry.values.insert (trim text) rule } :=
  store_eq_ok_iff

theorem addPattern_eq_ok_iff {pattern : String} :
    registry.addPattern compile text pattern = (.ok (), next) ↔
      ∃ regex, compile pattern = some regex ∧
        registry.add text (.pattern regex) = (.ok (), next) := by
  unfold addPattern
  cases compile pattern with
  | none => simp
  | some regex => simp

theorem addPresence_eq_ok_iff {rule : PresenceRule} :
    registry.addPresence text rule = (.ok (), next) ↔ IsName (trim text) ∧
      next = { registry with presence := registry.presence.insert (trim text) rule } :=
  store_eq_ok_iff

/-- A registration puts one rule under the trimmed text, which is a name, and leaves the
other table as it is. -/
theorem Registers.effect (registers : registry.Registers compile text next) :
    IsName (trim text) ∧
      ((∃ rule, next = { registry with values := registry.values.insert (trim text) rule }) ∨
        ∃ rule,
          next = { registry with presence := registry.presence.insert (trim text) rule }) := by
  cases registers with
  | @value rule added =>
      obtain ⟨isName, nextEq⟩ := add_eq_ok_iff.mp added
      exact ⟨isName, .inl ⟨rule, nextEq⟩⟩
  | pattern added =>
      obtain ⟨regex, _, added⟩ := addPattern_eq_ok_iff.mp added
      obtain ⟨isName, nextEq⟩ := add_eq_ok_iff.mp added
      exact ⟨isName, .inl ⟨.pattern regex, nextEq⟩⟩
  | @presence rule added =>
      obtain ⟨isName, nextEq⟩ := addPresence_eq_ok_iff.mp added
      exact ⟨isName, .inr ⟨rule, nextEq⟩⟩

/-- A registration stores a rule under the trimmed text, which is a name. -/
theorem Registers.stores (registers : registry.Registers compile text next) :
    IsName (trim text) ∧ next.contains (trim text) = true := by
  obtain ⟨isName, ⟨rule, rfl⟩ | ⟨rule, rfl⟩⟩ := registers.effect
  · exact ⟨isName, by simp [contains, Table.has]⟩
  · exact ⟨isName, by simp [contains, Table.has]⟩

end

end Registry

/-! ## Names in rule strings -/

namespace IsName

variable {name : String} (isName : IsName name)

include isName

theorem bar_not_mem : '|' ∉ name.toList := fun isMember =>
  isName.unseparated '|' isMember (by decide)

theorem colon_not_mem : ':' ∉ name.toList := fun isMember =>
  isName.unseparated ':' isMember (by decide)

theorem ofTexts?_eq (texts : List (List Char)) :
    ofTexts? name.toList texts =
      some ⟨name, texts.map fun text => String.ofList (trimChars text)⟩ := by
  rw [ofTexts?_eq_some_iff]
  refine ⟨isName.nonempty, trimChars_eq_self_iff.mpr isName.unpadded, ?_⟩
  simp

theorem ofSegment?_eq : ofSegment? name.toList = some ⟨name, []⟩ := by
  have segment := ofSegment?_escape name.toList
  rw [escape_lone_eq_self isName.colon_not_mem, isName.ofTexts?_eq] at segment
  exact segment

/-- A name alone is a rule string that calls the rule without arguments. -/
theorem parse_eq : parse name = [⟨name, []⟩] := by
  rw [Call.parse_eq, pieces_eq_lone (by decide) isName.bar_not_mem, List.filterMap_cons,
    isName.ofSegment?_eq, List.filterMap_nil]

/-- What stands after the colon after a name are arguments. -/
theorem parse_append_colon (closed : name.toList.getLast? ≠ some '\\') {text : String}
    (noBar : '|' ∉ text.toList) :
    parse (name ++ ":" ++ text) =
      [⟨name, (fields ',' (unescape ':' text.toList)).map fun arg =>
        String.ofList (trimChars arg)⟩] := by
  have textEq : (name ++ ":" ++ text).toList = name.toList ++ ':' :: text.toList := by simp
  have noBarAtAll : '|' ∉ name.toList ++ ':' :: text.toList := by
    simp [isName.bar_not_mem, noBar]
  have segment := ofSegment?_escape_append_colon closed text.toList
  rw [escape_lone_eq_self isName.colon_not_mem, isName.ofTexts?_eq] at segment
  rw [Call.parse_eq, textEq, pieces_eq_lone (by decide) noBarAtAll, List.filterMap_cons, segment,
    List.filterMap_nil]

/-- A bar after a name ends the call. -/
theorem parse_append_bar (closed : name.toList.getLast? ≠ some '\\') (rest : String) :
    parse (name ++ "|" ++ rest) = ⟨name, []⟩ :: parse rest := by
  rw [parse_bar closed, isName.parse_eq, List.singleton_append]

/-! A backslash at the end of the name. -/

theorem parse_append_colon_ne (ends : name.toList.getLast? = some '\\') {text : String}
    (noBar : '|' ∉ text.toList) (args : List String) :
    parse (name ++ ":" ++ text) ≠ [⟨name, args⟩] := by
  obtain ⟨front, frontEq⟩ := List.getLast?_eq_some_iff.mp ends
  have textEq : (name ++ ":" ++ text).toList = escape [':'] name.toList ++ ':' :: text.toList := by
    simp [escape_lone_eq_self isName.colon_not_mem]
  have noBarAtAll : '|' ∉ escape [':'] name.toList ++ ':' :: text.toList := by
    rw [escape_lone_eq_self isName.colon_not_mem]
    simp [isName.bar_not_mem, noBar]
  have taken := @ofSegment?_ne_of_backslash ⟨name, args⟩ front frontEq text.toList
  rw [Call.parse_eq, textEq, pieces_eq_lone (by decide) noBarAtAll, List.filterMap_cons]
  cases found : ofSegment? (escape [':'] name.toList ++ ':' :: text.toList) with
  | none => simp
  | some call =>
      rw [found, ne_eq, Option.some.injEq] at taken
      simpa using taken

/-- A bar in the place of the last character belongs to another name. -/
theorem ofSegment?_bar_ne {front : List Char} {last : Char}
    (frontEq : name.toList = front ++ [last]) (notBar : '|' ≠ last) (key : List Char)
    (args : List String) :
    ofSegment? (front ++ '|' :: key) ≠ some ⟨name, args⟩ := by
  have colonFree : ':' ∉ front ++ ['|'] := by
    have inName := isName.colon_not_mem
    rw [frontEq] at inName
    simp_all
  obtain ⟨first, rest, piecesEq⟩ := exists_pieces_eq_cons ':' key
  have wholeEq : pieces ':' (front ++ '|' :: key) = (front ++ '|' :: first) :: rest := by
    have notBackslash : ':' ≠ '\\' := by decide
    have glued := pieces_escape_append notBackslash (s := front ++ ['|']) (t := key) (by simp)
    rw [escape_lone_eq_self colonFree, piecesEq] at glued
    simpa using glued
  rw [Call.ofSegment?_eq wholeEq, ne_eq, ofTexts?_eq_some_iff, frontEq]
  rintro ⟨_, nameEq, _⟩
  exact trimChars_append_cons_ne (by decide) notBar first nameEq

theorem parse_append_bar_ne (ends : name.toList.getLast? = some '\\') (rest : String) :
    parse (name ++ "|" ++ rest) ≠ ⟨name, []⟩ :: parse rest := by
  obtain ⟨front, frontEq⟩ := List.getLast?_eq_some_iff.mp ends
  obtain ⟨key, segments, segmentsEq⟩ := exists_pieces_eq_cons '|' rest.toList
  have textEq : (name ++ "|" ++ rest).toList =
      escape ['|'] (front ++ ['\\']) ++ '|' :: rest.toList := by
    rw [← frontEq, escape_lone_eq_self isName.bar_not_mem]
    simp
  have piecesEq : pieces '|' (name ++ "|" ++ rest).toList = (front ++ '|' :: key) :: segments := by
    rw [textEq, pieces_escape_backslash_append_mark (by decide), segmentsEq]
    rfl
  rw [Call.parse_eq, Call.parse_eq, piecesEq, segmentsEq, List.filterMap_cons]
  intro same
  cases found : ofSegment? (front ++ '|' :: key) with
  | none =>
      -- The rest alone would have to have one call more than it has with its first segment.
      rw [found] at same
      have lengths : (segments.filterMap ofSegment?).length =
          ((key :: segments).filterMap ofSegment?).length + 1 := congrArg List.length same
      have fewer := ((List.sublist_cons_self key segments).filterMap ofSegment?).length_le
      omega
  | some call =>
      rw [found, List.cons.injEq] at same
      exact isName.ofSegment?_bar_ne frontEq (by decide) key [] (found.trans (congrArg some same.1))

end IsName

/-! ## Arguments without separators -/

/-- A text that needs no care as an argument, as every text of letters and digits:
no character of it is blank, a separator or a backslash. -/
def IsWord (text : String) : Prop :=
  text ≠ "" ∧ ∀ c ∈ text.toList, isBlank c = false ∧ c ∉ ['|', ':', ',', '\\']

namespace IsWord

theorem unpadded {text : String} (isWord : IsWord text) : Unpadded text.toList :=
  unpadded_of_noBlanks fun c isMember => (isWord.2 c isMember).1

/-- The marks of a rule string do not occur in a word. -/
theorem not_mem {text : String} (isWord : IsWord text) {mark : Char}
    (isMark : mark ∈ ['|', ':', ',', '\\']) : mark ∉ text.toList := fun isMember =>
  (isWord.2 mark isMember).2 isMark

theorem backslash_not_mem {text : String} (isWord : IsWord text) : '\\' ∉ text.toList :=
  isWord.not_mem (by decide)

end IsWord

section

variable {args : List String} (words : ∀ arg ∈ args, IsWord arg)

include words

theorem bar_not_mem_intercalate_words : '|' ∉ (",".intercalate args).toList := by
  rw [String.toList_intercalate]
  have plain : ∀ text ∈ args.map String.toList, ∀ c ∈ text, c ≠ '|' := by
    simp only [List.forall_mem_map]
    rintro arg isArg c isMember rfl
    exact (words arg isArg).not_mem (by decide) isMember
  intro isMember
  exact forall_mem_intercalate (by decide) plain '|' isMember rfl

/-- Words joined by commas are read as the words. -/
theorem map_fields_intercalate_words :
    (fields ',' (unescape ':' (",".intercalate args).toList)).map
        (fun arg => String.ofList (trimChars arg)) = args := by
  have textEq : (",".intercalate args).toList =
      [','].intercalate ((args.map String.toList).map (escape [','])) := by
    rw [String.toList_intercalate, List.map_map]
    apply congrArg [','].intercalate
    apply List.map_congr_left
    intro arg isArg
    exact (escape_lone_eq_self ((words arg isArg).not_mem (by decide))).symm
  have trimmedEq : (fields ',' (unescape ':' (",".intercalate args).toList)).map trimChars =
      args.map String.toList := by
    rw [textEq, map_trimChars_fields_eq_iff]
    refine ⟨?_, ?_, ?_⟩
    · simp only [List.forall_mem_map]
      intro arg isArg
      refine ⟨(words arg isArg).unpadded, fun occurs => ?_⟩
      exact (words arg isArg).backslash_not_mem (occurs.subset (by simp))
    · intro loneEmpty
      obtain ⟨arg, argsEq, textNil⟩ := List.map_eq_singleton_iff.mp loneEmpty
      rw [argsEq, List.forall_mem_singleton] at words
      exact words.1 (String.toList_eq_nil_iff.mp textNil)
    · rw [← List.map_dropLast, List.forall_mem_map]
      intro arg isArg last
      exact (words arg (List.dropLast_subset _ isArg)).backslash_not_mem
        (List.mem_of_mem_getLast? last)
  calc
    (fields ',' (unescape ':' (",".intercalate args).toList)).map
        (fun arg => String.ofList (trimChars arg)) =
        ((fields ',' (unescape ':' (",".intercalate args).toList)).map trimChars).map
          String.ofList := by rw [List.map_map]; rfl
    _ = args := by rw [trimmedEq, List.map_map]; simp

end

/-! ## Rules of a registry in rule strings -/

/-- A rule that was registered can be called by its name.  It can be called with
arguments, and before other rules, exactly if the name does not end in a backslash. -/
theorem Registry.Registers.parse_name_iff {compile : PatternSource} {registry next : Registry}
    {text : String} (registers : registry.Registers compile text next) :
    next.contains (trim text) = true ∧
      parse (trim text) = [⟨trim text, []⟩] ∧
      (∀ args : List String, (∀ arg ∈ args, IsWord arg) →
        (parse (trim text ++ ":" ++ ",".intercalate args) = [⟨trim text, args⟩] ↔
          (trim text).toList.getLast? ≠ some '\\')) ∧
      ∀ rest : String, parse (trim text ++ "|" ++ rest) = ⟨trim text, []⟩ :: parse rest ↔
        (trim text).toList.getLast? ≠ some '\\' := by
  obtain ⟨isName, contained⟩ := registers.stores
  refine ⟨contained, isName.parse_eq, ?_, ?_⟩
  · intro args words
    have noBar := bar_not_mem_intercalate_words words
    constructor
    · intro read ends
      exact isName.parse_append_colon_ne ends noBar args read
    · intro closed
      rw [isName.parse_append_colon closed noBar, map_fields_intercalate_words words]
  · intro rest
    constructor
    · intro read ends
      exact isName.parse_append_bar_ne ends rest read
    · intro closed
      exact isName.parse_append_bar closed rest

/-- A name is registered without the blanks around it and called by that. -/
theorem Registry.Registers.parse_even :
    Registers Regex.compile? ⟨[], []⟩ " even " ⟨[], [("even", .argumentPattern)]⟩ ∧
      (∀ arg ∈ ["10", "x2"], IsWord arg) ∧
      (parse (trim " even " ++ ":" ++ ",".intercalate ["10", "x2"]) =
          [⟨trim " even ", ["10", "x2"]⟩] ↔
        (trim " even ").toList.getLast? ≠ some '\\') := by
  have registers :
      Registers Regex.compile? ⟨[], []⟩ " even " ⟨[], [("even", .argumentPattern)]⟩ :=
    .value rfl
  have words : ∀ arg ∈ ["10", "x2"], IsWord arg := by
    simp [IsWord, isBlank]
  exact ⟨registers, words, registers.parse_name_iff.2.2.1 ["10", "x2"] words⟩

/-- A name that ends in a backslash is registered, but a colon or a bar after it
becomes part of the name. -/
theorem Registry.registers_backslash :
    Registers Regex.compile? ⟨[], []⟩ "odd\\" ⟨[], [("odd\\", .argumentPattern)]⟩ ∧
      parse "odd\\:x" = [⟨"odd:x", []⟩] ∧ parse "odd\\|even" = [⟨"odd|even", []⟩] :=
  ⟨.value rfl, by decide, by decide⟩

end Rulebook
