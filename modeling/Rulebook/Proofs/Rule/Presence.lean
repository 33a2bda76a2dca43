import Rulebook.Registry

/-!
# Conditional requirements

Either some companion is there or none is, and either all companions are there or not all, so
two of the rules on companions are the two halves of an unconditional requirement, and so are
the other two.  A conditional requirement fails if its condition is met and its field does not
hold a truthy value.  The conditions are about the companions, or about the pairs of a
companion and a text, as a set: neither their order nor their number counts.
-/

namespace Rulebook.Presence

/-! ## Companions -/

section

variable {α : Type} {as bs : List α} {p : α → Bool}

theorem any_eq_of_mem_iff (sameMembers : ∀ a, a ∈ as ↔ a ∈ bs) : as.any p = bs.any p := by
  rw [Bool.eq_iff_iff, List.any_eq_true, List.any_eq_true]
  exact exists_congr fun a => and_congr_left' (sameMembers a)

theorem all_eq_of_mem_iff (sameMembers : ∀ a, a ∈ as ↔ a ∈ bs) : as.all p = bs.all p := by
  rw [Bool.eq_iff_iff, List.all_eq_true, List.all_eq_true]
  exact forall_congr' fun a => imp_congr_left (sameMembers a)

theorem isEmpty_eq_of_mem_iff (sameMembers : ∀ a, a ∈ as ↔ a ∈ bs) :
    as.isEmpty = bs.isEmpty := by
  rw [Bool.eq_iff_iff, List.isEmpty_iff, List.isEmpty_iff, List.eq_nil_iff_forall_not_mem,
    List.eq_nil_iff_forall_not_mem]
  exact forall_congr' fun a => not_congr (sameMembers a)

theorem any_of_all (some : as ≠ []) (all : as.all p = true) : as.any p = true := by
  obtain ⟨a, isMember⟩ := List.exists_mem_of_ne_nil as some
  exact List.any_eq_true.mpr ⟨a, isMember, List.all_eq_true.mp all a isMember⟩

end

section

variable {record : Record} {field : String} {names : List String}

/-- The other half of the requirement with some companion. -/
theorem requiredWithoutAll_eq :
    requiredWithoutAll record field names =
      if names.any record.has then true else required record field := by
  rw [requiredWithoutAll, ← List.not_any_eq_all_not]
  cases names.any record.has <;> rfl

/-- The other half of the requirement with all companions. -/
theorem requiredWithout_eq :
    requiredWithout record field names =
      if names.all record.has then true else required record field := by
  rw [requiredWithout, ← List.not_all_eq_any_not]
  cases names.all record.has <;> rfl

theorem halves_iff {condition whole : Bool} :
    (if condition then whole else true) = true ∧ (if condition then true else whole) = true ↔
      whole = true := by
  cases condition <;> simp

theorem holds_required :
    (⟨.exact 0, fun record field _ => some (required record field)⟩ : PresenceRule).holds
      record field [] = required record field := by
  simp [PresenceRule.holds, Arity.accepts]

/-- A rule on the companions that its arguments name. -/
def onCompanions (test : Record → String → List String → Bool) : PresenceRule :=
  ⟨.atLeast 1, fun record field args => some (test record field args)⟩

theorem holds_onCompanions (test : Record → String → List String → Bool) :
    (onCompanions test).holds record field names =
      (!names.isEmpty && test record field names) := by
  cases names <;> simp [onCompanions, PresenceRule.holds, Arity.accepts]

/-- The rules on companions are halves of the unconditional requirement.  A rule on all of some
companions is weaker than the one on any of them, and each looks at its companions as a set. -/
theorem companions_agree :
    ∃ isRequired withSome withAll withoutSome withoutAll,
      Registry.builtIn.presence.find? "required" = some isRequired ∧
      Registry.builtIn.presence.find? "required_with" = some withSome ∧
      Registry.builtIn.presence.find? "required_with_all" = some withAll ∧
      Registry.builtIn.presence.find? "required_without" = some withoutSome ∧
      Registry.builtIn.presence.find? "required_without_all" = some withoutAll ∧
      ∀ (record : Record) (field : String) (names : List String), names ≠ [] →
        (withSome.holds record field names = true ∧ withoutAll.holds record field names = true ↔
          isRequired.holds record field [] = true) ∧
        (withAll.holds record field names = true ∧ withoutSome.holds record field names = true ↔
          isRequired.holds record field [] = true) ∧
        (isRequired.holds record field [] = true →
          ∀ rule ∈ [withSome, withAll, withoutSome, withoutAll],
            rule.holds record field names = true) ∧
        (withSome.holds record field names = true → withAll.holds record field names = true) ∧
        (withoutSome.holds record field names = true →
          withoutAll.holds record field names = true) ∧
        ∀ others : List String, (∀ name, name ∈ others ↔ name ∈ names) →
          ∀ rule ∈ [withSome, withAll, withoutSome, withoutAll],
            rule.holds record field others = rule.holds record field names := by
  refine ⟨_, onCompanions requiredWith, onCompanions requiredWithAll, onCompanions requiredWithout,
    onCompanions requiredWithoutAll, rfl, rfl, rfl, rfl, rfl, fun record field names some => ?_⟩
  have anyOfAll := @any_of_all _ _ record.has some
  have isSome := List.isEmpty_eq_false_iff.mpr some
  simp only [List.forall_mem_cons, holds_required, holds_onCompanions, isSome, requiredWith,
    requiredWithAll, requiredWithout_eq, requiredWithoutAll_eq, Bool.not_false, Bool.true_and]
  refine ⟨halves_iff, halves_iff, ?_, ?_, ?_, ?_⟩
  · intro isThere
    simp [isThere]
  · intro withSome
    split
    · next all => rwa [if_pos (anyOfAll all)] at withSome
    · rfl
  · intro withoutSome
    split
    · rfl
    · next none => rwa [if_neg fun all => none (anyOfAll all)] at withoutSome
  · intro others sameNames
    simp [any_eq_of_mem_iff sameNames, all_eq_of_mem_iff sameNames,
      isEmpty_eq_of_mem_iff sameNames, isSome]

/-- An empty field with two companions, one that is there and is named twice, and one that is
not. -/
theorem companions_agree_phone :
    let record : Record := [("phone", .string "555"), ("email", .string "")]
    let names := ["phone", "fax", "phone"]
    names ≠ [] ∧ (∀ name, name ∈ ["fax", "phone"] ↔ name ∈ names) ∧
      ∃ isRequired withSome withoutAll,
        Registry.builtIn.presence.find? "required" = some isRequired ∧
        Registry.builtIn.presence.find? "required_with" = some withSome ∧
        Registry.builtIn.presence.find? "required_without_all" = some withoutAll ∧
        isRequired.holds record "email" [] = false ∧
        withoutAll.holds record "email" names = true ∧ withSome.holds record "email" names = false ∧
        withSome.holds record "email" ["fax", "phone"] = false := by
  intro record names
  have some : names ≠ [] := List.cons_ne_nil _ _
  have sameNames : ∀ name, name ∈ ["fax", "phone"] ↔ name ∈ names := by
    intro name
    simp only [names, List.mem_cons, List.not_mem_nil, or_false]
    grind
  obtain ⟨isRequired, withSome, withAll, withoutSome, withoutAll, foundRequired, foundWith, -, -,
    foundWithout, agree⟩ := companions_agree
  obtain ⟨halves, -, -, -, -, sets⟩ := agree record "email" names some
  have missing : isRequired.holds record "email" [] = false := by
    cases foundRequired
    decide
  have vacuous : withoutAll.holds record "email" names = true := by
    cases foundWithout
    decide
  have failed : withSome.holds record "email" names = false := by
    rw [Bool.eq_false_iff]
    intro held
    rw [halves.mp ⟨held, vacuous⟩] at missing
    contradiction
  refine ⟨some, sameNames, isRequired, withSome, withoutAll, foundRequired, foundWith, foundWithout,
    missing, vacuous, failed, ?_⟩
  rw [sets _ sameNames withSome List.mem_cons_self, failed]

end

/-! ## Pairs -/

section

variable {record : Record} {field companion expected : String} {args more : List String}

/-- The pairs stand at the even positions and those behind them. -/
theorem mem_pairs_iff {args : List String} :
    (companion, expected) ∈ pairs args ↔
      ∃ i : Nat, args[2 * i]? = some companion ∧ args[2 * i + 1]? = some expected := by
  match args with
  | [] => simp [pairs]
  | [_] => simp [pairs]
  | first :: second :: rest =>
      rw [pairs, List.mem_cons, mem_pairs_iff, Prod.mk.injEq]
      constructor
      · rintro (⟨rfl, rfl⟩ | ⟨i, atEven, atOdd⟩)
        · exact ⟨0, rfl, rfl⟩
        · exact ⟨i + 1, atEven, atOdd⟩
      · rintro ⟨_ | i, atEven, atOdd⟩
        · exact .inl ⟨(Option.some.inj atEven).symm, (Option.some.inj atOdd).symm⟩
        · exact .inr ⟨i, atEven, atOdd⟩

/-- Arguments behind a list do not take its pairs apart. -/
theorem mem_pairs_append (isPair : (companion, expected) ∈ pairs args) :
    (companion, expected) ∈ pairs (args ++ more) := by
  obtain ⟨i, atEven, atOdd⟩ := mem_pairs_iff.mp isPair
  refine mem_pairs_iff.mpr ⟨i, ?_, ?_⟩
  · rw [List.getElem?_append_left (List.getElem?_eq_some_iff.mp atEven).1, atEven]
  · rw [List.getElem?_append_left (List.getElem?_eq_some_iff.mp atOdd).1, atOdd]

theorem forall_pairs_iff {holds : String → String → Prop} :
    (∀ pair ∈ pairs args, holds pair.1 pair.2) ↔
      ∀ (i : Nat) companion expected, args[2 * i]? = some companion →
        args[2 * i + 1]? = some expected → holds companion expected := by
  constructor
  · intro onPairs i companion expected atEven atOdd
    exact onPairs (companion, expected) (mem_pairs_iff.mpr ⟨i, atEven, atOdd⟩)
  · rintro atPositions ⟨companion, expected⟩ isPair
    obtain ⟨i, atEven, atOdd⟩ := mem_pairs_iff.mp isPair
    exact atPositions i companion expected atEven atOdd

theorem pairs_flatMap (listed : List (String × String)) :
    pairs (listed.flatMap fun pair => [pair.1, pair.2]) = listed := by
  induction listed with
  | nil => rfl
  | cons pair listed ih => exact congrArg (pair :: ·) ih

theorem length_flatMap_pairs (listed : List (String × String)) :
    (listed.flatMap fun pair => [pair.1, pair.2]).length = 2 * listed.length := by
  induction listed with
  | nil => rfl
  | cons pair listed ih =>
      rw [List.flatMap_cons, List.length_append, ih]
      exact Nat.add_comm 2 _

/-- A field that does not meet the requirement is not there, or what it holds is not truthy. -/
theorem required_eq_false_iff :
    required record field = false ↔
      ∀ value, record.find? field = some value → value.isTruthy = false := by
  simp only [required, Option.any_eq_false]

theorem agrees_iff {pair : String × String} :
    agrees record pair = true ↔
      ∃ value, record.find? pair.1 = some value ∧ value.isTruthy = true ∧
        value.looseEqText pair.2 = true := by
  rw [agrees, Option.any_eq_true]
  simp only [Bool.and_eq_true]

theorem requiredIf_eq_false_iff :
    requiredIf record field args = false ↔
      (∀ pair ∈ pairs args, agrees record pair = true) ∧ required record field = false := by
  rw [requiredIf, ← List.all_eq_true]
  cases (pairs args).all (agrees record) <;> simp

/-- The rule on pairs of a companion and its expected text. -/
def onPairs : PresenceRule :=
  ⟨.pairs, fun record field args => some (requiredIf record field args)⟩

/-- A list that is not made of pairs is refused. -/
theorem holds_onPairs_eq_false_iff :
    onPairs.holds record field args = false ↔
      args = [] ∨ args.length % 2 = 1 ∨ requiredIf record field args = false := by
  have gate : (¬2 ≤ args.length ∨ args.length % 2 ≠ 0) ↔
      (args.length = 0 ∨ args.length % 2 = 1) := by
    omega
  simp only [onPairs, PresenceRule.holds, Arity.accepts, Option.some_beq_some, beq_true,
    Bool.and_eq_false_iff, decide_eq_false_iff_not, beq_eq_false_iff_ne]
  rw [gate, List.length_eq_zero_iff, or_assoc]

/-- The verdict on arguments that are written pair by pair. -/
theorem holds_onPairs_flatMap (listed : List (String × String)) :
    onPairs.holds record field (listed.flatMap fun pair => [pair.1, pair.2]) =
      (!listed.isEmpty && if listed.all (agrees record) then required record field else true) := by
  have accepts : Arity.pairs.accepts (2 * listed.length) = !listed.isEmpty := by
    cases listed with
    | nil => rfl
    | cons pair listed => simp [Arity.accepts, Nat.mul_add]
  simp only [onPairs, PresenceRule.holds, length_flatMap_pairs, accepts, requiredIf, pairs_flatMap,
    Option.some_beq_some, beq_true]

/-- The field is asked for only if every pair names a field with its text. -/
theorem requiredIf_consults_pairs :
    ∃ rule, Registry.builtIn.presence.find? "required_if" = some rule ∧
      ∀ (record : Record) (field : String),
        (∀ args : List String, rule.holds record field args = false ↔
          args = [] ∨ args.length % 2 = 1 ∨
            (∀ (i : Nat) companion expected, args[2 * i]? = some companion →
              args[2 * i + 1]? = some expected → ∃ value, record.find? companion = some value ∧
                value.isTruthy = true ∧ value.looseEqText expected = true) ∧
            ∀ value, record.find? field = some value → value.isTruthy = false) ∧
        (∀ listed others : List (String × String), (∀ pair, pair ∈ listed ↔ pair ∈ others) →
          rule.holds record field (listed.flatMap fun pair => [pair.1, pair.2]) =
            rule.holds record field (others.flatMap fun pair => [pair.1, pair.2])) ∧
        ∀ (args : List String) companion expected, rule.holds record field args = true →
          rule.holds record field (args ++ [companion, expected]) = true := by
  refine ⟨onPairs, rfl, fun record field => ⟨fun args => ?_, fun listed others samePairs => ?_,
    fun args companion expected holds => ?_⟩⟩
  · rw [holds_onPairs_eq_false_iff, requiredIf_eq_false_iff, required_eq_false_iff,
      ← forall_pairs_iff]
    simp only [agrees_iff]
  · rw [holds_onPairs_flatMap, holds_onPairs_flatMap, isEmpty_eq_of_mem_iff samePairs,
      all_eq_of_mem_iff samePairs]
  · rw [← Bool.not_eq_false, holds_onPairs_eq_false_iff, requiredIf_eq_false_iff] at holds ⊢
    rintro (empty | odd | ⟨agree, missing⟩)
    · simp at empty
    · rw [List.length_append] at odd
      exact holds (.inr (.inl (by simpa using odd)))
    · exact holds (.inr (.inr ⟨fun pair isPair => agree pair (mem_pairs_append isPair), missing⟩))

/-- A field that is asked for by two pairs, in either order and with one of them repeated. -/
theorem requiredIf_consults_pairs_state :
    let record : Record := [("country", .string "us"), ("age", .number (.ofNat 30))]
    let pairs := [("country", "us"), ("age", "30"), ("country", "us")]
    (∀ pair, pair ∈ pairs ↔ pair ∈ [("age", "30"), ("country", "us")]) ∧
      ∃ rule, Registry.builtIn.presence.find? "required_if" = some rule ∧
        rule.holds record "state" ["country", "us", "age", "30", "country", "us"] = false ∧
        rule.holds record "state" ["age", "30", "country", "us"] = false ∧
        rule.holds record "state" ["age", "31"] = true ∧
        rule.holds record "state" ["age", "31", "country", "us"] = true := by
  intro record pairs
  have samePairs : ∀ pair, pair ∈ pairs ↔ pair ∈ [("age", "30"), ("country", "us")] := by
    intro pair
    simp only [pairs, List.mem_cons, List.not_mem_nil, or_false]
    grind
  obtain ⟨rule, found, consults⟩ := requiredIf_consults_pairs
  obtain ⟨-, sets, grows⟩ := consults record "state"
  have failed : rule.holds record "state" ["age", "30", "country", "us"] = false := by
    cases found
    decide +kernel
  have held : rule.holds record "state" ["age", "31"] = true := by
    cases found
    decide +kernel
  exact ⟨samePairs, rule, found, (sets _ _ samePairs).trans failed, failed, held,
    grows _ "country" "us" held⟩

end

end Rulebook.Presence
