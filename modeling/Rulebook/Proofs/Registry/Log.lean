import Rulebook.Proofs.RuleString.Naming
import Rulebook.Proofs.Table

/-!
# The log of a registry

What a registry has under a name can be told from the registrations that were tried on it,
those that failed included.  One that goes through stores its rule in one of the tables,
and the last rule that was stored in a table under a name is the one that is there.  Where
none was stored it is the built-in rule.  So the tables say nothing about each other and no
name is ever lost.
-/

namespace Rulebook

open Text

/-! ## Tables -/

namespace Table

variable {α : Type}

/-- The last of some entries under a name. -/
def last? (entries : List (String × α)) (name : String) : Option α :=
  find? (α := α) entries.reverse name

theorem insertAll_append (table : Table α) (first second : List (String × α)) :
    table.insertAll (first ++ second) = (table.insertAll first).insertAll second :=
  List.foldl_append

/-- The last entry that was put under a name is the one that is there. -/
theorem find?_insertAll (table : Table α) (entries : List (String × α)) (name : String) :
    (table.insertAll entries).find? name = (last? entries name).or (table.find? name) := by
  induction entries using List.reverseRecOn with
  | nil => rfl
  | append_singleton entries entry ih =>
      obtain ⟨other, new⟩ := entry
      have lastEq : last? (entries ++ [(other, new)]) name =
          if other = name then some new else last? entries name := by
        rw [last?, List.reverse_append, List.reverse_singleton, List.singleton_append, find?_cons]
        rfl
      calc
        (table.insertAll (entries ++ [(other, new)])).find? name
        _ = ((table.insertAll entries).insert other new).find? name := by
          rw [insertAll_append]
          rfl
        _ = (last? (entries ++ [(other, new)]) name).or (table.find? name) := by
          rw [find?_insert, ih, lastEq]
          split <;> rfl

theorem mem_names_insertAll {table : Table α} {entries : List (String × α)} {name : String} :
    name ∈ (table.insertAll entries).names ↔ name ∈ table.names ∨ name ∈ names entries := by
  induction entries generalizing table with
  | nil => simp [insertAll]
  | cons entry entries ih =>
      change name ∈ ((table.insert entry.1 entry.2).insertAll entries).names ↔ _
      rw [ih, names_insert]
      split
      · next there =>
          rw [names_cons, List.mem_cons, ← or_assoc, or_congr_left]
          constructor
          · exact .inl
          · rintro (isOld | rfl)
            · exact isOld
            · exact there
      · rw [names_cons, List.mem_append, List.mem_singleton, List.mem_cons, or_assoc]

end Table

/-! ## Names in order -/

namespace Registry

theorem mem_dropRepeats {names : List String} {name : String} :
    name ∈ dropRepeats names ↔ name ∈ names := by
  fun_induction dropRepeats names with
  | case1 => rfl
  | case2 => rfl
  | case3 first names ih => rw [ih]; simp
  | case4 first second names differ ih => rw [List.mem_cons, List.mem_cons, ih]

/-- Of a list in order each name is kept once, in the same order. -/
theorem pairwise_lt_dropRepeats {names : List String} (sorted : names.Pairwise (· ≤ ·)) :
    (dropRepeats names).Pairwise (· < ·) := by
  fun_induction dropRepeats names with
  | case1 => exact List.Pairwise.nil
  | case2 name => exact List.pairwise_singleton _ name
  | case3 first names ih => exact ih (List.pairwise_cons.mp sorted).2
  | case4 first second names differ ih =>
      obtain ⟨above, rest⟩ := List.pairwise_cons.mp sorted
      refine List.pairwise_cons.mpr ⟨fun name isLater => ?_, ih rest⟩
      have strictly : first < second :=
        Std.lt_of_le_of_ne (above second List.mem_cons_self) differ
      rcases List.mem_cons.mp (mem_dropRepeats.mp isLater) with rfl | later
      · exact strictly
      · exact Std.lt_of_lt_of_le strictly ((List.pairwise_cons.mp rest).1 name later)

theorem contains_iff_mem_names {registry : Registry} {name : String} :
    registry.contains name = true ↔
      name ∈ registry.presence.names ∨ name ∈ registry.values.names := by
  rw [contains, Bool.or_eq_true, Table.has_iff_mem_names, Table.has_iff_mem_names]

theorem mem_ruleNames {registry : Registry} {name : String} :
    name ∈ registry.ruleNames ↔ registry.contains name = true := by
  rw [ruleNames, mem_dropRepeats, List.mem_mergeSort, List.mem_append, contains_iff_mem_names]

theorem pairwise_lt_ruleNames (registry : Registry) : registry.ruleNames.Pairwise (· < ·) := by
  apply pairwise_lt_dropRepeats
  have sorted : ((registry.presence.names ++ registry.values.names).mergeSort (· ≤ ·)).Pairwise
      fun a b => decide (a ≤ b) = true := by
    apply List.pairwise_mergeSort
    · intro a b c first second
      rw [decide_eq_true_eq] at first second ⊢
      exact String.le_trans first second
    · intro a b
      simpa using String.le_total a b
  exact sorted.imp of_decide_eq_true

end Registry

/-! ## Registrations -/

-- The instances over few characters are named, as there is another one that tries them all.
instance : DecidablePred IsName := fun name =>
  haveI : ∀ limit : Option Char, Decidable (∀ c ∈ limit, isBlank c = false) :=
    Option.decidableForallMem
  haveI : Decidable (∀ c ∈ name.toList, c ∉ Registry.separators) := List.decidableBAll _ _
  decidable_of_iff
    (name ≠ "" ∧ ((∀ c ∈ name.toList.head?, isBlank c = false) ∧
      ∀ c ∈ name.toList.getLast?, isBlank c = false) ∧
      ∀ c ∈ name.toList, c ∉ Registry.separators)
    ⟨fun ⟨nonempty, unpadded, unseparated⟩ => ⟨nonempty, unpadded, unseparated⟩,
      fun isName => ⟨isName.nonempty, isName.unpadded, isName.unseparated⟩⟩

/-- An attempt to register a rule under a text.  A function that is registered by itself
is a rule of its arity. -/
inductive Registration where
  | value (text : String) (rule : ValueRule)
  | pattern (text pattern : String)
  | presence (text : String) (rule : PresenceRule)

namespace Registration

/-- The value rule that a registration stores, and the name that it stores it under.  The
trimmed text has to be a name, and a pattern has to compile. -/
def value? (compile : PatternSource) : Registration → Option (String × ValueRule)
  | value text rule => if IsName (trim text) then some (trim text, rule) else none
  | pattern text p =>
      if IsName (trim text) then (compile p).map fun regex => (trim text, .pattern regex)
      else none
  | presence _ _ => none

/-- The presence rule that a registration stores, and the name that it stores it under. -/
def presence? : Registration → Option (String × PresenceRule)
  | value _ _ | pattern _ _ => none
  | presence text rule => if IsName (trim text) then some (trim text, rule) else none

end Registration

namespace Registry

/-- Tries to register a rule: the answer, and the registry after the attempt. -/
def attempt (compile : PatternSource) (registry : Registry) :
    Registration → Except RegistrationError Unit × Registry
  | .value text rule => registry.add text rule
  | .pattern text p => registry.addPattern compile text p
  | .presence text rule => registry.addPresence text rule

/-- The registry after some attempts, one after the other. -/
def after (compile : PatternSource) (registry : Registry) (log : List Registration) : Registry :=
  log.foldl (fun registry registration => (registry.attempt compile registration).2) registry

end Registry

section

variable {compile : PatternSource} {registry next : Registry} {registration : Registration}

namespace Registration

/-- No registration stores rules in both tables. -/
theorem value?_eq_none_or_presence?_eq_none (compile : PatternSource)
    (registration : Registration) :
    registration.value? compile = none ∨ registration.presence? = none := by
  cases registration with
  | value => exact .inr rfl
  | pattern => exact .inr rfl
  | presence => exact .inl rfl

/-! Rules are stored under names. -/

theorem isName_of_value? {entry : String × ValueRule}
    (stores : registration.value? compile = some entry) : IsName entry.1 := by
  cases registration with
  | value text rule =>
      rw [value?, Option.ite_none_right_eq_some, Option.some.injEq] at stores
      exact stores.2 ▸ stores.1
  | pattern text p =>
      rw [value?, Option.ite_none_right_eq_some, Option.map_eq_some_iff] at stores
      obtain ⟨isName, regex, _, rfl⟩ := stores
      exact isName
  | presence => cases stores

theorem isName_of_presence? {entry : String × PresenceRule}
    (stores : registration.presence? = some entry) : IsName entry.1 := by
  cases registration with
  | value => cases stores
  | pattern => cases stores
  | presence text rule =>
      rw [presence?, Option.ite_none_right_eq_some, Option.some.injEq] at stores
      exact stores.2 ▸ stores.1

end Registration

namespace Registry

/-- An attempt goes through exactly if the registration has a rule to store, and to store it is
all that it does then. -/
theorem attempt_eq_ok_iff :
    registry.attempt compile registration = (.ok (), next) ↔
      (∃ name rule, registration.value? compile = some (name, rule) ∧
        next = { registry with values := registry.values.insert name rule }) ∨
      ∃ name rule, registration.presence? = some (name, rule) ∧
        next = { registry with presence := registry.presence.insert name rule } := by
  cases registration with
  | value text rule =>
      rw [attempt, add_eq_ok_iff]
      simp [Registration.value?, Registration.presence?, and_assoc]
  | pattern text p =>
      rw [attempt, addPattern_eq_ok_iff]
      simp [add_eq_ok_iff, Registration.value?, Registration.presence?, and_assoc,
        and_left_comm (a := _ = some _)]
  | presence text rule =>
      rw [attempt, addPresence_eq_ok_iff]
      simp [Registration.value?, Registration.presence?, and_assoc]

/-- Whether an attempt goes through does not depend on what is registered. -/
theorem fst_attempt_eq_ok_iff (registry : Registry) (registration : Registration) :
    (registry.attempt compile registration).1 = .ok () ↔
      (registration.value? compile).isSome ∨ registration.presence?.isSome := by
  have stored {α : Type} (stores? : Option (String × α)) (put : String → α → Registry) :
      (∃ next name rule, stores? = some (name, rule) ∧ next = put name rule) ↔ stores?.isSome := by
    cases stores? with
    | none => simp
    | some entry => simp [Prod.ext_iff]
  have succeeds : (registry.attempt compile registration).1 = .ok () ↔
      ∃ next, registry.attempt compile registration = (.ok (), next) := by
    simp [Prod.ext_iff]
  simp only [succeeds, attempt_eq_ok_iff, exists_or]
  exact or_congr (stored _ _) (stored _ _)

/-- An attempt that fails leaves both tables as they were. -/
theorem snd_attempt_of_error {reason : RegistrationError}
    (failed : (registry.attempt compile registration).1 = .error reason) :
    (registry.attempt compile registration).2 = registry := by
  cases registration with
  | value text rule => exact snd_add_of_error failed
  | pattern text p => exact snd_addPattern_of_error failed
  | presence text rule => exact snd_addPresence_of_error failed

/-- An attempt stores what the registration has to store, if anything. -/
theorem snd_attempt_eq (registry : Registry) (registration : Registration) :
    (registry.attempt compile registration).2 =
      ⟨registry.presence.insertAll registration.presence?.toList,
        registry.values.insertAll (registration.value? compile).toList⟩ := by
  have oneTable := registration.value?_eq_none_or_presence?_eq_none compile
  cases answer : (registry.attempt compile registration).1 with
  | ok =>
      have succeeds : registry.attempt compile registration =
          (.ok (), (registry.attempt compile registration).2) := Prod.ext answer rfl
      rcases attempt_eq_ok_iff.mp succeeds with
        ⟨name, rule, stores, nextEq⟩ | ⟨name, rule, stores, nextEq⟩
      · have noPresence := oneTable.resolve_left (by simp [stores])
        rw [nextEq, stores, noPresence]
        rfl
      · have noValue := oneTable.resolve_right (by simp [stores])
        rw [nextEq, stores, noValue]
        rfl
  | error reason =>
      have refused : (registry.attempt compile registration).1 ≠ .ok () := by simp [answer]
      rw [ne_eq, fst_attempt_eq_ok_iff, not_or, Option.not_isSome_iff_eq_none,
        Option.not_isSome_iff_eq_none] at refused
      rw [snd_attempt_of_error answer, refused.1, refused.2]
      rfl

/-- All that a log comes to is to put the rules that it stores into the two tables. -/
theorem after_eq (registry : Registry) (log : List Registration) :
    registry.after compile log =
      ⟨registry.presence.insertAll (log.filterMap Registration.presence?),
        registry.values.insertAll (log.filterMap (Registration.value? compile))⟩ := by
  induction log generalizing registry with
  | nil => rfl
  | cons registration log ih =>
      change (registry.attempt compile registration).2.after compile log = _
      rw [ih, snd_attempt_eq, ← Table.insertAll_append, ← Table.insertAll_append,
        List.filterMap_cons, List.filterMap_cons]
      cases registration.presence? <;> cases registration.value? compile <;> rfl

theorem isName_of_mem_names_builtIn :
    (∀ name ∈ Presence.builtIn.names, IsName name) ∧ ∀ name ∈ builtInValues.names, IsName name := by
  decide +kernel

/-- How a registry comes from the log of the registrations that were tried on it. -/
structure AccountedBy (compile : PatternSource) (registry : Registry) (log : List Registration) :
    Prop where
  /-- The last presence rule that was stored under a name is there, or else the built-in
  one. -/
  presence : ∀ name, registry.presence.find? name =
    (Table.last? (log.filterMap Registration.presence?) name).or (Presence.builtIn.find? name)
  /-- The last value rule that was stored under a name is there, or else the built-in one. -/
  values : ∀ name, registry.values.find? name =
    (Table.last? (log.filterMap (Registration.value? compile)) name).or (builtInValues.find? name)
  /-- The registrations that go through are those that store a rule. -/
  stores : ∀ registration : Registration,
    (registry.attempt compile registration).1 = .ok () ↔
      (registration.value? compile).isSome ∨ registration.presence?.isSome
  /-- A registration that fails leaves both tables as they were. -/
  failed : ∀ (registration : Registration) (reason : RegistrationError),
    (registry.attempt compile registration).1 = .error reason →
      (registry.attempt compile registration).2 = registry
  /-- Presence rules have no effect on the value rules, and the other way round. -/
  apart : ∀ registration : Registration,
    (registration.value? compile = none →
        (registry.attempt compile registration).2.values = registry.values) ∧
      (registration.presence? = none →
        (registry.attempt compile registration).2.presence = registry.presence)
  /-- No name is lost, whatever is tried later. -/
  keeps : ∀ later : List Registration,
    registry.presence.names ⊆ (registry.after compile later).presence.names ∧
      registry.values.names ⊆ (registry.after compile later).values.names
  named : ∀ name, name ∈ registry.presence.names ∨ name ∈ registry.values.names → IsName name
  contains : ∀ name, registry.contains name = true ↔
    name ∈ registry.presence.names ∨ name ∈ registry.values.names
  increasing : registry.ruleNames.Pairwise (· < ·)
  lists : ∀ name, name ∈ registry.ruleNames ↔ registry.contains name = true

/-- Whatever compiles the patterns, and whatever is tried on a new registry, with success or
without, the log of it accounts for what the registry is then. -/
theorem after_builtIn_accountedBy (compile : PatternSource) (log : List Registration) :
    (builtIn.after compile log).AccountedBy compile log where
  presence name := by
    rw [after_eq, Table.find?_insertAll]
    rfl
  values name := by
    rw [after_eq, Table.find?_insertAll]
    rfl
  stores := fst_attempt_eq_ok_iff _
  failed _ _ := snd_attempt_of_error
  apart registration := by
    rw [snd_attempt_eq]
    constructor
    · intro noValue
      rw [noValue]
      rfl
    · intro noPresence
      rw [noPresence]
      rfl
  keeps later := by
    rw [after_eq _ later]
    exact ⟨fun name there => Table.mem_names_insertAll.mpr (.inl there),
      fun name there => Table.mem_names_insertAll.mpr (.inl there)⟩
  named name there := by
    rw [after_eq, Table.mem_names_insertAll, Table.mem_names_insertAll] at there
    rcases there with (builtIn | stored) | (builtIn | stored)
    · exact isName_of_mem_names_builtIn.1 name builtIn
    · obtain ⟨entry, isStored, rfl⟩ := List.mem_map.mp stored
      obtain ⟨registration, _, stores⟩ := List.mem_filterMap.mp isStored
      exact Registration.isName_of_presence? stores
    · exact isName_of_mem_names_builtIn.2 name builtIn
    · obtain ⟨entry, isStored, rfl⟩ := List.mem_map.mp stored
      obtain ⟨registration, _, stores⟩ := List.mem_filterMap.mp isStored
      exact Registration.isName_of_value? stores
  contains _ := contains_iff_mem_names
  increasing := pairwise_lt_ruleNames _
  lists _ := mem_ruleNames

/-- Rules of one name in both tables, one that replaces another, and a text that is no
name. -/
theorem after_builtIn_accountedBy_even :
    let passing : PresenceRule := ⟨.any, fun _ _ _ => some true⟩
    let log : List Registration :=
      [.value "even" (.predicate .any fun _ _ _ => some false), .presence " even" passing,
        .value "a:b" .argumentPattern, .value "even\t" .argumentPattern]
    let registry := builtIn.after Regex.compile? log
    registry.values.find? "even" = some .argumentPattern ∧
      registry.presence.find? "even" = some passing ∧
      registry.presence.find? "required" = Presence.builtIn.find? "required" ∧
      (registry.attempt Regex.compile? (.value "a:b" .argumentPattern)).2 = registry := by
  intro passing log registry
  have accounted := after_builtIn_accountedBy Regex.compile? log
  refine ⟨?_, ?_, ?_, ?_⟩
  · exact (accounted.values "even").trans rfl
  · exact (accounted.presence "even").trans rfl
  · exact (accounted.presence "required").trans rfl
  · exact accounted.failed _ (.reservedSeparator "a:b" ':') rfl

end Registry

end

end Rulebook
